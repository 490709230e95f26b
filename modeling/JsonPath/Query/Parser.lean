import JsonPath.Query.Fault

namespace JsonPath

attribute [local instance] corePow

namespace Query

namespace Parser

/-- Reads the front of a token list, whose last token is the end. -/
abbrev Reader (α : Type) := List Token → Except ParseError (α × List Token)

def syntaxError {α : Type} (fault : SyntaxFault) : Except ParseError α :=
  .error (.fault (.syntactic fault))

def typeError {α : Type} (fault : TypeFault) : Except ParseError α :=
  .error (.fault (.typing fault))

def unexpected {α : Type} : List Token → Except ParseError α
  | [] => syntaxError (.unexpectedEnd 0)
  | t :: _ =>
    if t.kind = .eof then syntaxError (.unexpectedEnd t.offset)
    else syntaxError (.unexpected t.text t.offset)

/-- Asks that the token in front can follow what has been read. What has been read is checked for its
types and ranges only after that. -/
def follow (p : TokenKind → Bool) : List Token → Except ParseError Unit
  | [] => unexpected []
  | t :: ts => if p t.kind then .ok () else unexpected (t :: ts)

def comparison? : TokenKind → Option Comparison
  | .eq => some .eq
  | .ne => some .ne
  | .lt => some .lt
  | .le => some .le
  | .gt => some .gt
  | .ge => some .ge
  | _ => none

def literal? : TokenKind → Option Value
  | .string s => some (.string s)
  | .number n => some (.number n)
  | .true => some (.bool true)
  | .false => some (.bool false)
  | .null => some .null
  | _ => none

def endsSelector : TokenKind → Bool
  | .comma | .rbracket => true
  | _ => false

def endsDisjunction : TokenKind → Bool
  | .rparen => true
  | k => endsSelector k

def endsConjunction : TokenKind → Bool
  | .or => true
  | k => endsDisjunction k

def endsTest : TokenKind → Bool
  | .and => true
  | k => endsConjunction k

def endsOperand (k : TokenKind) : Bool := (comparison? k).isSome || endsTest k

/-- Indices and slice bounds stay within the integers that binary64 tells apart. -/
def maxIndex : Int := 2 ^ (53 : Nat) - 1

def checkInteger (n : Int) (offset : Nat) : Except ParseError Int :=
  if -maxIndex ≤ n ∧ n ≤ maxIndex then .ok n else syntaxError (.integerOutOfRange n offset)

def checkBound : Option (Int × Nat) → Except ParseError (Option Int)
  | none => .ok none
  | some (n, offset) => (checkInteger n offset).map some

def checkLogical : Condition → Except ParseError Unit
  | .call f _ => if f.result = .value then typeError (.valueAsTest f) else .ok ()
  | _ => .ok ()

def checkComparable (offset : Nat) : Operand → Except ParseError Unit
  | .literal _ => .ok ()
  | .query q => if q.isSingular then .ok () else typeError (.nonSingularComparison offset)
  | .call f _ => if f.result = .value then .ok () else typeError (.incomparableCall f offset)

def conditionType : Condition → DeclaredType
  | .call f _ => f.result
  | _ => .logical

/-- What an argument passes to a parameter of a declared type, or what was found instead. -/
def fitArgument : DeclaredType → Argument → Except Found Argument
  | .value, .condition (.selects q) =>
    if q.isSingular then .ok (.query q) else .error .nonSingularQuery
  | .value, .condition c =>
    if conditionType c = .value then .ok (.condition c) else .error (.type (conditionType c))
  | .value, a => .ok a
  | .nodes, .condition (.selects q) => .ok (.query q)
  | .nodes, .condition c =>
    if conditionType c = .nodes then .ok (.condition c) else .error (.type (conditionType c))
  | .nodes, .query q => .ok (.query q)
  | .nodes, .literal _ => .error (.type .value)
  | .logical, .literal _ => .error .literal
  | .logical, .condition c =>
    if conditionType c = .value then .error (.type .value) else .ok (.condition c)
  | .logical, a => .ok a

def fitArguments (f : Function) (offset : Nat) :
    Nat → List DeclaredType → List Argument → Except ParseError (List Argument)
  | place, type :: types, a :: arguments =>
    match fitArgument type a with
    | .error found => typeError (.argumentType place f type found offset)
    | .ok a => do
      let arguments ← fitArguments f offset (place + 1) types arguments
      return a :: arguments
  | _, _, _ => .ok []

/-- The arguments of a call stand right after its name, the function is known, and its parameters
take the arguments. -/
def checkCall (name : String) (token paren : Token) (arguments : List Argument) :
    Except ParseError (Function × List Argument) :=
  if paren.offset ≠ token.stop then syntaxError (.detachedArguments name token.stop)
  else match Function.ofName? name with
  | none => typeError (.unknownFunction name token.offset)
  | some f =>
    if arguments.length ≠ f.arity then typeError (.argumentCount f arguments.length token.offset)
    else do
      let arguments ← fitArguments f token.offset 1 f.parameters arguments
      return (f, arguments)

def separated {α : Type} (item : Reader α) (close : TokenKind) : Nat → Reader (List α)
  | 0, ts => unexpected ts
  | fuel + 1, ts => do
    let (a, ts) ← item ts
    match ts with
    | [] => unexpected []
    | t :: rest =>
      if t.kind = .comma then do
        let (as, rest) ← separated item close fuel rest
        return (a :: as, rest)
      else if t.kind = close then return ([a], rest)
      else unexpected (t :: rest)

def joined {α : Type} (item : Reader α) (mark : TokenKind) : Nat → Reader (List α)
  | 0, ts => unexpected ts
  | fuel + 1, ts => do
    let (a, ts) ← item ts
    match ts with
    | [] => return ([a], [])
    | t :: rest =>
      if t.kind = mark then do
        let (as, rest) ← joined item mark fuel rest
        return (a :: as, rest)
      else return ([a], t :: rest)

def integer? : List Token → Option (Int × Nat) × List Token
  | [] => (none, [])
  | t :: ts =>
    match t.kind with
    | .number (.int n) => (some (n, t.offset), ts)
    | _ => (none, t :: ts)

def slice (start : Option (Int × Nat)) : Reader Selector
  | [] => unexpected []
  | t :: ts =>
    if t.kind = .colon then do
      let (stop, ts) := integer? ts
      let (step, ts) := match ts with
        | [] => (none, [])
        | t :: rest => if t.kind = .colon then integer? rest else (none, t :: rest)
      follow endsSelector ts
      let start ← checkBound start
      let stop ← checkBound stop
      let step ← checkBound step
      return (.slice start stop step, ts)
    else unexpected (t :: ts)

def selector (inner : Reader Condition) : Reader Selector
  | [] => unexpected []
  | t :: ts =>
    match t.kind with
    | .string s => .ok (.name s, ts)
    | .wildcard => .ok (.wildcard, ts)
    | .colon => slice none (t :: ts)
    | .number (.int n) =>
      match ts with
      | [] => unexpected []
      | u :: _ =>
        if u.kind = .colon then slice (some (n, t.offset)) ts
        else do
          follow endsSelector ts
          let n ← checkInteger n t.offset
          return (.index n, ts)
    | .question => do
      let (c, ts) ← inner ts
      follow endsSelector ts
      checkLogical c
      return (.filter c, ts)
    | _ => unexpected (t :: ts)

def bracketed (fuel : Nat) (inner : Reader Condition) : Reader (List Selector) :=
  separated (selector inner) .rbracket fuel

def shorthand (fuel : Nat) (inner : Reader Condition) (afterDescent : Bool) :
    Reader (List Selector)
  | [] => unexpected []
  | t :: ts =>
    match t.kind with
    | .name name => .ok ([.name name], ts)
    | .wildcard => .ok ([.wildcard], ts)
    | .lbracket => if afterDescent then bracketed fuel inner ts else unexpected (t :: ts)
    | _ => unexpected (t :: ts)

def segments (inner : Reader Condition) : Nat → Reader (List Segment)
  | _, [] => .ok ([], [])
  | 0, ts => .ok ([], ts)
  | fuel + 1, t :: ts =>
    match t.kind with
    | .dot => do
      let (ss, ts) ← shorthand fuel inner false ts
      let (more, ts) ← segments inner fuel ts
      return (.child ss :: more, ts)
    | .dotdot => do
      let (ss, ts) ← shorthand fuel inner true ts
      let (more, ts) ← segments inner fuel ts
      return (.descendant ss :: more, ts)
    | .lbracket => do
      let (ss, ts) ← bracketed fuel inner ts
      let (more, ts) ← segments inner fuel ts
      return (.child ss :: more, ts)
    | _ => .ok ([], t :: ts)

def argument (inner : Reader Condition) : Reader Argument
  | [] => unexpected []
  | t :: ts =>
    match literal? t.kind with
    | some v =>
      match ts with
      | u :: _ =>
        if (comparison? u.kind).isSome then do
          let (c, ts) ← inner (t :: ts)
          return (.condition c, ts)
        else .ok (.literal v, ts)
      | [] => .ok (.literal v, ts)
    | none => do
      let (c, ts) ← inner (t :: ts)
      return (.condition c, ts)

def arguments (fuel : Nat) (inner : Reader Condition) : Reader (List Argument)
  | [] => unexpected []
  | t :: ts =>
    if t.kind = .rparen then .ok ([], ts)
    else separated (argument inner) .rparen fuel (t :: ts)

def call (fuel : Nat) (inner : Reader Condition) (name : String) (token : Token) :
    Reader (Function × List Argument)
  | [] => unexpected []
  | t :: ts =>
    if t.kind = .lparen then do
      let (as, ts) ← arguments fuel inner ts
      follow endsOperand ts
      let call ← checkCall name token t as
      return (call, ts)
    else unexpected (t :: ts)

def operand (fuel : Nat) (inner : Reader Condition) : Reader Operand
  | [] => unexpected []
  | t :: ts =>
    match t.kind with
    | .root => do
      let (ss, ts) ← segments inner fuel ts
      return (.query (.mk .root ss), ts)
    | .current => do
      let (ss, ts) ← segments inner fuel ts
      return (.query (.mk .current ss), ts)
    | .name name => do
      let ((f, as), ts) ← call fuel inner name t ts
      return (.call f as, ts)
    | k =>
      match literal? k with
      | some v => .ok (.literal v, ts)
      | none => unexpected (t :: ts)

def asTest : Operand → List Token → Except ParseError Condition
  | .query q, _ => .ok (.selects q)
  | .call f as, _ => .ok (.call f as)
  | .literal _, ts => unexpected ts

def compared (fuel : Nat) (inner : Reader Condition) (left : Operand) (operator : Comparison)
    (offset : Nat) : Reader Condition := fun ts => do
  let (right, ts) ← operand fuel inner ts
  follow endsTest ts
  checkComparable offset left
  checkComparable offset right
  return (.compare operator left right, ts)

def testOrComparison (fuel : Nat) (inner : Reader Condition) : Reader Condition := fun ts => do
  let (left, ts) ← operand fuel inner ts
  match ts with
  | [] => unexpected []
  | t :: rest =>
    match comparison? t.kind with
    | some operator => compared fuel inner left operator t.offset rest
    | none => do
      let c ← asTest left ts
      return (c, ts)

def parenthesised (inner : Reader Condition) : Reader Condition := fun ts => do
  let (c, ts) ← inner ts
  match ts with
  | [] => unexpected []
  | t :: rest =>
    if t.kind = .rparen then do
      follow endsTest rest
      checkLogical c
      return (c, rest)
    else unexpected (t :: rest)

def negated (fuel : Nat) (inner : Reader Condition) : Reader Condition
  | [] => unexpected []
  | t :: ts =>
    if t.kind = .lparen then parenthesised inner ts
    else if (literal? t.kind).isSome then unexpected (t :: ts)
    else do
      let (operand, ts) ← operand fuel inner (t :: ts)
      follow endsTest ts
      let c ← asTest operand ts
      checkLogical c
      return (c, ts)

def basic (fuel : Nat) (inner : Reader Condition) : Reader Condition
  | [] => unexpected []
  | t :: ts =>
    if t.kind = .lparen then parenthesised inner ts
    else if t.kind = .not then do
      let (c, ts) ← negated fuel inner ts
      return (.negation c, ts)
    else testOrComparison fuel inner (t :: ts)

def checkAllLogical : List Condition → Except ParseError Unit
  | [] => .ok ()
  | c :: cs => do
    checkLogical c
    checkAllLogical cs

/-- One operand stands for itself, and several are checked once no more can follow. -/
def conjunction (fuel : Nat) (inner : Reader Condition) : Reader Condition := fun ts => do
  let (cs, ts) ← joined (basic fuel inner) .and fuel ts
  match cs with
  | [c] => return (c, ts)
  | _ => do
    follow endsConjunction ts
    checkAllLogical cs
    return (.all cs, ts)

def disjunction (fuel : Nat) (inner : Reader Condition) : Reader Condition := fun ts => do
  let (cs, ts) ← joined (conjunction fuel inner) .or fuel ts
  match cs with
  | [c] => return (c, ts)
  | _ => do
    follow endsDisjunction ts
    checkAllLogical cs
    return (.any cs, ts)

/-- A logical expression. One inside another stands in brackets or parentheses, so a list of tokens
cannot nest them deeper than it is long. -/
def condition : Nat → Reader Condition
  | 0 => unexpected
  | fuel + 1 => disjunction (fuel + 1) (condition fuel)

def query (fuel : Nat) : List Token → Except ParseError Query
  | [] => unexpected []
  | t :: ts =>
    if t.kind = .root then do
      let (ss, ts) ← segments (condition fuel) fuel ts
      match ts with
      | [] => return .mk .root ss
      | u :: rest => if u.kind = .eof then return .mk .root ss else unexpected (u :: rest)
    else unexpected (t :: ts)

end Parser

/-- Refuses the first bracket or parenthesis that nests deeper than the limit. -/
def checkNesting (limit : Int) : Int → List Token → Except ParseError Unit
  | _, [] => .ok ()
  | depth, t :: ts =>
    match t.kind with
    | .lparen | .lbracket =>
      if depth + 1 > limit then Parser.syntaxError (.tooDeep limit t.offset)
      else checkNesting limit (depth + 1) ts
    | .rparen | .rbracket => checkNesting limit (depth - 1) ts
    | _ => checkNesting limit depth ts

def ofTokens (ts : List Token) : Except ParseError Query := Parser.query ts.length ts

def parse (text : String) (maxDepth : Int) : Except ParseError Query :=
  match Token.scan text.toList with
  | .error (.malformed cause offset) => .error (.fault (.scan cause offset))
  | .error (.integerTooLong digits) => .error (.integerTooLong digits)
  | .ok ts => do
    checkNesting maxDepth 0 ts
    ofTokens ts

end Query

end JsonPath
