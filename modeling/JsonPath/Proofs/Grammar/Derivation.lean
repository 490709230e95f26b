import JsonPath.Query.Parser

namespace JsonPath

namespace Grammar

/-- A token that stands for a terminal of the grammar, with what it means there. -/
structure Leaf {α : Type} (read : TokenKind → Option α) where
  token : Token
  value : α
  reads : read token.kind = some value

def fixed (kind : TokenKind) : TokenKind → Option Unit := fun k => if k = kind then some () else none

abbrev Mark (kind : TokenKind) := Leaf (fixed kind)

def anchor? : TokenKind → Option Anchor
  | .root => some .root
  | .current => some .current
  | _ => none

def name? : TokenKind → Option String
  | .name name => some name
  | _ => none

def string? : TokenKind → Option String
  | .string s => some s
  | _ => none

def integer? : TokenKind → Option Int
  | .number (.int n) => some n
  | _ => none

def real? : TokenKind → Option Double
  | .number (.double x) => some x
  | _ => none

/-- `STRING | INT | NUMBER | TRUE | FALSE | NULL` -/
inductive Literal
  | string (s : Leaf string?)
  | int (n : Leaf integer?)
  | number (x : Leaf real?)
  | true (mark : Mark .true)
  | false (mark : Mark .false)
  | null (mark : Mark .null)

namespace Literal

def token : Literal → Token
  | string s => s.token
  | int n => n.token
  | number x => x.token
  | true mark | false mark | null mark => mark.token

def value : Literal → Value
  | string s => .string s.value
  | int n => .number (.int n.value)
  | number x => .number (.double x.value)
  | true _ => .bool .true
  | false _ => .bool .false
  | null _ => .null

end Literal

/-- `EQ | NE | LT | LE | GT | GE` -/
inductive ComparisonOp
  | eq (mark : Mark .eq)
  | ne (mark : Mark .ne)
  | lt (mark : Mark .lt)
  | le (mark : Mark .le)
  | gt (mark : Mark .gt)
  | ge (mark : Mark .ge)

namespace ComparisonOp

def token : ComparisonOp → Token
  | eq mark | ne mark | lt mark | le mark | gt mark | ge mark => mark.token

def value : ComparisonOp → Comparison
  | eq _ => .eq
  | ne _ => .ne
  | lt _ => .lt
  | le _ => .le
  | gt _ => .gt
  | ge _ => .ge

end ComparisonOp

inductive Symbol
  | query | segments | segment | bracketedSelection | selectors | selector
  | logicalExpr | disjuncts | logicalAnd | conjuncts | basicExpr | parenExpr | testExpr | comparable
  | filterQuery | functionExpr | arguments | functionArgument

/-- `INT? COLON INT? (COLON INT?)?` -/
structure SliceForm where
  start : Option (Leaf integer?)
  colon : Mark .colon
  stop : Option (Leaf integer?)
  step : Option (Mark .colon × Option (Leaf integer?))

/-- The derivations from each symbol, with one constructor for each production. -/
inductive Derivation : Symbol → Type
  | query (root : Mark .root) (ss : Derivation .segments) : Derivation .query
  | noSegment : Derivation .segments
  | moreSegments (s : Derivation .segment) (ss : Derivation .segments) : Derivation .segments
  | childName (dot : Mark .dot) (name : Leaf name?) : Derivation .segment
  | childWildcard (dot : Mark .dot) (star : Mark .wildcard) : Derivation .segment
  | childBracketed (b : Derivation .bracketedSelection) : Derivation .segment
  | descendantName (dots : Mark .dotdot) (name : Leaf name?) : Derivation .segment
  | descendantWildcard (dots : Mark .dotdot) (star : Mark .wildcard) : Derivation .segment
  | descendantBracketed (dots : Mark .dotdot) (b : Derivation .bracketedSelection) :
      Derivation .segment
  | bracketedSelection (left : Mark .lbracket) (ss : Derivation .selectors) (right : Mark .rbracket) :
      Derivation .bracketedSelection
  | lastSelector (s : Derivation .selector) : Derivation .selectors
  | moreSelectors (s : Derivation .selector) (comma : Mark .comma) (ss : Derivation .selectors) :
      Derivation .selectors
  | nameSelector (name : Leaf string?) : Derivation .selector
  | wildcardSelector (star : Mark .wildcard) : Derivation .selector
  | indexSelector (index : Leaf integer?) : Derivation .selector
  | sliceSelector (form : SliceForm) : Derivation .selector
  | filterSelector (question : Mark .question) (c : Derivation .logicalExpr) : Derivation .selector
  | logicalExpr (cs : Derivation .disjuncts) : Derivation .logicalExpr
  | lastDisjunct (c : Derivation .logicalAnd) : Derivation .disjuncts
  | moreDisjuncts (c : Derivation .logicalAnd) (or : Mark .or) (cs : Derivation .disjuncts) :
      Derivation .disjuncts
  | logicalAnd (cs : Derivation .conjuncts) : Derivation .logicalAnd
  | lastConjunct (c : Derivation .basicExpr) : Derivation .conjuncts
  | moreConjuncts (c : Derivation .basicExpr) (and : Mark .and) (cs : Derivation .conjuncts) :
      Derivation .conjuncts
  | paren (p : Derivation .parenExpr) : Derivation .basicExpr
  | notParen (bang : Mark .not) (p : Derivation .parenExpr) : Derivation .basicExpr
  | comparison (left : Derivation .comparable) (operator : ComparisonOp)
      (right : Derivation .comparable) : Derivation .basicExpr
  | test (t : Derivation .testExpr) : Derivation .basicExpr
  | notTest (bang : Mark .not) (t : Derivation .testExpr) : Derivation .basicExpr
  | parenExpr (left : Mark .lparen) (c : Derivation .logicalExpr) (right : Mark .rparen) :
      Derivation .parenExpr
  | queryTest (q : Derivation .filterQuery) : Derivation .testExpr
  | callTest (c : Derivation .functionExpr) : Derivation .testExpr
  | literalComparable (literal : Literal) : Derivation .comparable
  | queryComparable (q : Derivation .filterQuery) : Derivation .comparable
  | callComparable (c : Derivation .functionExpr) : Derivation .comparable
  | filterQuery (anchor : Leaf anchor?) (ss : Derivation .segments) : Derivation .filterQuery
  | emptyCall (name : Leaf name?) (left : Mark .lparen) (right : Mark .rparen) :
      Derivation .functionExpr
  | call (name : Leaf name?) (left : Mark .lparen) (as : Derivation .arguments)
      (right : Mark .rparen) : Derivation .functionExpr
  | lastArgument (a : Derivation .functionArgument) : Derivation .arguments
  | moreArguments (a : Derivation .functionArgument) (comma : Mark .comma)
      (as : Derivation .arguments) : Derivation .arguments
  | literalArgument (literal : Literal) : Derivation .functionArgument
  | logicalArgument (c : Derivation .logicalExpr) : Derivation .functionArgument

def optionalTokens : Option (Leaf integer?) → List Token
  | none => []
  | some n => [n.token]

namespace SliceForm

def stepTokens : Option (Mark .colon × Option (Leaf integer?)) → List Token
  | none => []
  | some (colon, n?) => colon.token :: optionalTokens n?

def tokens (form : SliceForm) : List Token :=
  optionalTokens form.start ++ form.colon.token :: (optionalTokens form.stop ++ stepTokens form.step)

end SliceForm

namespace Derivation

@[simp, grind =]
def tokens : {s : Symbol} → Derivation s → List Token
  | _, query root ss => root.token :: ss.tokens
  | _, noSegment => []
  | _, moreSegments s ss => s.tokens ++ ss.tokens
  | _, childName dot name => [dot.token, name.token]
  | _, childWildcard dot star => [dot.token, star.token]
  | _, childBracketed b => b.tokens
  | _, descendantName dots name => [dots.token, name.token]
  | _, descendantWildcard dots star => [dots.token, star.token]
  | _, descendantBracketed dots b => dots.token :: b.tokens
  | _, bracketedSelection left ss right => left.token :: (ss.tokens ++ [right.token])
  | _, lastSelector s => s.tokens
  | _, moreSelectors s comma ss => s.tokens ++ comma.token :: ss.tokens
  | _, nameSelector name => [name.token]
  | _, wildcardSelector star => [star.token]
  | _, indexSelector index => [index.token]
  | _, sliceSelector form => form.tokens
  | _, filterSelector question c => question.token :: c.tokens
  | _, logicalExpr cs => cs.tokens
  | _, lastDisjunct c => c.tokens
  | _, moreDisjuncts c or cs => c.tokens ++ or.token :: cs.tokens
  | _, logicalAnd cs => cs.tokens
  | _, lastConjunct c => c.tokens
  | _, moreConjuncts c and cs => c.tokens ++ and.token :: cs.tokens
  | _, paren p => p.tokens
  | _, notParen bang p => bang.token :: p.tokens
  | _, comparison left operator right => left.tokens ++ operator.token :: right.tokens
  | _, test t => t.tokens
  | _, notTest bang t => bang.token :: t.tokens
  | _, parenExpr left c right => left.token :: (c.tokens ++ [right.token])
  | _, queryTest q => q.tokens
  | _, callTest c => c.tokens
  | _, literalComparable literal => [literal.token]
  | _, queryComparable q => q.tokens
  | _, callComparable c => c.tokens
  | _, filterQuery anchor ss => anchor.token :: ss.tokens
  | _, emptyCall name left right => [name.token, left.token, right.token]
  | _, call name left as right => name.token :: left.token :: (as.tokens ++ [right.token])
  | _, lastArgument a => a.tokens
  | _, moreArguments a comma as => a.tokens ++ comma.token :: as.tokens
  | _, literalArgument literal => [literal.token]
  | _, logicalArgument c => c.tokens

end Derivation

end Grammar

end JsonPath
