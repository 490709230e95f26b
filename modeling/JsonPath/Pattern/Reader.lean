import JsonPath.Number.Numeral
import JsonPath.Pattern
import JsonPath.Text.Cursor
import JsonPath.Text.Quoted

namespace JsonPath

namespace Pattern

inductive Cause
  | unexpected (c : Char)
  | quantifierDigits
  | openQuantifier
  | quantifierOrder
  | openGroup
  | danglingBackslash
  | categoryBrace
  | openCategory
  | unknownCategory (name : String)
  | invalidEscape (c : Char)
  | classCharacter
  | openClass
  | misplacedHyphen
  | categoryBound
  | rangeOrder
  | emptyClass
  deriving DecidableEq

def Cause.message : Cause → String
  | unexpected c => "unexpected " ++ quoted (String.singleton c)
  | quantifierDigits => "expected digits in range quantifier"
  | openQuantifier => "unterminated range quantifier"
  | quantifierOrder => "range quantifier bounds out of order"
  | openGroup => "missing ')'"
  | danglingBackslash => "dangling backslash"
  | categoryBrace => "expected '\x7b' after category escape"
  | openCategory => "unterminated category escape"
  | unknownCategory name => "unknown category " ++ quoted name
  | invalidEscape c => "invalid escape '\\" ++ String.singleton c ++ "'"
  | classCharacter => "invalid character in class"
  | openClass => "unterminated character class"
  | misplacedHyphen => "'-' must start or end a character class"
  | categoryBound => "category escape cannot bound a range"
  | rangeOrder => "character range out of order"
  | emptyClass => "empty character class"

/-- A bound with too many digits is refused apart from the rules of patterns. -/
inductive ReadError
  | invalid (cause : Cause) (offset : Nat)
  | integerTooLong (digits : Nat)
  deriving DecidableEq

def Cause.located (cause : Cause) (offset : Nat) (source : String) : String :=
  cause.message ++ " at position " ++ toString offset ++ " in " ++ quoted source

namespace Reader

def fail {α : Type} (cause : Cause) (c : Cursor) : Except ReadError α :=
  .error (.invalid cause c.offset)

def isSpecial (c : Char) : Bool := ".\\?*+\x7b\x7d()[]|".toList.contains c

def isEscapable (c : Char) : Bool := "()*+-.?[\\]^\x7b|\x7d".toList.contains c

def controlEscape? : Char → Option Char
  | 'n' => some '\n'
  | 'r' => some '\r'
  | 't' => some '\t'
  | _ => none

def toNat (ds : List Char) : Except ReadError Nat :=
  if ds.length > maxIntegerDigits then .error (.integerTooLong ds.length)
  else .ok (Numeral.digitsValue ds)

def number? (c : Cursor) : Except ReadError (Option Nat × Cursor) :=
  let (ds, rest) := c.rest.span Numeral.isDigit
  if ds.isEmpty then .ok (none, c)
  else do
    let n ← toNat ds
    return (some n, ⟨c.offset + ds.length, rest⟩)

def closeQuantifier (q : Quantifier) (c : Cursor) : Except ReadError (Option Quantifier × Cursor) :=
  match c.rest with
  | '\x7d' :: rest =>
    let c := ⟨c.offset + 1, rest⟩
    match q with
    | .between low high => if high < low then fail .quantifierOrder c else .ok (some q, c)
    | _ => .ok (some q, c)
  | _ => fail .openQuantifier c

def quantifier (c : Cursor) : Except ReadError (Option Quantifier × Cursor) :=
  match c.rest with
  | '*' :: rest => .ok (some .star, ⟨c.offset + 1, rest⟩)
  | '+' :: rest => .ok (some .plus, ⟨c.offset + 1, rest⟩)
  | '?' :: rest => .ok (some .optional, ⟨c.offset + 1, rest⟩)
  | '\x7b' :: rest => do
    let (low?, c) ← number? ⟨c.offset + 1, rest⟩
    match low? with
    | none => fail .quantifierDigits c
    | some low =>
      match c.rest with
      | ',' :: rest => do
        let (high?, c) ← number? ⟨c.offset + 1, rest⟩
        match high? with
        | none => closeQuantifier (.atLeast low) c
        | some high => closeQuantifier (.between low high) c
      | _ => closeQuantifier (.exactly low) c
  | _ => .ok (none, c)

inductive Escape
  | char (c : Char) (escaped : Bool)
  | category (negated : Bool) (name : String)

def categoryName (c : Cursor) : Except ReadError (String × Cursor) :=
  match c.rest with
  | '\x7b' :: rest =>
    let (name, after) := rest.span (· ≠ '\x7d')
    if after.isEmpty then fail .openCategory c
    else if categoryNames.contains (String.ofList name) then
      .ok (String.ofList name, ⟨c.offset + name.length + 2, after.drop 1⟩)
    else fail (.unknownCategory (String.ofList name)) c
  | _ => fail .categoryBrace c

def escape (c : Cursor) : Except ReadError (Escape × Cursor) :=
  match c.rest with
  | [] => fail .danglingBackslash c
  | d :: rest =>
    let c : Cursor := ⟨c.offset + 1, rest⟩
    match controlEscape? d with
    | some control => .ok (.char control true, c)
    | none =>
      if isEscapable d then .ok (.char d true, c)
      else if d = 'p' ∨ d = 'P' then do
        let (name, c) ← categoryName c
        return (.category (d == 'P') name, c)
      else fail (.invalidEscape d) c

def classCharacter (c : Cursor) : Except ReadError (Escape × Cursor) :=
  match c.rest with
  | [] => fail .classCharacter c
  | d :: rest =>
    if d = '\\' then escape ⟨c.offset + 1, rest⟩
    else if d = '[' ∨ d = ']' ∨ d = '-' then fail .classCharacter c
    else .ok (.char d false, ⟨c.offset + 1, rest⟩)

/-- The range from one character to another; a category is no bound. -/
def range (low high : Escape) (c : Cursor) : Except ReadError ClassItem :=
  match low, high with
  | .char low lowEscaped, .char high highEscaped =>
    if high < low then fail .rangeOrder c else .ok (.range low lowEscaped high highEscaped)
  | _, _ => fail .categoryBound c

def Escape.item : Escape → ClassItem
  | .char c escaped => .char c escaped
  | .category negated name => .category negated name

/-- A member of a class. A hyphen makes a range unless the class ends after it. -/
def classItem (c : Cursor) : Except ReadError (ClassItem × Cursor) := do
  let (low, c) ← classCharacter c
  match c.rest with
  | '-' :: d :: rest =>
    if d = ']' then return (low.item, c)
    else do
      let (high, c) ← classCharacter ⟨c.offset + 1, d :: rest⟩
      let item ← range low high c
      return (item, c)
  | _ => return (low.item, c)

/-- The members of a class up to its closing bracket. A hyphen here is the last member. -/
def classItems : Nat → Cursor → Except ReadError (List ClassItem × Cursor)
  | 0, c => fail .openClass c
  | fuel + 1, c =>
    match c.rest with
    | [] => fail .openClass c
    | ']' :: rest => .ok ([], ⟨c.offset + 1, rest⟩)
    | '-' :: ']' :: rest => .ok ([.char '-' false], ⟨c.offset + 2, rest⟩)
    | '-' :: _ => fail .misplacedHyphen ⟨c.offset + 1, c.rest.drop 1⟩
    | _ => do
      let (item, c) ← classItem c
      let (items, c) ← classItems fuel c
      return (item :: items, c)

/-- A class after its opening bracket. A circumflex negates it, and a hyphen may come first. -/
def characterClass (c : Cursor) : Except ReadError (Pattern × Cursor) := do
  let (negated, c) := match c.rest with
    | '^' :: rest => (true, Cursor.mk (c.offset + 1) rest)
    | _ => (false, c)
  let (hyphen, c) := match c.rest with
    | '-' :: rest => ([ClassItem.char '-' false], Cursor.mk (c.offset + 1) rest)
    | _ => ([], c)
  let (items, after) ← classItems (c.rest.length + 1) c
  if (hyphen ++ items).isEmpty then fail .emptyClass c
  else return (.set negated (hyphen ++ items), after)

def atom (inner : Cursor → Except ReadError (Pattern × Cursor)) (c : Cursor) :
    Except ReadError (Pattern × Cursor) :=
  match c.rest with
  | [] => .ok (.empty, c)
  | d :: rest =>
    let next : Cursor := ⟨c.offset + 1, rest⟩
    if d = '(' then do
      let (body, c) ← inner next
      match c.rest with
      | ')' :: rest => return (.group body, ⟨c.offset + 1, rest⟩)
      | _ => fail .openGroup c
    else if d = '.' then .ok (.dot, next)
    else if d = '[' then characterClass next
    else if d = '\\' then do
      let (e, c) ← escape next
      match e with
      | .char e escaped => return (.char e escaped, c)
      | .category negated name => return (.category negated name, c)
    else if isSpecial d then fail (.unexpected d) c
    else .ok (.char d false, next)

def piece (inner : Cursor → Except ReadError (Pattern × Cursor)) (c : Cursor) :
    Except ReadError (Pattern × Cursor) := do
  let (a, c) ← atom inner c
  let (q?, c) ← quantifier c
  match q? with
  | none => return (a, c)
  | some q => return (.quantified a q, c)

def endsBranch : List Char → Bool
  | [] => true
  | c :: _ => c == '|' || c == ')'

def branch (inner : Cursor → Except ReadError (Pattern × Cursor)) :
    Nat → Cursor → Except ReadError (Pattern × Cursor)
  | 0, c => .ok (.empty, c)
  | fuel + 1, c =>
    if endsBranch c.rest then .ok (.empty, c)
    else do
      let (p, c) ← piece inner c
      if endsBranch c.rest then return (p, c)
      else do
        let (ps, c) ← branch inner fuel c
        return (.sequence p ps, c)

def branches (inner : Cursor → Except ReadError (Pattern × Cursor)) (fuel : Nat) :
    Nat → Cursor → Except ReadError (Pattern × Cursor)
  | 0, c => branch inner fuel c
  | count + 1, c => do
    let (b, c) ← branch inner fuel c
    match c.rest with
    | '|' :: rest => do
      let (bs, c) ← branches inner fuel count ⟨c.offset + 1, rest⟩
      return (.alternatives b bs, c)
    | _ => return (b, c)

/-- A pattern. Parentheses cannot nest deeper than the text is long. -/
def pattern : Nat → Cursor → Except ReadError (Pattern × Cursor)
  | 0, c => .ok (.empty, c)
  | fuel + 1, c => branches (pattern fuel) (fuel + 1) (fuel + 1) c

end Reader

def read (source : String) : Except ReadError Pattern := do
  let start := Cursor.ofString source
  let (p, c) ← Reader.pattern (start.rest.length + 1) start
  match c.rest with
  | [] => return p
  | d :: _ => Reader.fail (.unexpected d) c

end Pattern

end JsonPath
