import JsonPath.Pattern.Matcher
import JsonPath.Proofs.Pattern.Language

namespace JsonPath

/-- A pattern of a matching engine. A character is a class of its own. -/
inductive Regex
  | empty
  | set (negated : Bool) (items : List ClassItem)
  | repeated (body : Regex) (low : Nat) (high? : Option Nat)
  | sequence (first rest : Regex)
  | alternatives (first rest : Regex)
  deriving DecidableEq

namespace Regex

def language : Regex → Language Char
  | empty => 1
  | set negated items => Letter fun c => items.any (·.holds c) = !negated
  | repeated r low high? => Repeats r.language low high?
  | sequence r rs => r.language * rs.language
  | alternatives r rs => r.language + rs.language

def isSyntax (c : Char) : Bool := ".^$*+?\x7b\x7d()[]|\\".toList.contains c

def category (negated : Bool) (cs : List Char) : Option (ClassItem × List Char) :=
  let (name, rest) := cs.span (· ≠ '\x7d')
  if Pattern.categoryNames.contains (String.ofList name) && !rest.isEmpty then
    some (.category negated (String.ofList name), rest.drop 1)
  else none

/-- An escape after its backslash. A letter or a digit never stands for itself. -/
def escape : List Char → Option (ClassItem × List Char)
  | [] => none
  | 'n' :: cs => some (.char '\n' false, cs)
  | 'r' :: cs => some (.char '\r' false, cs)
  | 't' :: cs => some (.char '\t' false, cs)
  | 'p' :: '\x7b' :: cs => category false cs
  | 'P' :: '\x7b' :: cs => category true cs
  | c :: cs => if c.isAlphanum then none else some (.char c false, cs)

def classCharacter : List Char → Option (ClassItem × List Char)
  | [] => none
  | c :: cs =>
    if c = '\\' then escape cs
    else if c = '[' ∨ c = ']' ∨ c = '-' then none
    else some (.char c false, cs)

def classItem (cs : List Char) : Option (ClassItem × List Char) := do
  let (first, rest) ← classCharacter cs
  match rest with
  | '-' :: rest => do
    let (last, rest) ← classCharacter rest
    match first, last with
    | .char low _, .char high _ => if low ≤ high then some (.range low false high false, rest) else none
    | _, _ => none
  | _ => some (first, rest)

def classItems : Nat → List Char → Option (List ClassItem × List Char)
  | 0, _ => none
  | _ + 1, ']' :: rest => some ([], rest)
  | fuel + 1, cs => do
    let (item, rest) ← classItem cs
    let (items, rest) ← classItems fuel rest
    some (item :: items, rest)

def characterClass (negated : Bool) (cs : List Char) : Option (Regex × List Char) := do
  let (item, rest) ← classItem cs
  let (items, rest) ← classItems (rest.length + 1) rest
  some (set negated (item :: items), rest)

def quantifier : List Char → Option (Option (Nat × Option Nat) × List Char)
  | '*' :: cs => some (some (0, none), cs)
  | '+' :: cs => some (some (1, none), cs)
  | '?' :: cs => some (some (0, some 1), cs)
  | '\x7b' :: cs =>
    let (low, rest) := cs.span Numeral.isDigit
    if low.isEmpty then none
    else match rest with
    | '\x7d' :: rest =>
      some (some (Numeral.digitsValue low, some (Numeral.digitsValue low)), rest)
    | ',' :: rest =>
      let (high, rest) := rest.span Numeral.isDigit
      let high? := if high.isEmpty then none else some (Numeral.digitsValue high)
      match rest with
      | '\x7d' :: rest => some (some (Numeral.digitsValue low, high?), rest)
      | _ => none
    | _ => none
  | cs => some (none, cs)

def atom (inner : List Char → Option (Regex × List Char)) : List Char → Option (Regex × List Char)
  | '(' :: '?' :: ':' :: cs => do
    let (r, rest) ← inner cs
    match rest with
    | ')' :: rest => some (r, rest)
    | _ => none
  | '[' :: '^' :: cs => characterClass true cs
  | '[' :: cs => characterClass false cs
  | '\\' :: cs => do
    let (item, rest) ← escape cs
    some (set false [item], rest)
  | c :: cs => if isSyntax c then none else some (set false [.char c false], cs)
  | [] => none

def piece (inner : List Char → Option (Regex × List Char)) (cs : List Char) :
    Option (Regex × List Char) := do
  let (r, rest) ← atom inner cs
  let (bounds?, rest) ← quantifier rest
  match bounds? with
  | none => some (r, rest)
  | some (low, high?) => some (repeated r low high?, rest)

def branch (inner : List Char → Option (Regex × List Char)) : Nat → List Char → Option (Regex × List Char)
  | 0, _ => none
  | fuel + 1, cs =>
    if Pattern.Reader.endsBranch cs then some (empty, cs)
    else do
      let (r, rest) ← piece inner cs
      if Pattern.Reader.endsBranch rest then some (r, rest)
      else do
        let (rs, rest) ← branch inner fuel rest
        some (sequence r rs, rest)

def branches (inner : List Char → Option (Regex × List Char)) (fuel : Nat) :
    Nat → List Char → Option (Regex × List Char)
  | 0, _ => none
  | count + 1, cs => do
    let (r, rest) ← branch inner fuel cs
    match rest with
    | '|' :: rest => do
      let (rs, rest) ← branches inner fuel count rest
      some (alternatives r rs, rest)
    | _ => some (r, rest)

def pattern : Nat → List Char → Option (Regex × List Char)
  | 0, _ => none
  | fuel + 1, cs => branches (pattern fuel) (fuel + 1) (fuel + 1) cs

def read (text : String) : Option Regex := do
  let (r, rest) ← pattern (text.toList.length + 1) text.toList
  if rest.isEmpty then some r else none

end Regex

/-- The engine finds what belongs to the language that the text of a pattern denotes. -/
structure Engine.Decides (engine : Engine) (p : Pattern) : Prop where
  whole {r : Regex} (denotes : Regex.read p.text = some r) (text : List Char) :
    engine.whole p text ↔ text ∈ r.language
  part {r : Regex} (denotes : Regex.read p.text = some r) (text : List Char) :
    engine.part p text ↔ ∃ part, part <:+: text ∧ part ∈ r.language

end JsonPath
