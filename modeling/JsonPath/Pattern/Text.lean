import JsonPath.Pattern

namespace JsonPath

def escapedChar (c : Char) : String :=
  if c = '\n' then "\\n"
  else if c = '\r' then "\\r"
  else if c = '\t' then "\\t"
  else "\\" ++ String.singleton c

namespace Quantifier

def text : Quantifier → String
  | star => "*"
  | plus => "+"
  | optional => "?"
  | exactly n => "\x7b" ++ toString n ++ "\x7d"
  | atLeast n => "\x7b" ++ toString n ++ ",\x7d"
  | between m n => "\x7b" ++ toString m ++ "," ++ toString n ++ "\x7d"

/-- Counts from here on are too big for the matching engine. -/
def tooBig : Nat := 4294967295

def isTooBig (q : Quantifier) : Bool :=
  tooBig ≤ q.low || (match q.high? with | some n => tooBig ≤ n | none => false)

end Quantifier

namespace ClassItem

def charText (c : Char) (escaped : Bool) : String :=
  if escaped || c == '^' || c == '-' then escapedChar c else String.singleton c

def text : ClassItem → String
  | char c escaped => charText c escaped
  | range low lowEscaped high highEscaped =>
    charText low lowEscaped ++ "-" ++ charText high highEscaped
  | category negated name => (if negated then "\\P\x7b" else "\\p\x7b") ++ name ++ "\x7d"

end ClassItem

namespace Pattern

/-- The pattern in the syntax of the matching engine, where a circumflex and a dollar sign are escaped,
a dot leaves out line ends, and groups do not capture. -/
def text : Pattern → String
  | empty => ""
  | char c escaped =>
    if escaped || c == '^' || c == '$' then escapedChar c else String.singleton c
  | dot => "[^\\n\\r]"
  | set negated items =>
    (if negated then "[^" else "[") ++ String.join (items.map ClassItem.text) ++ "]"
  | category negated name => (if negated then "\\P\x7b" else "\\p\x7b") ++ name ++ "\x7d"
  | group p => "(?:" ++ p.text ++ ")"
  | quantified p q => p.text ++ q.text
  | sequence p ps => p.text ++ ps.text
  | alternatives p ps => p.text ++ "|" ++ ps.text

/-- Where its text has the first count that is too big: the place after the opening brace. -/
def tooBig? : Pattern → Option Nat
  | group p => p.tooBig?.map (3 + ·)
  | quantified p q =>
    p.tooBig? <|> if q.isTooBig then some (p.text.length + 1) else none
  | sequence p ps => p.tooBig? <|> ps.tooBig?.map (p.text.length + ·)
  | alternatives p ps => p.tooBig? <|> ps.tooBig?.map (p.text.length + 1 + ·)
  | _ => none

end Pattern

end JsonPath
