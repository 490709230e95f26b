namespace JsonPath

/-- What is left of a text, and how many characters came before it. -/
structure Cursor where
  offset : Nat
  rest : List Char

namespace Cursor

def ofString (text : String) : Cursor := ⟨0, text.toList⟩

def advance (c : Cursor) (count : Nat) : Cursor := ⟨c.offset + count, c.rest.drop count⟩

def skipWhile (p : Char → Bool) (c : Cursor) : Cursor :=
  ⟨c.offset + (c.rest.takeWhile p).length, c.rest.dropWhile p⟩

end Cursor

/-- A reading of the front of a text: its meaning, the characters it covers, and what follows. -/
structure Lexeme (α : Type) where
  value : α
  text : List Char
  rest : List Char

def hexDigit? (c : Char) : Option Nat :=
  if '0' ≤ c ∧ c ≤ '9' then some (c.toNat - '0'.toNat)
  else if 'a' ≤ c ∧ c ≤ 'f' then some (c.toNat - 'a'.toNat + 10)
  else if 'A' ≤ c ∧ c ≤ 'F' then some (c.toNat - 'A'.toNat + 10)
  else none

def hexValue? (ds : List Char) : Option Nat :=
  ds.foldl (fun n? c => n?.bind fun n => (hexDigit? c).map (16 * n + ·)) (some 0)

def isHighSurrogate (unit : Nat) : Bool := 0xD800 ≤ unit && unit ≤ 0xDBFF

def isLowSurrogate (unit : Nat) : Bool := 0xDC00 ≤ unit && unit ≤ 0xDFFF

def joinSurrogates (high low : Nat) : Nat := 0x10000 + (high - 0xD800) * 1024 + (low - 0xDC00)

end JsonPath
