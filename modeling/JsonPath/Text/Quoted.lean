import JsonPath.Text.Category.Unicode14

namespace JsonPath

namespace Quoted

/-- Whether a character shows as itself: neither a control, a format character, unassigned or private,
nor a separator other than the blank. Characters that Unicode 14 does not have yet are unassigned. -/
def isPrintable (c : Char) : Bool :=
  c == ' ' || !([.cc, .cf, .cs, .co, .cn, .zl, .zp, .zs] : List Category).contains
    (Category.unicode14.category c)

def hexDigits (width n : Nat) : List Char :=
  let ds := Nat.toDigits 16 n
  List.replicate (width - ds.length) '0' ++ ds

/-- A character that does not show as itself, by its number in the fewest of two, four or eight
digits. -/
def numbered (c : Char) : List Char :=
  let n := c.toNat
  if n ≤ 0xFF then '\\' :: 'x' :: hexDigits 2 n
  else if n ≤ 0xFFFF then '\\' :: 'u' :: hexDigits 4 n
  else '\\' :: 'U' :: hexDigits 8 n

def escape (quote c : Char) : List Char :=
  if c = quote ∨ c = '\\' then ['\\', c]
  else if c = '\t' then ['\\', 't']
  else if c = '\n' then ['\\', 'n']
  else if c = '\r' then ['\\', 'r']
  else if isPrintable c then [c]
  else numbered c

/-- Single quotes, unless the text has one and no double quote. -/
def quoteFor (cs : List Char) : Char := if '\'' ∈ cs ∧ '"' ∉ cs then '"' else '\''

def encode (cs : List Char) : List Char :=
  let quote := quoteFor cs
  quote :: cs.flatMap (escape quote) ++ [quote]

end Quoted

def quoted (s : String) : String := String.ofList (Quoted.encode s.toList)

end JsonPath
