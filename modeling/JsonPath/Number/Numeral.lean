import JsonPath.Number
import JsonPath.Text.Cursor

namespace JsonPath

/-- The longest numeral in integer form that is read as a number. -/
def maxIntegerDigits : Nat := 4300

/-- A decimal numeral: its sign, its whole digits, and the digits of its fraction and exponent, the
exponent with its own sign. -/
structure Numeral where
  negative : Bool
  whole : List Char
  fraction : List Char
  exponent : Option (Bool × List Char)

namespace Numeral

def isDigit (c : Char) : Bool := '0' ≤ c && c ≤ '9'

def digitsValue (ds : List Char) : Nat := ds.foldl (fun n c => 10 * n + (c.toNat - '0'.toNat)) 0

def isPlain (n : Numeral) : Bool := n.fraction.isEmpty && n.exponent.isNone

def isMinusZero (n : Numeral) : Bool := n.negative && n.whole == ['0'] && n.isPlain

def toInt (n : Numeral) : Int :=
  if n.negative then -(digitsValue n.whole : Int) else digitsValue n.whole

def toDouble (n : Numeral) : Double :=
  let exponent : Int := match n.exponent with
    | some (negative, ds) => if negative then -(digitsValue ds : Int) else digitsValue ds
    | none => 0
  Double.ofDecimal n.negative (digitsValue (n.whole ++ n.fraction)) (exponent - n.fraction.length)

/-- The whole digits in front: a zero alone, or digits that do not begin with zero. -/
def wholeDigits : List Char → List Char × List Char
  | '0' :: rest => (['0'], rest)
  | text => text.span isDigit

def fractionDigits : List Char → List Char × List Char
  | '.' :: rest => if (rest.takeWhile isDigit).isEmpty then ([], '.' :: rest) else rest.span isDigit
  | text => ([], text)

def exponentSign : List Char → List Char × List Char
  | '+' :: rest => (['+'], rest)
  | '-' :: rest => (['-'], rest)
  | text => ([], text)

def exponentDigits : List Char → Option (Bool × List Char) × List Char × List Char
  | [] => (none, [], [])
  | c :: text =>
    if c = 'e' ∨ c = 'E' then
      let (sign, rest) := exponentSign text
      let (ds, rest) := rest.span isDigit
      if ds.isEmpty then (none, [], c :: text) else (some (sign == ['-'], ds), c :: sign ++ ds, rest)
    else (none, [], c :: text)

def read? (text : List Char) : Option (Lexeme Numeral) :=
  let (sign, rest) := match text with
    | '-' :: rest => (['-'], rest)
    | _ => ([], text)
  let (whole, rest) := wholeDigits rest
  if whole.isEmpty then none else
  let (fraction, rest) := fractionDigits rest
  let (exponent, exponentText, rest) := exponentDigits rest
  let point := if fraction.isEmpty then [] else ['.']
  some {
    value := { negative := !sign.isEmpty, whole, fraction, exponent }
    text := sign ++ whole ++ point ++ fraction ++ exponentText
    rest }

end Numeral

end JsonPath
