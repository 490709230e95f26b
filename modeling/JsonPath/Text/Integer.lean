import JsonPath.Number.Numeral
import JsonPath.Text.Blank
import JsonPath.Text.Category.Unicode14

namespace JsonPath

namespace Integer

/-- The value of a decimal digit of any script: the digits of a script stand in a row from zero to
nine. -/
def digit? (c : Char) : Option Nat :=
  if c.isDigit then some (c.toNat - '0'.toNat)
  else
    match Category.unicode14.run c with
    | (start, .nd) => some ((c.toNat - start) % 10)
    | _ => none

/-- The digits of a numeral. An underscore may stand between two of them. -/
def digits? : Bool → List Char → Option (List Nat)
  | afterDigit, [] => if afterDigit then some [] else none
  | afterDigit, '_' :: c :: rest =>
    if afterDigit then
      (digit? c).bind fun d => (digits? true rest).map (d :: ·)
    else none
  | _, c :: rest => (digit? c).bind fun d => (digits? true rest).map (d :: ·)

def ofSigned (negative : Bool) (cs : List Char) : Option Int :=
  (digits? false cs).bind fun ds =>
    if ds.length > maxIntegerDigits then none
    else
      let magnitude : Int := (ds.foldl (fun n d => 10 * n + d) 0 : Nat)
      some (if negative then -magnitude else magnitude)

/-- The four separators below the blank are no white space around an integer. -/
def isSpace (c : Char) : Bool := isBlankChar c && !(0x1C ≤ c.toNat && c.toNat ≤ 0x1F)

def read? (s : String) : Option Int :=
  match trimWhile isSpace s.toList with
  | '-' :: rest => ofSigned true rest
  | '+' :: rest => ofSigned false rest
  | text => ofSigned false text

end Integer

end JsonPath
