import JsonPath.Double

namespace JsonPath

attribute [local instance] corePow

/-- The decimal `0.d₁d₂… * 10 ^ point`, where `d₁d₂…` are the digits of `digits`. -/
structure Decimal where
  digits : Nat
  point : Int
  deriving DecidableEq

namespace Double

def digitCount (n : Nat) : Nat := (Nat.toDigits 10 n).length

def dropTrailingZeros : Nat → Nat → Nat
  | 0, n => n
  | fuel + 1, n => if n % 10 = 0 ∧ n ≠ 0 then dropTrailingZeros fuel (n / 10) else n

/-- The positive reals that round to one double, in steps of `2 ^ -1076`. -/
structure Rounding where
  centre : Nat
  low : Nat
  high : Nat
  closed : Bool

/-- The neighbour below is half as far away where the fraction is zero, and an end of the interval
rounds inwards where the significand is even. -/
def rounding (exponent : Fin 2047) (fraction : Fin (2 ^ (52 : Nat))) : Rounding :=
  let s := shift exponent
  let centre := 4 * steps exponent fraction
  let below := if fraction.val = 0 ∧ 1 < exponent.val then 1 else 2
  { centre, low := centre - below * 2 ^ s, high := centre + 2 * 2 ^ s,
    closed := fraction.val % 2 = 0 }

def Rounding.point (r : Rounding) : Int :=
  (digitCount (r.centre * 10 ^ (400 : Nat) / 2 ^ (1076 : Nat)) : Int) - 400

def Rounding.holds (r : Rounding) (num den : Nat) : Bool :=
  if r.closed then r.low * den ≤ num ∧ num ≤ r.high * den
  else r.low * den < num ∧ num < r.high * den

/-- The multiple of `10 ^ (point - count)` in the interval that is nearest to its centre. Only the
two multiples next to the centre can be. -/
def Rounding.onGrid? (r : Rounding) (count : Nat) : Option Decimal :=
  let point := r.point
  let places := (count : Int) - point
  let scale := 10 ^ places.toNat
  let unit := 2 ^ (1076 : Nat) * 10 ^ (-places).toNat
  let below := r.centre * scale / unit
  let rest := r.centre * scale % unit
  let nearest := if 2 * rest < unit ∨ (2 * rest = unit ∧ below % 2 = 0) then below else below + 1
  let other := if nearest = below then below + 1 else below
  let decimal n := Decimal.mk (dropTrailingZeros count n) (digitCount n - places)
  if r.holds (nearest * unit) scale then some (decimal nearest)
  else if r.holds (other * unit) scale then some (decimal other)
  else none

/-- The decimal with the fewest digits that reads back as the number; seventeen always suffice. -/
def shortest (exponent : Fin 2047) (fraction : Fin (2 ^ (52 : Nat))) : Decimal :=
  let r := rounding exponent fraction
  ((List.range 17).findSome? fun n => r.onGrid? (n + 1)).getD ⟨0, 1⟩

end Double

namespace Decimal

def zeros (n : Nat) : List Char := List.replicate n '0'

/-- The exponent of ten is written positionally from -4 to 15, and otherwise with a sign and at least
two digits. A positional number shows a decimal point. -/
def text (d : Decimal) : String :=
  let ds := Nat.toDigits 10 d.digits
  let exponent := d.point - 1
  String.ofList <|
    if -4 ≤ exponent ∧ exponent < 16 then
      if d.point ≤ 0 then '0' :: '.' :: zeros (-d.point).toNat ++ ds
      else
        let whole := d.point.toNat
        if ds.length ≤ whole then ds ++ zeros (whole - ds.length) ++ ['.', '0']
        else ds.take whole ++ '.' :: ds.drop whole
    else
      let mantissa := match ds with
        | [d] => [d]
        | d :: rest => d :: '.' :: rest
        | [] => []
      let size := Nat.toDigits 10 exponent.natAbs
      let sign := if exponent < 0 then '-' else '+'
      mantissa ++ 'e' :: sign :: zeros (2 - size.length) ++ size

end Decimal

namespace Double

def text : Double → String
  | nan => "nan"
  | infinite s => if s then "-inf" else "inf"
  | finite s e f =>
    let magnitude := if steps e f = 0 then "0.0" else (shortest e f).text
    if s then "-" ++ magnitude else magnitude

end Double

end JsonPath
