namespace JsonPath

/-- The powers of the core library, for modules that are also read where other powers are in scope. -/
@[reducible]
def corePow {α : Type} [NatPow α] : Pow α Nat := instPowNat

attribute [local instance] corePow

/-- A binary64 number. All NaNs are one value, and zero keeps its sign. -/
inductive Double
  | finite (negative : Bool) (exponent : Fin 2047) (fraction : Fin (2 ^ (52 : Nat)))
  | infinite (negative : Bool)
  | nan
  deriving DecidableEq

namespace Double

/-- The interchange pattern, sign first, as a number below `2 ^ 64`. -/
def bits : Double → Nat
  | finite s e f => s.toNat * 2 ^ (63 : Nat) + e * 2 ^ (52 : Nat) + f
  | infinite s => s.toNat * 2 ^ (63 : Nat) + 2047 * 2 ^ (52 : Nat)
  | nan => 2047 * 2 ^ (52 : Nat) + 2 ^ (51 : Nat)

def significand (exponent : Fin 2047) (fraction : Fin (2 ^ (52 : Nat))) : Nat :=
  if exponent.val = 0 then fraction else 2 ^ (52 : Nat) + fraction

/-- The power of two that scales the significand, counted from `2 ^ -1074`. -/
def shift (exponent : Fin 2047) : Nat := exponent.val - 1

/-- The magnitude of a finite number in steps of `2 ^ -1074`. -/
def steps (exponent : Fin 2047) (fraction : Fin (2 ^ (52 : Nat))) : Nat :=
  significand exponent fraction * 2 ^ shift exponent

/-- The quotient rounded to the nearest whole number, a half to the even one. -/
def roundDiv (num den : Nat) : Nat :=
  let q := num / den
  let r := num % den
  if 2 * r < den ∨ (2 * r = den ∧ q % 2 = 0) then q else q + 1

/-- Finite magnitudes are numbered upwards from zero; the numbers after them are infinite. -/
def ofRank (negative : Bool) (rank : Nat) : Double :=
  if h : rank < 2047 * 2 ^ (52 : Nat) then
    finite negative ⟨rank / 2 ^ (52 : Nat), by omega⟩ ⟨rank % 2 ^ (52 : Nat), Nat.mod_lt _ (by decide)⟩
  else infinite negative

def ofRatio (negative : Bool) (num den : Nat) : Double :=
  let scaled := num * 2 ^ (1074 : Nat)
  let shift := (scaled / den).log2 - 52
  ofRank negative (shift * 2 ^ (52 : Nat) + roundDiv scaled (den * 2 ^ shift))

/-- The number nearest to `digits * 10 ^ exponent`. Magnitudes beyond both ends of the range are
told apart by their exponent alone, so that no huge power is computed. -/
def ofDecimal (negative : Bool) (digits : Nat) (exponent : Int) : Double :=
  if digits = 0 then finite negative 0 0 else
  match exponent with
  | .ofNat e =>
    if 310 < e then infinite negative else ofRatio negative (digits * 10 ^ e) 1
  | .negSucc e =>
    if digits.log2 + 1077 ≤ 3 * (e + 1) then finite negative 0 0
    else ofRatio negative digits (10 ^ (e + 1))

end Double

end JsonPath
