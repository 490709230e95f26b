import JsonPath.Number
import Mathlib.Algebra.Field.Rat
import Mathlib.Algebra.Order.Ring.Rat
import Mathlib.Order.WithBot
import Mathlib.Tactic.FieldSimp
import Mathlib.Tactic.Positivity
import Mathlib.Tactic.Ring

namespace JsonPath

/-- The rational numbers with a point below and a point above all of them. -/
abbrev ExtendedRat := WithBot (WithTop ℚ)

namespace Double

/-- The magnitude of a finite number with its fields: `1.f * 2 ^ (e - 1023)`, or `0.f * 2 ^ -1022` where
the exponent field is zero. -/
def magnitude (e : Fin 2047) (f : Fin (2 ^ 52)) : ℚ :=
  if e.val = 0 then (f.val : ℚ) / 2 ^ 52 * 2 ^ (-1022 : ℤ)
  else (1 + (f.val : ℚ) / 2 ^ 52) * 2 ^ ((e.val : ℤ) - 1023)

def quantity? : Double → Option ExtendedRat
  | finite s e f => some ((if s then -magnitude e f else magnitude e f : ℚ) : WithTop ℚ)
  | infinite s => some (if s then ⊥ else ⊤)
  | nan => none

theorem two_zpow_sub (m n : ℕ) : (2 : ℚ) ^ ((m : ℤ) - n) = 2 ^ m / 2 ^ n := by
  rw [zpow_sub₀ (by decide), zpow_natCast, zpow_natCast]

theorem magnitude_eq (e : Fin 2047) (f : Fin (2 ^ 52)) :
    magnitude e f = (steps e f : ℚ) / 2 ^ 1074 := by
  unfold magnitude steps significand shift
  split
  · next zero =>
    have scale : (2 : ℚ) ^ (-1022 : ℤ) = 2 ^ 52 / 2 ^ 1074 := two_zpow_sub 52 1074
    rw [scale, zero]
    field_simp
    push_cast
    ring
  · next positive =>
    have scale : (2 : ℚ) ^ ((e.val : ℤ) - 1023) = 2 ^ 52 * 2 ^ (e.val - 1) / 2 ^ 1074 := by
      have exponent : (e.val : ℤ) - 1023 = ((52 + (e.val - 1) : ℕ) : ℤ) - (1074 : ℕ) := by omega
      rw [exponent, two_zpow_sub, pow_add]
    rw [scale]
    field_simp
    push_cast
    ring

end Double

def Place.quantity : Place → ExtendedRat
  | below => ⊥
  | steps count => ((count / 2 ^ 1074 : ℚ) : WithTop ℚ)
  | above => ⊤

theorem Place.quantity_injective : Function.Injective Place.quantity := by
  intro a b same
  cases a with
  | steps m =>
    cases b with
    | steps n =>
      have quotients : (m : ℚ) / 2 ^ 1074 = n / 2 ^ 1074 := by
        simpa only [quantity, WithBot.coe_inj, WithTop.coe_inj] using same
      rw [div_left_inj' (by positivity)] at quotients
      rw [Rat.intCast_injective quotients]
    | _ => simp [quantity] at same
  | _ => cases b <;> simp_all [quantity]

theorem Place.lt_iff {a b : Place} : a.lt b = true ↔ a.quantity < b.quantity := by
  cases a with
  | below => cases b <;> simp [lt, quantity]
  | steps m =>
    cases b with
    | below => simp [lt, quantity]
    | above => simp [lt, quantity, ← WithBot.coe_top]
    | steps n =>
      have scale : (0 : ℚ) < 2 ^ 1074 := by positivity
      simp only [lt, quantity, decide_eq_true_eq, WithBot.coe_lt_coe, WithTop.coe_lt_coe,
        div_lt_div_iff_of_pos_right scale, Int.cast_lt]
  | above => cases b <;> simp [lt, quantity]

namespace Number

def quantity? : Number → Option ExtendedRat
  | int n => some ((n : ℚ) : WithTop ℚ)
  | double d => d.quantity?

theorem quantity?_eq (n : Number) : n.quantity? = n.place?.map Place.quantity := by
  cases n with
  | int n =>
    have whole : ((n * 2 ^ 1074 : ℤ) : ℚ) / 2 ^ 1074 = n := by
      rw [Int.cast_mul, Int.cast_pow]
      exact mul_div_cancel_right₀ _ (by positivity)
    simp only [quantity?, place?, Option.map_some, Place.quantity, whole]
  | double d =>
    cases d with
    | finite s e f =>
      cases s with
      | false => simp only [quantity?, Double.quantity?, Double.magnitude_eq, place?, Option.map_some,
          Place.quantity, Bool.false_eq_true, if_false, Int.cast_natCast]
      | true => simp only [quantity?, Double.quantity?, Double.magnitude_eq, place?, Option.map_some,
          Place.quantity, if_true, Int.cast_neg, Int.cast_natCast, neg_div]
    | infinite s => cases s <;> rfl
    | nan => rfl

theorem place?_eq_none_iff {n : Number} : n.place? = none ↔ n = .double .nan := by
  cases n with
  | int n => exact ⟨nofun, nofun⟩
  | double d =>
    cases d with
    | nan => exact ⟨fun _ => rfl, fun _ => rfl⟩
    | _ => exact ⟨nofun, nofun⟩

theorem same_iff {m n : Number} (isNumber : m ≠ .double .nan) :
    m.same n = true ↔ m.quantity? = n.quantity? := by
  obtain ⟨x, here⟩ := Option.ne_none_iff_exists'.mp (mt place?_eq_none_iff.mp isNumber)
  rw [quantity?_eq, quantity?_eq, same, here]
  cases n.place? with
  | none => simp
  | some y => simp [Place.quantity_injective.eq_iff]

theorem less_iff {m n : Number} :
    m.less n = true ↔ ∃ x ∈ m.quantity?, ∃ y ∈ n.quantity?, x < y := by
  rw [quantity?_eq, quantity?_eq, less]
  cases m.place? with
  | none => simp
  | some a =>
    cases n.place? with
    | none => simp
    | some b => simp [Place.lt_iff]

end Number

end JsonPath
