import JsonPath.Number.Numeral
import Mathlib.Data.List.TakeDrop

namespace JsonPath

namespace Numeral

def Ends (rest : List Char) : Prop :=
  ∀ c ∈ rest.head?, isDigit c = false ∧ c ≠ '.' ∧ c ≠ 'e' ∧ c ≠ 'E'

theorem isDigit_eq (c : Char) : isDigit c = c.isDigit := by
  simp [isDigit, Char.isDigit, Char.le_def]

theorem toDigits_head_ne_zero {n : Nat} (positive : 0 < n) (rest : List Char) :
    Nat.toDigits 10 n ≠ '0' :: rest := by
  induction n using Nat.strongRecOn generalizing rest with
  | _ n ih =>
    rw [Nat.toDigits_eq_if (by decide)]
    split
    · next small =>
      have other : ∀ n < 10, 0 < n → Nat.digitChar n ≠ '0' := by decide
      intro same
      exact other n small positive (List.cons.inj same).1
    · next large =>
      intro same
      obtain ⟨d, ds, digits⟩ := List.exists_cons_of_ne_nil (@Nat.toDigits_ne_nil (n / 10) 10)
      rw [digits, List.cons_append] at same
      obtain ⟨rfl, -⟩ := List.cons.inj same
      exact ih (n / 10) (by omega) (by omega) ds digits

theorem span_digits {ds rest : List Char} (inside : ∀ d ∈ ds, isDigit d)
    (stops : ∀ d ∈ rest.head?, isDigit d = false) : (ds ++ rest).span isDigit = (ds, rest) := by
  rw [List.span_eq_takeWhile_dropWhile, List.takeWhile_append_of_pos inside,
    List.dropWhile_append_of_pos inside]
  cases rest with
  | nil => simp
  | cons d rest => simp [stops d rfl]

theorem span_toDigits (n : Nat) {rest : List Char} (ends : Ends rest) :
    (Nat.toDigits 10 n ++ rest).span isDigit = (Nat.toDigits 10 n, rest) := by
  have inside : ∀ c ∈ Nat.toDigits 10 n, isDigit c := by
    intro c member
    rw [isDigit_eq]
    exact Nat.isDigit_of_mem_toDigits (by decide) (by decide) member
  exact span_digits inside fun d head => (ends d head).1

theorem wholeDigits_toDigits (n : Nat) {rest : List Char} (ends : Ends rest) :
    wholeDigits (Nat.toDigits 10 n ++ rest) = (Nat.toDigits 10 n, rest) := by
  rcases Nat.eq_zero_or_pos n with rfl | positive
  · simp [wholeDigits]
  · rw [← span_toDigits n ends]
    unfold wholeDigits
    split
    · next text same =>
      obtain ⟨d, ds, digits⟩ := List.exists_cons_of_ne_nil (@Nat.toDigits_ne_nil n 10)
      rw [digits, List.cons_append] at same
      obtain ⟨rfl, -⟩ := List.cons.inj same
      exact absurd digits (toDigits_head_ne_zero positive ds)
    · rfl

def ofInt (n : Int) : Numeral := ⟨n < 0, Nat.toDigits 10 n.natAbs, [], none⟩

theorem fractionDigits_of_ends {rest : List Char} (ends : Ends rest) :
    fractionDigits rest = ([], rest) := by
  cases rest with
  | nil => rfl
  | cons c rest =>
    unfold fractionDigits
    split
    · next same =>
      obtain ⟨rfl, -⟩ := List.cons.inj same
      exact absurd rfl (ends '.' (by simp)).2.1
    · rfl

theorem exponentDigits_of_ends {rest : List Char} (ends : Ends rest) :
    exponentDigits rest = (none, [], rest) := by
  cases rest with
  | nil => rfl
  | cons c rest =>
    have other := ends c (by simp)
    simp [exponentDigits, other]

theorem toList_toString_int (n : Int) :
    (toString n).toList = (if n < 0 then ['-'] else []) ++ Nat.toDigits 10 n.natAbs := by
  rw [Int.toString_eq_repr, Int.repr_eq_if]
  rcases Int.lt_or_le n 0 with negative | positive
  · have magnitude : (-n).toNat = n.natAbs := by omega
    rw [if_neg (by omega), if_pos negative, magnitude]
    simp
  · have magnitude : n.toNat = n.natAbs := by omega
    rw [if_pos positive, if_neg (by omega), magnitude]
    simp

theorem read?_toString (n : Int) {rest : List Char} (ends : Ends rest) :
    read? ((toString n).toList ++ rest) = some ⟨ofInt n, (toString n).toList, rest⟩ := by
  rw [toList_toString_int]
  rcases Int.lt_or_le n 0 with negative | positive
  · simp [read?, negative, wholeDigits_toDigits _ ends, fractionDigits_of_ends ends,
      exponentDigits_of_ends ends, ofInt]
  · have signless : ¬ n < 0 := by omega
    have unsigned : ∀ text, Nat.toDigits 10 n.natAbs ++ rest ≠ '-' :: text := by
      intro text same
      obtain ⟨d, ds, digits⟩ := List.exists_cons_of_ne_nil (@Nat.toDigits_ne_nil n.natAbs 10)
      rw [digits, List.cons_append] at same
      obtain ⟨rfl, -⟩ := List.cons.inj same
      have digit : Char.isDigit '-' :=
        Nat.isDigit_of_mem_toDigits (by decide) (by decide) (digits ▸ List.mem_cons_self)
      simp at digit
    unfold read?
    split
    next sign after same =>
    split at same
    · next text minus => exact absurd (by simpa [signless] using minus) (unsigned text)
    · cases same
      simp [signless, wholeDigits_toDigits _ ends, fractionDigits_of_ends ends,
        exponentDigits_of_ends ends, ofInt]

theorem toInt_ofInt (n : Int) : (ofInt n).toInt = n := by
  have value : digitsValue (Nat.toDigits 10 n.natAbs) = n.natAbs :=
    Nat.ofDigitChars_ten_toDigits
  simp only [toInt, ofInt, value, decide_eq_true_eq]
  split <;> omega

end Numeral

end JsonPath
