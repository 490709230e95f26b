import JsonPath.Pattern.Matcher
import Mathlib.Data.List.TakeDrop

namespace JsonPath

namespace Pattern

namespace Reader

def Within {α : Type} (size : Nat) : Except ReadError (α × Cursor) → Prop
  | .ok (_, c) => c.rest.length ≤ size
  | .error e => ∀ digits, e ≠ .integerTooLong digits

def Keeps {α : Type} (limit : Nat) (read : Cursor → Except ReadError (α × Cursor)) : Prop :=
  ∀ size c, size ≤ limit → c.rest.length ≤ size → Within size (read c)

section

variable {α β : Type} {size : Nat} {c : Cursor}

theorem within_ok {a : α} (small : c.rest.length ≤ size) : Within size (.ok (a, c)) := small

theorem within_fail {cause : Cause} : Within size (fail cause c : Except ReadError (α × Cursor)) := by
  simp [Within, fail]

theorem Within.bind {x : Except ReadError (α × Cursor)} {f : α × Cursor → Except ReadError (β × Cursor)}
    (first : Within size x) (next : ∀ a c, c.rest.length ≤ size → Within size (f (a, c))) :
    Within size (x >>= f) := by
  cases x with
  | error e => exact first
  | ok r => exact next r.1 r.2 first

end

theorem span_length {p : Char → Bool} (cs : List Char) :
    (cs.span p).1.length ≤ cs.length ∧ (cs.span p).2.length ≤ cs.length := by
  rw [List.span_eq_takeWhile_dropWhile]
  exact ⟨(List.takeWhile_prefix p).length_le, (List.dropWhile_suffix p).length_le⟩

theorem keeps_number? : Keeps maxIntegerDigits number? := by
  intro size c limit small
  have lengths := span_length (p := Numeral.isDigit) c.rest
  unfold number?
  generalize c.rest.span Numeral.isDigit = parts at lengths
  obtain ⟨ds, rest⟩ := parts
  simp only at lengths ⊢
  split
  · exact within_ok small
  · have few : ¬ ds.length > maxIntegerDigits := by omega
    have left : rest.length ≤ size := by omega
    simp only [toNat, few, if_false]
    exact within_ok left

theorem keeps_closeQuantifier (q : Quantifier) : Keeps maxIntegerDigits (closeQuantifier q) := by
  intro size c limit small
  unfold closeQuantifier
  split
  · next rest same =>
    have left : rest.length ≤ size := by
      rw [same, List.length_cons] at small
      omega
    simp only
    split
    · split
      · exact within_fail
      · exact within_ok left
    · exact within_ok left
  · exact within_fail

theorem keeps_quantifier : Keeps maxIntegerDigits quantifier := by
  intro size c limit small
  unfold quantifier
  split
  case h_5 => exact within_ok small
  case h_1 | h_2 | h_3 =>
    next rest same =>
    rw [same, List.length_cons] at small
    exact within_ok (by simp only; omega)
  case h_4 rest same =>
    rw [same, List.length_cons] at small
    refine (keeps_number? size _ limit (by simp only; omega)).bind fun low? c small => ?_
    simp only
    split
    · exact within_fail
    · split
      · next rest same =>
        rw [same, List.length_cons] at small
        refine (keeps_number? size _ limit (by simp only; omega)).bind fun high? c small => ?_
        simp only
        split
        · exact keeps_closeQuantifier _ size c limit small
        · exact keeps_closeQuantifier _ size c limit small
      · exact keeps_closeQuantifier _ size c limit small

section

variable {limit : Nat}

theorem keeps_categoryName : Keeps limit categoryName := by
  intro size c _ small
  unfold categoryName
  split
  · next rest same =>
    rw [same, List.length_cons] at small
    have lengths := span_length (p := (· ≠ '\x7d')) rest
    simp only
    split
    · exact within_fail
    · split
      · refine within_ok ?_
        simp only [List.length_drop]
        omega
      · exact within_fail
  · exact within_fail

theorem keeps_escape : Keeps limit escape := by
  intro size c bound small
  unfold escape
  split
  · exact within_fail
  · next d rest same =>
    rw [same, List.length_cons] at small
    have left : rest.length ≤ size := by omega
    simp only
    split
    · exact within_ok left
    · split
      · exact within_ok left
      · split
        · exact (keeps_categoryName size _ bound left).bind fun name c small => within_ok small
        · exact within_fail

theorem keeps_classCharacter : Keeps limit classCharacter := by
  intro size c bound small
  unfold classCharacter
  split
  · exact within_fail
  · next d rest same =>
    rw [same, List.length_cons] at small
    have left : rest.length ≤ size := by omega
    split
    · exact keeps_escape size _ bound left
    · split
      · exact within_fail
      · exact within_ok left

theorem range_ne_integerTooLong (low high : Escape) (c : Cursor) (digits : Nat) :
    range low high c ≠ .error (.integerTooLong digits) := by
  unfold range
  split
  · split <;> simp [fail]
  · simp [fail]

theorem keeps_classItem : Keeps limit classItem := by
  intro size c bound small
  refine (keeps_classCharacter size c bound small).bind fun low c small => ?_
  simp only
  split
  · next d rest same =>
    rw [same, List.length_cons] at small
    split
    · exact within_ok (by simp only [same, List.length_cons]; omega)
    · refine (keeps_classCharacter size _ bound (by simp only; omega)).bind fun high c small => ?_
      cases order : range low high c with
      | error e =>
        rintro digits rfl
        exact range_ne_integerTooLong low high c digits order
      | ok item => exact within_ok small
  · exact within_ok small

theorem keeps_classItems (fuel : Nat) : Keeps limit (classItems fuel) := by
  induction fuel with
  | zero =>
    intro size c _ _
    exact within_fail
  | succ fuel ih =>
    intro size c bound small
    unfold classItems
    split
    · exact within_fail
    · next rest same =>
      rw [same, List.length_cons] at small
      exact within_ok (by simp only; omega)
    · next rest same =>
      rw [same, List.length_cons, List.length_cons] at small
      exact within_ok (by simp only; omega)
    · exact within_fail
    · refine (keeps_classItem size c bound small).bind fun item c small => ?_
      exact (ih size c bound small).bind fun items c small => within_ok small

theorem within_classBody {size : Nat} {c : Cursor} (negated : Bool) (hyphen : List ClassItem)
    (bound : size ≤ limit) (small : c.rest.length ≤ size) :
    Within size (do
      let (items, after) ← classItems (c.rest.length + 1) c
      if (hyphen ++ items).isEmpty then fail .emptyClass c
      else return (Pattern.set negated (hyphen ++ items), after)) := by
  refine (keeps_classItems _ size c bound small).bind fun items after small => ?_
  simp only
  split
  · exact within_fail
  · exact within_ok small

theorem keeps_characterClass : Keeps limit characterClass := by
  intro size c bound small
  unfold characterClass
  split
  next negated c' first =>
  have small : c'.rest.length ≤ size := by
    split at first
    · next rest same =>
      cases first
      rw [same, List.length_cons] at small
      exact Nat.le_of_succ_le small
    · cases first
      exact small
  split
  next hyphen c'' second =>
  have small : c''.rest.length ≤ size := by
    split at second
    · next rest same =>
      cases second
      rw [same, List.length_cons] at small
      exact Nat.le_of_succ_le small
    · cases second
      exact small
  exact within_classBody negated hyphen bound small

end

section

variable {inner : Cursor → Except ReadError (Pattern × Cursor)} (inside : Keeps maxIntegerDigits inner)

include inside

theorem keeps_atom : Keeps maxIntegerDigits (atom inner) := by
  intro size c limit small
  unfold atom
  split
  · exact within_ok small
  · next d rest same =>
    rw [same, List.length_cons] at small
    have left : rest.length ≤ size := by omega
    simp only
    split
    · refine (inside size _ limit left).bind fun body c small => ?_
      simp only
      split
      · next rest same =>
        rw [same, List.length_cons] at small
        exact within_ok (by simp only; omega)
      · exact within_fail
    · split
      · exact within_ok left
      · split
        · exact keeps_characterClass size _ limit left
        · split
          · refine (keeps_escape size _ limit left).bind fun e c small => ?_
            simp only
            split <;> exact within_ok small
          · split
            · exact within_fail
            · exact within_ok left

theorem keeps_piece : Keeps maxIntegerDigits (piece inner) := by
  intro size c limit small
  refine (keeps_atom inside size c limit small).bind fun a c small => ?_
  refine (keeps_quantifier size c limit small).bind fun q? c small => ?_
  simp only
  split <;> exact within_ok small

theorem keeps_branch (fuel : Nat) : Keeps maxIntegerDigits (branch inner fuel) := by
  induction fuel with
  | zero =>
    intro size c _ small
    exact within_ok small
  | succ fuel ih =>
    intro size c limit small
    unfold branch
    split
    · exact within_ok small
    · refine (keeps_piece inside size c limit small).bind fun p c small => ?_
      simp only
      split
      · exact within_ok small
      · exact (ih size c limit small).bind fun ps c small => within_ok small

theorem keeps_branches (fuel count : Nat) : Keeps maxIntegerDigits (branches inner fuel count) := by
  induction count with
  | zero => exact keeps_branch inside fuel
  | succ count ih =>
    intro size c limit small
    refine (keeps_branch inside fuel size c limit small).bind fun b c small => ?_
    simp only
    split
    · next rest same =>
      rw [same, List.length_cons] at small
      exact (ih size _ limit (by simp only; omega)).bind fun bs c small => within_ok small
    · exact within_ok small

end

theorem keeps_pattern (fuel : Nat) : Keeps maxIntegerDigits (pattern fuel) := by
  induction fuel with
  | zero =>
    intro size c _ small
    exact within_ok small
  | succ fuel ih => exact keeps_branches ih (fuel + 1) (fuel + 1)

end Reader

theorem read_ne_integerTooLong {source : String} (short : source.length ≤ maxIntegerDigits)
    (digits : Nat) : read source ≠ .error (.integerTooLong digits) := by
  have whole : (Cursor.ofString source).rest.length ≤ maxIntegerDigits := by
    rwa [Cursor.ofString, String.length_toList]
  have within := Reader.keeps_pattern ((Cursor.ofString source).rest.length + 1) _ _ (Nat.le_refl _) whole
  unfold read
  simp only
  cases run : Reader.pattern ((Cursor.ofString source).rest.length + 1) (Cursor.ofString source) with
  | error e =>
    rw [run] at within
    intro same
    cases same
    exact within digits rfl
  | ok r =>
    simp only [bind, Except.bind]
    split <;> simp [Reader.fail, pure, Except.pure]

theorem compile_error {options : Options} (short : options.maxPatternLength ≤ maxIntegerDigits)
    {source : String} {e : MatchFailure} (refused : compile options source = .error e) :
    ∃ x, e = .excess x := by
  unfold compile at refused
  split at refused
  · cases refused
    exact ⟨_, rfl⟩
  · next long =>
    split at refused
    · next digits run => exact absurd run (read_ne_integerTooLong (by omega) digits)
    · contradiction
    · split at refused
      · cases refused
        exact ⟨_, rfl⟩
      · split at refused <;> contradiction

end Pattern

namespace Matcher

theorem runWith_error {engine : Engine} {m : Matcher} {options : Options}
    (short : options.maxPatternLength ≤ maxIntegerDigits) {source text : String} {anchored : Bool}
    {e : MatchFailure} (failed : (m.runWith engine options source text anchored).1 = .error e) :
    ∃ x, e = .excess x := by
  unfold runWith at failed
  split at failed
  · next e' refused =>
    cases failed
    unfold pattern at refused
    split at refused
    · contradiction
    · cases compiled : Pattern.compile options source with
      | error e =>
        rw [compiled] at refused
        cases refused
        exact Pattern.compile_error short compiled
      | ok r =>
        rw [compiled] at refused
        contradiction
  · next p? log m' ready =>
    unfold test at failed
    split at failed
    · contradiction
    · split at failed
      · cases failed
        exact ⟨_, rfl⟩
      · split at failed <;> contradiction

theorem run_error {m : Matcher} {options : Options}
    (short : options.maxPatternLength ≤ maxIntegerDigits) {source text : String} {anchored : Bool}
    {e : MatchFailure} (failed : (m.run options source text anchored).1 = .error e) :
    ∃ x, e = .excess x :=
  runWith_error short failed

end Matcher

end JsonPath
