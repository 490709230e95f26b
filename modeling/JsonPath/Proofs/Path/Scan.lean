import JsonPath.Proofs.Number.Decimal
import JsonPath.Proofs.Path.Escape
import Mathlib.Algebra.Group.Int.Defs
import Mathlib.Algebra.Group.Nat.Defs

namespace JsonPath

namespace Step

def inner : Step → List Char
  | member name => '\'' :: (name.toList.flatMap escapeChar ++ ['\''])
  | index n => (toString n).toList

def innerKind : Step → TokenKind
  | member name => .string name
  | index n => .number (.int n)

/-- An index is within the integers that a query can name. -/
def IsSafe : Step → Prop
  | member _ => True
  | index n => n.natAbs ≤ 2 ^ 53 - 1

theorem toList_text (s : Step) : s.text.toList = '[' :: (s.inner ++ [']']) := by
  cases s with
  | member name => simp [text, inner, escapeName]
  | index n => simp [text, inner]

theorem inner_length_pos (s : Step) : 0 < s.inner.length := by
  cases s with
  | member name => simp [inner]
  | index n =>
    rw [inner, Numeral.toList_toString_int, List.length_append]
    exact Nat.add_pos_right _ Nat.length_toDigits_pos

def tokens (offset : Nat) (s : Step) : List Token :=
  [⟨.lbracket, offset, ['[']⟩, ⟨s.innerKind, offset + 1, s.inner⟩,
    ⟨.rbracket, offset + 1 + s.inner.length, [']']⟩]

end Step

def Location.tokens (offset : Nat) : Location → List Token
  | [] => [⟨.eof, offset, []⟩]
  | s :: l => s.tokens offset ++ tokens (offset + s.inner.length + 2) l

theorem Location.toList_text (l : Location) :
    l.text.toList = '$' :: l.flatMap fun s => '[' :: (s.inner ++ [']']) := by
  have steps : (String.join (l.map Step.text)).toList = l.flatMap fun s => s.text.toList := by
    induction l with
    | nil => rfl
    | cons s l ih => simp [String.join_cons, ih]
  simp [text, steps, Step.toList_text]

namespace Token

namespace Scan

theorem afterNumeral_of_ends {n : Numeral} {rest : List Char} (ends : Numeral.Ends rest) (offset : Nat) :
    afterNumeral n offset rest = .ok () := by
  cases rest with
  | nil => rfl
  | cons c rest =>
    have other := ends c (by simp)
    rw [Numeral.isDigit_eq] at other
    simp [afterNumeral, other]

theorem number_toString {n : Int} (short : n.natAbs < 10 ^ maxIntegerDigits) (offset : Nat)
    {rest : List Char} (ends : Numeral.Ends rest) :
    number offset ((toString n).toList ++ rest) = .ok ⟨.int n, (toString n).toList, rest⟩ := by
  have notMinusZero : (Numeral.ofInt n).isMinusZero = false := by
    rcases Int.lt_or_le n 0 with negative | positive
    · have digits := Numeral.toDigits_head_ne_zero (n := n.natAbs) (by omega) []
      simp [Numeral.isMinusZero, Numeral.ofInt, digits]
    · simp [Numeral.isMinusZero, Numeral.ofInt, Int.not_lt.mpr positive]
  have digits : (Numeral.ofInt n).whole.length ≤ maxIntegerDigits :=
    (Nat.length_toDigits_le_iff (by decide) (by decide)).mpr short
  have value : numberValue (.ofInt n) = .ok (.int n) := by
    have plain : (Numeral.ofInt n).isPlain := rfl
    have few : ¬ (Numeral.ofInt n).whole.length > maxIntegerDigits := by omega
    simp [numberValue, plain, notMinusZero, few, Numeral.toInt_ofInt]
  rw [number, Numeral.read?_toString n ends]
  simp only [afterNumeral_of_ends ends, value]
  rfl

theorem toString_int_cons (n : Int) :
    ∃ c text, (toString n).toList = c :: text ∧ (c = '-' ∨ c.isDigit) := by
  rw [Numeral.toList_toString_int]
  split
  · exact ⟨'-', _, rfl, .inl rfl⟩
  · obtain ⟨d, ds, digits⟩ := List.exists_cons_of_ne_nil (@Nat.toDigits_ne_nil n.natAbs 10)
    have digit : d.isDigit :=
      Nat.isDigit_of_mem_toDigits (by decide) (by decide) (digits ▸ List.mem_cons_self)
    exact ⟨d, ds, digits, .inr digit⟩

theorem lexeme_number {c : Char} (first : c = '-' ∨ c.isDigit) (offset : Nat) (text : List Char) :
    isBlank c = false ∧ c ≠ '.' ∧ lexeme offset c text = (do
      let l ← number offset (c :: text)
      return ⟨.number l.value, l.text, l.rest⟩) := by
  have notSingle : single? c = none := by
    unfold single?
    split <;> simp_all
  have other (d : Char) (differs : d ≠ '-' ∧ d.isDigit = false) : c ≠ d := by
    rintro rfl
    simp [differs] at first
  have notBlank : isBlank c = false := by
    simp [isBlank, other ' ' (by decide), other '\t' (by decide), other '\n' (by decide),
      other '\r' (by decide)]
  have notQuote : ¬ (c = '"' ∨ c = '\'') := by
    simp [other '"' (by decide), other '\'' (by decide)]
  refine ⟨notBlank, other '.' (by decide), ?_⟩
  rw [lexeme, notSingle]
  simp [notQuote, first]

theorem lexeme_inner {s : Step} (safe : s.IsSafe) (offset : Nat) (rest : List Char) :
    ∃ c text, s.inner ++ ']' :: rest = c :: text ∧ isBlank c = false ∧ c ≠ '.' ∧
      lexeme offset c text = .ok ⟨s.innerKind, s.inner, ']' :: rest⟩ := by
  cases s with
  | member name =>
    refine ⟨'\'', name.toList.flatMap escapeChar ++ '\'' :: ']' :: rest, by simp [Step.inner],
      by decide, by decide, ?_⟩
    have read := content_escapeName name.toList (offset + 1) (']' :: rest)
    simp [lexeme, single?, read, Step.innerKind, Step.inner, bind, Except.bind, pure, Except.pure]
  | index n =>
    -- An index has sixteen digits at most, and the scanner refuses only far longer numbers.
    have short : n.natAbs < 10 ^ maxIntegerDigits := by
      have small : 2 ^ 53 - 1 < 10 ^ maxIntegerDigits :=
        Nat.lt_of_lt_of_le (by decide : 2 ^ 53 - 1 < 10 ^ 16) (Nat.pow_le_pow_right (by decide) (by decide))
      exact Nat.lt_of_le_of_lt safe small
    have ends : Numeral.Ends (']' :: rest) := by
      simp [Numeral.Ends]
      decide
    have read := number_toString short offset ends
    obtain ⟨c, text, same, first⟩ := toString_int_cons n
    obtain ⟨notBlank, notDot, numeric⟩ := lexeme_number first offset (text ++ ']' :: rest)
    rw [same, List.cons_append] at read
    have written : (Step.index n).inner = c :: text := same
    refine ⟨c, text ++ ']' :: rest, by simp [written], notBlank, notDot, ?_⟩
    rw [numeric, read, written]
    rfl

theorem scanFrom_cons {fuel offset : Nat} {c : Char} {text rest : List Char} {ts more : List Token}
    (notBlank : isBlank c = false) (first : step offset c text = .ok (ts, rest))
    (after : scanFrom fuel (offset + (ts.flatMap (·.text)).length) rest = .ok more) :
    scanFrom (fuel + 1) offset (c :: text) = .ok (ts ++ more) := by
  simp [scanFrom, notBlank, first, after, bind, Except.bind, pure, Except.pure, -List.length_flatMap]

theorem step_eq_of_lexeme {offset : Nat} {c : Char} {text : List Char} {l : Lexeme TokenKind}
    (notDot : c ≠ '.') (read : lexeme offset c text = .ok l) :
    step offset c text = .ok ([⟨l.value, offset, l.text⟩], l.rest) := by
  simp [step, notDot, read, bind, Except.bind, pure, Except.pure]

theorem scanFrom_step {s : Step} (safe : s.IsSafe) {fuel offset : Nat} {rest : List Char}
    {more : List Token} (after : scanFrom fuel (offset + s.inner.length + 2) rest = .ok more) :
    scanFrom (fuel + 3) offset ('[' :: (s.inner ++ ']' :: rest)) = .ok (s.tokens offset ++ more) := by
  obtain ⟨c, text, same, notBlank, notDot, inside⟩ := lexeme_inner safe (offset + 1) rest
  have close : scanFrom (fuel + 1) (offset + 1 + s.inner.length) (']' :: rest) =
      .ok (⟨.rbracket, offset + 1 + s.inner.length, [']']⟩ :: more) := by
    have here : offset + s.inner.length + 2 = offset + 1 + s.inner.length + 1 := by omega
    have bracket : step (offset + 1 + s.inner.length) ']' rest =
        .ok ([⟨.rbracket, offset + 1 + s.inner.length, [']']⟩], rest) :=
      step_eq_of_lexeme (show ']' ≠ '.' by decide) rfl
    rw [here] at after
    exact scanFrom_cons (by decide) bracket after
  have middle : scanFrom (fuel + 2) (offset + 1) (s.inner ++ ']' :: rest) =
      .ok (⟨s.innerKind, offset + 1, s.inner⟩ :: ⟨.rbracket, offset + 1 + s.inner.length, [']']⟩ :: more) := by
    rw [same]
    exact scanFrom_cons notBlank (step_eq_of_lexeme notDot inside) (by simpa using close)
  have bracket : step offset '[' (s.inner ++ ']' :: rest) =
      .ok ([⟨.lbracket, offset, ['[']⟩], s.inner ++ ']' :: rest) :=
    step_eq_of_lexeme (show '[' ≠ '.' by decide) rfl
  have whole := scanFrom_cons (by decide) bracket middle
  exact whole

theorem scanFrom_location {l : Location} (safe : ∀ s ∈ l, s.IsSafe) {fuel offset : Nat}
    (enough : (l.flatMap fun s => '[' :: (s.inner ++ [']'])).length ≤ fuel) :
    scanFrom fuel offset (l.flatMap fun s => '[' :: (s.inner ++ [']'])) = .ok (l.tokens offset) := by
  induction l generalizing fuel offset with
  | nil => cases fuel <;> rfl
  | cons s l ih =>
    have nonempty := s.inner_length_pos
    simp only [List.flatMap_cons, List.length_append, List.length_cons, List.length_nil] at enough
    obtain ⟨fuel, rfl⟩ : ∃ k, fuel = k + 3 := ⟨fuel - 3, by omega⟩
    have others : ∀ t ∈ l, t.IsSafe := fun t member => safe t (by simp [member])
    have after : scanFrom fuel (offset + s.inner.length + 2)
        (l.flatMap fun s => '[' :: (s.inner ++ [']'])) = .ok (Location.tokens (offset + s.inner.length + 2) l) :=
      ih others (by omega)
    simpa [Location.tokens] using scanFrom_step (safe s (by simp)) after

end Scan

theorem scan_text {l : Location} (safe : ∀ s ∈ l, s.IsSafe) :
    scan l.text.toList = .ok (⟨.root, 0, ['$']⟩ :: l.tokens 1) := by
  rw [Location.toList_text]
  exact Scan.scanFrom_cons (c := '$') (by decide) (Scan.step_eq_of_lexeme (by decide) rfl)
    (Scan.scanFrom_location safe (by simp))

end Token

end JsonPath
