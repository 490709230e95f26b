import JsonPath.Proofs.Grammar.Soundness
import JsonPath.Proofs.Token.Cover
import JsonPath.Proofs.Token.Stream
import Mathlib.Algebra.Group.Int.Defs

namespace JsonPath

namespace Numeral

theorem IsWhole.digits {ds : List Char} (whole : IsWhole ds) : ∀ d ∈ ds, isDigit d := by
  rcases whole with rfl | ⟨-, -, digits⟩
  · exact List.forall_mem_singleton.mpr (by decide)
  · exact digits

def isMark (c : Char) : Bool := c == '.' || c == 'e' || c == 'E'

theorem isMark_of_isDigit {c : Char} (digit : isDigit c) : isMark c = false := by
  by_contra mark
  simp only [Bool.not_eq_false, isMark, Bool.or_eq_true, beq_iff_eq] at mark
  rcases mark with (rfl | rfl) | rfl <;> contradiction

theorem FractionText.any_isMark {ds written : List Char} (fraction : FractionText ds written) :
    written.any isMark = !ds.isEmpty := by
  cases fraction with
  | absent => rfl
  | present nonempty => simp [isMark, nonempty]

theorem ExponentText.any_isMark {e : Option (Bool × List Char)} {written : List Char}
    (exponent : ExponentText e written) : written.any isMark = e.isSome := by
  cases exponent with
  | absent => rfl
  | present mark => rcases mark with rfl | rfl <;> simp [isMark]

theorem Writes.any_isMark {n : Numeral} {text : List Char} (writes : n.Writes text) :
    text.any isMark = !n.isPlain := by
  obtain @⟨fraction, exponent, whole, hasFraction, hasExponent⟩ := writes
  have sign : n.signText.any isMark = false := by
    unfold signText
    split <;> rfl
  have digits : n.whole.any isMark = false := by
    rw [List.any_eq_false]
    intro d member
    simp [isMark_of_isDigit (whole.digits d member)]
  simp [List.any_append, sign, digits, hasFraction.any_isMark, hasExponent.any_isMark, isPlain]

theorem Writes.eq_minusZero_iff {n : Numeral} {text : List Char} (writes : n.Writes text) :
    text = ['-', '0'] ↔ n.isMinusZero := by
  have atEnd : n.Delimits [] := by simp [Delimits]
  have read := read?_delimited writes atEnd
  rw [List.append_nil] at read
  constructor
  · rintro rfl
    cases read
    rfl
  · intro isZero
    obtain ⟨⟨negative, zero⟩, plain⟩ : (n.negative ∧ n.whole = ['0']) ∧ n.isPlain := by
      simpa [isMinusZero] using isZero
    obtain ⟨noFraction, noExponent⟩ := isPlain_iff.mp plain
    obtain @⟨fraction, exponent, -, hasFraction, hasExponent⟩ := writes
    rw [noFraction] at hasFraction
    rw [noExponent] at hasExponent
    cases hasFraction
    · cases hasExponent
      simp [signText, negative, zero]
    · contradiction

end Numeral

namespace Token

namespace Scan

theorem afterNumeral_eq_ok_iff {n : Numeral} {offset : Nat} {rest : List Char} :
    afterNumeral n offset rest = .ok () ↔ ∀ d ∈ rest.head?, (n.isPlain → Numeral.isDigit d = false) ∧
      (n.isPlain → d ≠ '.') ∧ (n.exponent = none → d ≠ 'e' ∧ d ≠ 'E') := by
  cases rest with
  | nil => simp [afterNumeral]
  | cons c rest =>
    simp only [afterNumeral, List.head?_cons, Option.mem_some_iff, forall_eq', Numeral.isDigit_eq]
    split
    · next digit => simp_all
    · split
      · next point => simp_all
      · split
        · next mark =>
          simp only [fail_ne_ok, false_iff]
          rintro ⟨-, -, noMark⟩
          simp_all
        · next notDigit notPoint notMark =>
          grind

theorem number_eq_ok_iff {offset : Nat} {text : List Char} {l : Lexeme Number} :
    number offset text = .ok l ↔ ∃ n : Numeral, n.Writes l.text ∧ text = l.text ++ l.rest ∧
      n.Delimits l.rest ∧ numberValue n = .ok l.value := by
  constructor
  · intro run
    unfold number at run
    split at run
    · simp at run
    · next l' read =>
      obtain ⟨_, after, value, valued, same⟩ : ∃ u, afterNumeral l'.value _ l'.rest = .ok u ∧ ∃ v, _ ∧ _ := by
        simpa only [Except.bind_eq_ok] using run
      cases same
      obtain ⟨writes, covers⟩ := Numeral.read?_sound read
      refine ⟨l'.value, writes, covers, fun d head => ?_, valued⟩
      obtain ⟨noDigit, noPoint, noMark⟩ := afterNumeral_eq_ok_iff.mp after d head
      refine ⟨?_, noPoint, noMark⟩
      by_cases plain : l'.value.isPlain
      · exact noDigit plain
      · exact Numeral.read?_stops read (by simpa using plain) d head
  · rintro ⟨n, writes, rfl, delimits, valued⟩
    have after : ∀ place, afterNumeral n place l.rest = .ok () := fun place =>
      afterNumeral_eq_ok_iff.mpr fun d head =>
        ⟨fun _ => (delimits d head).1, (delimits d head).2.1, (delimits d head).2.2⟩
    simp [number, Numeral.read?_delimited writes delimits, after, valued, bind, Except.bind, pure, Except.pure]

theorem numberValue_cases {n : Numeral} {v : Number} (valued : numberValue n = .ok v) :
    (n.isPlain ∧ n.isMinusZero = false) ∧ v = .int n.toInt ∨
      ¬ (n.isPlain ∧ n.isMinusZero = false) ∧ v = .double n.toDouble := by
  unfold numberValue at valued
  split at valued
  · next plain =>
    split at valued
    · contradiction
    · cases valued
      exact .inl ⟨by simpa using plain, rfl⟩
  · next notPlain =>
    cases valued
    exact .inr ⟨by simpa using notPlain, rfl⟩

theorem exists_numberValue {n : Numeral} (short : n.isPlain → n.whole.length ≤ maxIntegerDigits) :
    ∃ v, numberValue n = .ok v := by
  unfold numberValue
  split
  · next plain =>
    have few : ¬ n.whole.length > maxIntegerDigits := by
      have bound := short (by simp_all)
      omega
    exact ⟨_, if_neg few⟩
  · exact ⟨_, rfl⟩

theorem step_number {c : Char} (begins : c = '-' ∨ c.isDigit) (offset : Nat) (text : List Char) :
    step offset c text = (do
      let l ← number offset (c :: text)
      return ([⟨.number l.value, offset, l.text⟩], l.rest)) := by
  obtain ⟨-, notDot, read⟩ := lexeme_number begins offset text
  rw [step_of_ne_dot notDot, read]
  simp

end Scan

/-- A token of a number has the text of a numeral. It is an integer where that is in integer form and not
minus zero, and then its value is the one that the text writes in decimal. -/
structure IsNumber (t : Token) (v : Number) : Prop where
  kind : t.kind = .number v
  numeral : ∃ n : Numeral, n.Writes t.text ∧
    (t.isInteger ↔ (n.fraction = [] ∧ n.exponent = none) ∧ t.text ≠ ['-', '0'])
  integer : t.isInteger ↔ ∃ i, v = .int i
  decimal : ∀ i, v = .int i → t.text = (toString i).toList

open Scan

theorem isInteger_iff {n : Numeral} {t : Token} {v : Number} (kind : t.kind = .number v)
    (writes : n.Writes t.text) : t.isInteger ↔ n.isPlain ∧ t.text ≠ ['-', '0'] := by
  have form : t.isInteger = (t.text != ['-', '0'] && !t.text.any Numeral.isMark) := by
    simp only [isInteger, kind]
    rfl
  rw [form, writes.any_isMark]
  simp [and_comm]

theorem isNumber_of_number {offset place : Nat} {text : List Char} {l : Lexeme Number}
    (run : number offset text = .ok l) : IsNumber ⟨.number l.value, place, l.text⟩ l.value := by
  obtain ⟨n, writes, -, -, valued⟩ := number_eq_ok_iff.mp run
  have form := isInteger_iff (t := ⟨.number l.value, place, l.text⟩) rfl writes
  have notMinusZero : l.text ≠ ['-', '0'] ↔ n.isMinusZero = false := by
    rw [ne_eq, writes.eq_minusZero_iff, Bool.not_eq_true]
  refine ⟨rfl, ⟨n, writes, by rw [form, Numeral.isPlain_iff]⟩, ?_, fun i same => ?_⟩
  · rw [form, notMinusZero]
    rcases numberValue_cases valued with ⟨plain, value⟩ | ⟨notPlain, value⟩
    · simp [plain, value]
    · simp [notPlain, value]
  · rcases numberValue_cases valued with ⟨⟨plain, notZero⟩, value⟩ | ⟨-, value⟩
    · obtain rfl : n.toInt = i := by simpa [value] using same
      exact writes.eq_toString plain notZero
    · simp [value] at same

theorem step_isNumber {offset : Nat} {c : Char} {text rest : List Char} {ts : List Token}
    (run : step offset c text = .ok (ts, rest)) : ∀ t ∈ ts, ∀ v, t.kind = .number v → IsNumber t v := by
  unfold step at run
  split at run
  · split at run
    all_goals
      simp only [Except.bind_eq_ok] at run
      obtain ⟨⟨us, after⟩, shorthand, run⟩ := run
      cases run
      refine List.forall_mem_cons.mpr ⟨by simp, fun t member v number => ?_⟩
      have following := shorthand_notApart shorthand t member
      simp [number, isApart] at following
  · simp only [Except.bind_eq_ok] at run
    obtain ⟨l, read, run⟩ := run
    cases run
    simp only [List.mem_singleton, forall_eq]
    intro v kind
    obtain ⟨-, begins⟩ := lexeme_apart read (by simp [kind, isApart])
    obtain ⟨-, -, numeric⟩ := lexeme_number begins offset text
    rw [numeric, Except.bind_eq_ok] at read
    obtain ⟨l', scanned, same⟩ := read
    cases same
    obtain rfl : l'.value = v := by simpa using kind
    exact isNumber_of_number scanned

theorem scan_isNumber {text : List Char} {ts : List Token} (scanned : scan text = .ok ts) :
    ∀ t ∈ ts, ∀ v, t.kind = .number v → IsNumber t v :=
  scanFrom_forall (by simp) step_isNumber scanned

theorem step_of_writes {n : Numeral} {written rest : List Char} (offset : Nat) (writes : n.Writes written)
    (ends : Numeral.Ends rest) (short : n.isPlain → n.whole.length ≤ maxIntegerDigits) :
    ∃ c tail v, written = c :: tail ∧
      step offset c (tail ++ rest) = .ok ([⟨.number v, offset, written⟩], rest) := by
  obtain ⟨c, tail, rfl, begins⟩ := writes.first
  obtain ⟨v, valued⟩ := exists_numberValue short
  have read : number offset (c :: tail ++ rest) = .ok ⟨v, c :: tail, rest⟩ :=
    number_eq_ok_iff.mpr ⟨n, writes, rfl, ends.delimits n, valued⟩
  rw [List.cons_append] at read
  exact ⟨c, tail, v, rfl, by simp [step_number begins, read, bind, Except.bind, pure, Except.pure]⟩

open Grammar Query.Parser

theorem optionalTokens_integer {n? : Option (Leaf integer?)} {bound : Option Int}
    (meaning : bound? n? = some bound) :
    ∀ t ∈ optionalTokens n?, ∀ v, t.kind = .number v → ∃ i, v = .int i ∧ isIndex i := by
  cases n? with
  | none => simp [optionalTokens]
  | some n =>
    obtain ⟨inRange, -⟩ : isIndex n.value ∧ _ := by simpa [bound?] using meaning
    simp only [optionalTokens, List.mem_singleton, forall_eq]
    intro v kind
    rw [integer_kind] at kind
    cases kind
    exact ⟨_, rfl, inRange⟩

theorem sliceForm_integer {form : SliceForm} {s : Selector} (meaning : form.selector? = some s) :
    ∀ t ∈ form.tokens, ∀ v, t.kind = .number v → ∃ i, v = .int i ∧ isIndex i := by
  obtain ⟨start, colon, stop, step⟩ := form
  simp only [SliceForm.selector?, Option.bind_eq_bind, Option.bind_eq_some_iff] at meaning
  obtain ⟨a, startOk, b, stopOk, d, stepOk, -⟩ := meaning
  have mark (m : Mark .colon) (v : Number) : m.token.kind ≠ .number v := by simp [m.kind]
  have second : ∀ t ∈ SliceForm.stepTokens step, ∀ v, t.kind = .number v → ∃ i, v = .int i ∧ isIndex i := by
    cases step with
    | none => simp [SliceForm.stepTokens]
    | some step =>
      exact List.forall_mem_cons.mpr
        ⟨fun v kind => absurd kind (mark step.1 v), optionalTokens_integer stepOk⟩
  exact List.forall_mem_append.mpr ⟨optionalTokens_integer startOk, List.forall_mem_cons.mpr
    ⟨fun v kind => absurd kind (mark colon v),
      List.forall_mem_append.mpr ⟨optionalTokens_integer stopOk, second⟩⟩⟩

theorem selector_integer {fuel : Nat} {ts rest : List Token} {s : Selector}
    (run : selector (condition fuel) ts = .ok (s, rest)) (noFilter : ∀ c, s ≠ .filter c) :
    ∃ used, ts = used ++ rest ∧ ∀ t ∈ used, ∀ v, t.kind = .number v → ∃ i, v = .int i ∧ isIndex i := by
  obtain ⟨d, rfl, meaning⟩ := selector_sound (condition_sound fuel) _ _ _ run
  refine ⟨d.tokens, rfl, ?_⟩
  cases d with
  | nameSelector name => simp [string_kind name]
  | wildcardSelector star => simp [star.kind]
  | indexSelector index =>
    obtain ⟨inRange, -⟩ : isIndex index.value ∧ _ := by simpa using meaning
    simp [integer_kind index, inRange]
  | sliceSelector form => exact sliceForm_integer meaning
  | filterSelector question c =>
    obtain ⟨condition, -, rfl⟩ := Option.map_eq_some_iff.mp meaning
    exact absurd rfl (noFilter condition)

/-- Numbers are scanned by the grammar of numerals, and selectors take the integers among them alone. -/
structure NumbersFollowGrammar : Prop where
  scanned : ∀ offset c text ts rest, c = '-' ∨ c.isDigit → step offset c text = .ok (ts, rest) →
    ∃ t v, ts = [t] ∧ t.offset = offset ∧ c :: text = t.text ++ rest ∧ IsNumber t v
  complete : ∀ (n : Numeral) offset written rest, n.Writes written → Numeral.Ends rest →
    (n.fraction = [] ∧ n.exponent = none → n.whole.length ≤ 4300) → ∃ c tail v, written = c :: tail ∧
      step offset c (tail ++ rest) = .ok ([⟨.number v, offset, written⟩], rest)
  everywhere : ∀ text ts, scan text = .ok ts → ∀ t ∈ ts, ∀ v, t.kind = .number v → IsNumber t v
  selectors : ∀ text before ts fuel s rest, scan text = .ok (before ++ ts) →
    selector (condition fuel) ts = .ok (s, rest) → (∀ c, s ≠ .filter c) →
      ∃ used, ts = used ++ rest ∧ ∀ t ∈ used, ∀ v, t.kind = .number v → t.isInteger ∧
        t.text ≠ ['-', '0'] ∧ ∃ i : Int, v = .int i ∧ t.text = (toString i).toList ∧
          -(2 ^ 53 - 1) ≤ i ∧ i ≤ 2 ^ 53 - 1

theorem numbers_followGrammar : NumbersFollowGrammar where
  scanned offset c text ts rest begins run := by
    rw [step_number begins, Except.bind_eq_ok] at run
    obtain ⟨l, read, same⟩ := run
    cases same
    obtain ⟨-, -, covers, -⟩ := number_eq_ok_iff.mp read
    exact ⟨_, _, rfl, rfl, covers, isNumber_of_number read⟩
  complete n offset written rest writes ends short :=
    step_of_writes offset writes ends fun plain => short (Numeral.isPlain_iff.mp plain)
  everywhere _ _ := scan_isNumber
  selectors text before ts fuel s rest tokens run noFilter := by
    obtain ⟨used, rfl, integers⟩ := selector_integer run noFilter
    refine ⟨used, rfl, fun t member v kind => ?_⟩
    obtain ⟨i, rfl, inRange⟩ := integers t member v kind
    have number := scan_isNumber tokens t (by simp [member]) _ kind
    have integer : t.isInteger := number.integer.mpr ⟨i, rfl⟩
    obtain ⟨n, -, form⟩ := number.numeral
    have bounds : -(2 ^ 53 - 1) ≤ i ∧ i ≤ 2 ^ 53 - 1 := by simpa [isIndex] using inRange
    exact ⟨integer, (form.mp integer).2, i, rfl, number.decimal i rfl, bounds⟩

theorem numbers_followGrammar_slice :
    ∃ before ts s rest, scan "$[-12:0]".toList = .ok (before ++ ts) ∧
      selector (condition 9) ts = .ok (s, rest) ∧ (∀ c, s ≠ .filter c) ∧
      ∃ used, ts = used ++ rest ∧ ∀ t ∈ used, ∀ v, t.kind = .number v → t.isInteger := by
  have scanned : scan "$[-12:0]".toList = .ok
      ([⟨.root, 0, ['$']⟩, ⟨.lbracket, 1, ['[']⟩] ++ [⟨.number (.int (-12)), 2, ['-', '1', '2']⟩,
        ⟨.colon, 5, [':']⟩, ⟨.number (.int 0), 6, ['0']⟩, ⟨.rbracket, 7, [']']⟩, ⟨.eof, 8, []⟩]) := by
    rfl
  have run : selector (condition 9) [⟨.number (.int (-12)), 2, ['-', '1', '2']⟩, ⟨.colon, 5, [':']⟩,
      ⟨.number (.int 0), 6, ['0']⟩, ⟨.rbracket, 7, [']']⟩, ⟨.eof, 8, []⟩] =
      .ok (.slice (some (-12)) (some 0) none, [⟨.rbracket, 7, [']']⟩, ⟨.eof, 8, []⟩]) := by rfl
  obtain ⟨used, covers, integers⟩ := numbers_followGrammar.selectors _ _ _ _ _ _ scanned run (by simp)
  exact ⟨_, _, _, _, scanned, run, by simp, used, covers, fun t member v kind => (integers t member v kind).1⟩

end Token

end JsonPath
