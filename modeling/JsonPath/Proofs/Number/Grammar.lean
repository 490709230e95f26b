import JsonPath.Proofs.Number.Decimal

namespace JsonPath

namespace Numeral

/-- A zero alone, or digits that do not begin with zero. -/
def IsWhole (ds : List Char) : Prop :=
  ds = ['0'] ∨ (ds ≠ [] ∧ ds.head? ≠ some '0' ∧ ∀ d ∈ ds, isDigit d)

/-- Nothing, or a point with digits after it. -/
inductive FractionText : List Char → List Char → Prop
  | absent : FractionText [] []
  | present {ds : List Char} (nonempty : ds ≠ []) (digits : ∀ d ∈ ds, isDigit d) :
      FractionText ds ('.' :: ds)

/-- Nothing, or a mark, perhaps a sign, and digits. -/
inductive ExponentText : Option (Bool × List Char) → List Char → Prop
  | absent : ExponentText none []
  | present {mark : Char} {sign ds : List Char} (isMark : mark = 'e' ∨ mark = 'E')
      (isSign : sign = [] ∨ sign = ['+'] ∨ sign = ['-']) (nonempty : ds ≠ [])
      (digits : ∀ d ∈ ds, isDigit d) :
      ExponentText (some (sign == ['-'], ds)) (mark :: sign ++ ds)

def signText (n : Numeral) : List Char := if n.negative then ['-'] else []

inductive Writes (n : Numeral) : List Char → Prop
  | parts {fraction exponent : List Char} (whole : IsWhole n.whole)
      (hasFraction : FractionText n.fraction fraction) (hasExponent : ExponentText n.exponent exponent) :
      Writes n (n.signText ++ n.whole ++ fraction ++ exponent)

theorem IsWhole.ne_nil {ds : List Char} (whole : IsWhole ds) : ds ≠ [] := by
  rcases whole with rfl | ⟨nonempty, -⟩
  · simp
  · exact nonempty

theorem Writes.ne_nil {n : Numeral} {text : List Char} (writes : n.Writes text) : text ≠ [] := by
  obtain ⟨whole, -, -⟩ := writes
  simp [whole.ne_nil]

theorem IsWhole.first {ds : List Char} (whole : IsWhole ds) : ∃ d tail, ds = d :: tail ∧ isDigit d := by
  rcases whole with rfl | ⟨nonempty, -, inside⟩
  · exact ⟨'0', [], rfl, by decide⟩
  · obtain ⟨d, tail, rfl⟩ := List.exists_cons_of_ne_nil nonempty
    exact ⟨d, tail, rfl, inside d (by simp)⟩

theorem Writes.digit {n : Numeral} {text : List Char} (writes : n.Writes text) :
    ∃ d tail, isDigit d ∧ (text = d :: tail ∨ text = '-' :: d :: tail) := by
  obtain @⟨fraction, exponent, whole, -, -⟩ := writes
  obtain ⟨d, tail, cons, digit⟩ := whole.first
  refine ⟨d, tail ++ fraction ++ exponent, digit, ?_⟩
  by_cases negative : n.negative
  · exact .inr (by simp [signText, negative, cons])
  · exact .inl (by simp [signText, negative, cons])

theorem Writes.first {n : Numeral} {text : List Char} (writes : n.Writes text) :
    ∃ c tail, text = c :: tail ∧ (c = '-' ∨ c.isDigit) := by
  obtain ⟨d, tail, digit, front⟩ := writes.digit
  rw [isDigit_eq] at digit
  rcases front with rfl | rfl
  · exact ⟨_, _, rfl, .inr digit⟩
  · exact ⟨_, _, rfl, .inl rfl⟩

theorem FractionText.text_eq {ds written : List Char} (fraction : FractionText ds written) :
    (if ds.isEmpty then [] else ['.']) ++ ds = written := by
  cases fraction with
  | absent => rfl
  | present nonempty => simp [nonempty]

theorem span_eq {p : Char → Bool} {ds rest text : List Char} (run : text.span p = (ds, rest)) :
    text = ds ++ rest ∧ ∀ d ∈ ds, p d := by
  rw [List.span_eq_takeWhile_dropWhile] at run
  cases run
  exact ⟨List.takeWhile_append_dropWhile.symm, fun d member => List.all_eq_true.mp List.all_takeWhile d member⟩

theorem wholeDigits_sound {ds rest text : List Char} (run : wholeDigits text = (ds, rest))
    (nonempty : ds ≠ []) : text = ds ++ rest ∧ IsWhole ds := by
  unfold wholeDigits at run
  split at run
  · cases run
    exact ⟨rfl, .inl rfl⟩
  · next notZero =>
    obtain ⟨rfl, inside⟩ := span_eq run
    refine ⟨rfl, .inr ⟨nonempty, fun head => ?_, inside⟩⟩
    obtain ⟨d, ds, rfl⟩ := List.exists_cons_of_ne_nil nonempty
    cases head
    exact notZero _ rfl

theorem fractionDigits_sound {ds rest text : List Char} (run : fractionDigits text = (ds, rest)) :
    ∃ written, FractionText ds written ∧ text = written ++ rest := by
  unfold fractionDigits at run
  split at run
  · split at run
    · cases run
      exact ⟨[], .absent, rfl⟩
    · next nonempty =>
      obtain ⟨rfl, inside⟩ := span_eq run
      have digits : ds ≠ [] := by
        rintro rfl
        rw [List.span_eq_takeWhile_dropWhile] at run
        exact nonempty (List.isEmpty_iff.mpr (Prod.mk.inj run).1)
      exact ⟨_, .present digits inside, rfl⟩
  · cases run
    exact ⟨[], .absent, rfl⟩

theorem exponentSign_sound {sign rest text : List Char} (run : exponentSign text = (sign, rest)) :
    text = sign ++ rest ∧ (sign = [] ∨ sign = ['+'] ∨ sign = ['-']) := by
  unfold exponentSign at run
  split at run <;> cases run <;> simp

theorem exponentDigits_sound {e : Option (Bool × List Char)} {written rest text : List Char}
    (run : exponentDigits text = (e, written, rest)) :
    ExponentText e written ∧ text = written ++ rest := by
  unfold exponentDigits at run
  split at run
  · cases run
    exact ⟨.absent, rfl⟩
  · next c text =>
    split at run
    · next mark =>
      obtain ⟨signed, isSign⟩ := exponentSign_sound (Prod.eta (exponentSign text)).symm
      obtain ⟨split, inside⟩ := span_eq (Prod.eta ((exponentSign text).2.span isDigit)).symm
      simp only at run
      split at run
      · cases run
        exact ⟨.absent, rfl⟩
      · next nonempty =>
        cases run
        refine ⟨.present mark isSign (by simpa using nonempty) inside, ?_⟩
        rw [List.cons_append, List.cons_append, List.append_assoc, ← split, ← signed]
    · cases run
      exact ⟨.absent, rfl⟩

def readUnsigned? (sign text : List Char) : Option (Lexeme Numeral) :=
  let (whole, rest) := wholeDigits text
  if whole.isEmpty then none else
  let (fraction, rest) := fractionDigits rest
  let (exponent, exponentText, rest) := exponentDigits rest
  let point := if fraction.isEmpty then [] else ['.']
  some {
    value := { negative := !sign.isEmpty, whole, fraction, exponent }
    text := sign ++ whole ++ point ++ fraction ++ exponentText
    rest }

theorem read?_minus (text : List Char) : read? ('-' :: text) = readUnsigned? ['-'] text := rfl

theorem read?_unsigned {text : List Char} (notMinus : text.head? ≠ some '-') :
    read? text = readUnsigned? [] text := by
  unfold read?
  split
  next sign rest unsigned =>
  split at unsigned
  · simp at notMinus
  · cases unsigned
    rfl

theorem exists_readUnsigned? {text : List Char} {l : Lexeme Numeral} (run : read? text = some l) :
    ∃ sign text, readUnsigned? sign text = some l := by
  by_cases minus : text.head? = some '-'
  · obtain ⟨text, rfl⟩ := List.head?_eq_some_iff.mp minus
    exact ⟨_, _, run⟩
  · exact ⟨_, _, (read?_unsigned minus).symm.trans run⟩

theorem readUnsigned?_sound {sign text : List Char} {l : Lexeme Numeral}
    (isSign : sign = [] ∨ sign = ['-']) (run : readUnsigned? sign text = some l) :
    l.value.Writes l.text ∧ sign ++ text = l.text ++ l.rest := by
  unfold readUnsigned? at run
  rcases whole : wholeDigits text with ⟨ds, afterWhole⟩
  rcases fraction : fractionDigits afterWhole with ⟨fs, afterFraction⟩
  rcases exponent : exponentDigits afterFraction with ⟨e, exponentText, afterExponent⟩
  simp only [whole, fraction, exponent, Option.ite_none_left_eq_some, Option.some.injEq] at run
  obtain ⟨nonempty, rfl⟩ := run
  obtain ⟨rfl, isWhole⟩ := wholeDigits_sound whole (by simpa using nonempty)
  obtain ⟨fractionText, hasFraction, rfl⟩ := fractionDigits_sound fraction
  obtain ⟨hasExponent, rfl⟩ := exponentDigits_sound exponent
  have signed : signText ⟨!sign.isEmpty, ds, fs, e⟩ = sign := by
    rcases isSign with rfl | rfl <;> rfl
  have writes : Writes ⟨!sign.isEmpty, ds, fs, e⟩ _ := .parts isWhole hasFraction hasExponent
  rw [signed, ← hasFraction.text_eq] at writes
  exact ⟨by simpa using writes, by simp [← hasFraction.text_eq]⟩

theorem read?_sound {text : List Char} {l : Lexeme Numeral} (run : read? text = some l) :
    l.value.Writes l.text ∧ text = l.text ++ l.rest := by
  by_cases minus : text.head? = some '-'
  · obtain ⟨text, rfl⟩ : ∃ rest, text = '-' :: rest := List.head?_eq_some_iff.mp minus
    rw [read?_minus] at run
    exact readUnsigned?_sound (.inr rfl) run
  · rw [read?_unsigned minus] at run
    exact readUnsigned?_sound (.inl rfl) run

theorem wholeDigits_complete {ds rest : List Char} (whole : IsWhole ds)
    (stops : ∀ d ∈ rest.head?, isDigit d = false) : wholeDigits (ds ++ rest) = (ds, rest) := by
  rcases whole with rfl | ⟨nonempty, notZero, inside⟩
  · rfl
  · rw [← span_digits inside stops]
    unfold wholeDigits
    split
    · next text same =>
      obtain ⟨d, ds, rfl⟩ := List.exists_cons_of_ne_nil nonempty
      obtain ⟨rfl, -⟩ := List.cons.inj same
      exact absurd rfl notZero
    · rfl

theorem fractionDigits_complete {ds written rest : List Char} (fraction : FractionText ds written)
    (stops : ∀ d ∈ rest.head?, isDigit d = false ∧ (ds = [] → d ≠ '.')) :
    fractionDigits (written ++ rest) = (ds, rest) := by
  cases fraction with
  | absent =>
    unfold fractionDigits
    split
    · next text same =>
      rw [List.nil_append] at same
      subst same
      exact absurd rfl ((stops '.' rfl).2 rfl)
    · rfl
  | present nonempty inside =>
    have exact := span_digits inside fun d head => (stops d head).1
    have taken : (ds ++ rest).takeWhile isDigit = ds := by
      rw [List.span_eq_takeWhile_dropWhile] at exact
      exact congrArg Prod.fst exact
    simp only [List.cons_append, fractionDigits, taken, exact]
    simp [nonempty]

theorem exponentSign_complete {sign ds rest : List Char} (isSign : sign = [] ∨ sign = ['+'] ∨ sign = ['-'])
    (nonempty : ds ≠ []) (digits : ∀ d ∈ ds, isDigit d) :
    exponentSign (sign ++ ds ++ rest) = (sign, ds ++ rest) := by
  obtain ⟨d, ds, rfl⟩ := List.exists_cons_of_ne_nil nonempty
  have digit := digits d (by simp)
  rcases isSign with rfl | rfl | rfl
  · unfold exponentSign
    split
    · next text same =>
      obtain ⟨rfl, -⟩ := List.cons.inj same
      contradiction
    · next text same =>
      obtain ⟨rfl, -⟩ := List.cons.inj same
      contradiction
    · rfl
  · rfl
  · rfl

theorem exponentDigits_complete {e : Option (Bool × List Char)} {written rest : List Char}
    (exponent : ExponentText e written)
    (stops : ∀ d ∈ rest.head?, isDigit d = false ∧ (e = none → d ≠ 'e' ∧ d ≠ 'E')) :
    exponentDigits (written ++ rest) = (e, written, rest) := by
  cases exponent with
  | absent =>
    cases rest with
    | nil => rfl
    | cons c rest => simp [exponentDigits, (stops c rfl).2 rfl]
  | @present mark sign ds isMark isSign nonempty digits =>
    have signed : exponentSign (sign ++ ds ++ rest) = (sign, ds ++ rest) :=
      exponentSign_complete isSign nonempty digits
    have exact := span_digits digits fun d head => (stops d head).1
    have some : ds.isEmpty = false := by simpa using nonempty
    rw [List.append_assoc] at signed
    simp only [List.cons_append, List.append_assoc, exponentDigits, isMark, if_true, signed, exact, some]
    rfl

theorem isPlain_iff {n : Numeral} : n.isPlain ↔ n.fraction = [] ∧ n.exponent = none := by
  simp [isPlain]

/-- No character in front goes on with this numeral. A point does after integer form only, and an exponent
mark where there is no exponent. -/
def Delimits (n : Numeral) (rest : List Char) : Prop :=
  ∀ d ∈ rest.head?, isDigit d = false ∧ (n.isPlain → d ≠ '.') ∧ (n.exponent = none → d ≠ 'e' ∧ d ≠ 'E')

theorem Ends.delimits {rest : List Char} (ends : Ends rest) (n : Numeral) : n.Delimits rest := by
  intro d head
  obtain ⟨noDigit, noPoint, noMark⟩ := ends d head
  exact ⟨noDigit, fun _ => noPoint, fun _ => noMark⟩

theorem ExponentText.stops {n : Numeral} {written rest : List Char}
    (exponent : ExponentText n.exponent written) (delimits : n.Delimits rest) :
    ∀ d ∈ (written ++ rest).head?, isDigit d = false ∧ (n.fraction = [] → d ≠ '.') := by
  generalize form : n.exponent = e at exponent
  cases exponent with
  | absent =>
    intro d head
    obtain ⟨noDigit, noPoint, -⟩ := delimits d head
    exact ⟨noDigit, fun whole => noPoint (isPlain_iff.mpr ⟨whole, form⟩)⟩
  | present isMark =>
    rintro d ⟨⟩
    rcases isMark with rfl | rfl <;> simp <;> decide

theorem FractionText.stops {ds written rest : List Char} (fraction : FractionText ds written)
    (stops : ∀ d ∈ rest.head?, isDigit d = false) :
    ∀ d ∈ (written ++ rest).head?, isDigit d = false := by
  cases fraction with
  | absent => exact stops
  | present =>
    rintro d ⟨⟩
    decide

theorem readUnsigned?_of_parts {n : Numeral} {fraction exponent rest : List Char}
    (whole : IsWhole n.whole) (hasFraction : FractionText n.fraction fraction)
    (readWhole : wholeDigits (n.whole ++ (fraction ++ (exponent ++ rest))) =
      (n.whole, fraction ++ (exponent ++ rest)))
    (readFraction : fractionDigits (fraction ++ (exponent ++ rest)) = (n.fraction, exponent ++ rest))
    (readExponent : exponentDigits (exponent ++ rest) = (n.exponent, exponent, rest)) :
    readUnsigned? n.signText (n.whole ++ (fraction ++ (exponent ++ rest))) =
      some ⟨n, n.signText ++ n.whole ++ fraction ++ exponent, rest⟩ := by
  have nonempty : n.whole.isEmpty = false := by simpa using whole.ne_nil
  have negative : (!n.signText.isEmpty) = n.negative := by
    unfold signText
    cases n.negative <;> rfl
  simp only [readUnsigned?, readWhole, readFraction, readExponent, nonempty, negative]
  simp [← hasFraction.text_eq]

theorem read?_signText {n : Numeral} (whole : IsWhole n.whole) (rest : List Char) :
    read? (n.signText ++ (n.whole ++ rest)) = readUnsigned? n.signText (n.whole ++ rest) := by
  unfold signText
  split
  · exact read?_minus _
  · have notMinus : (n.whole ++ rest).head? ≠ some '-' := by
      obtain ⟨d, ds, cons, digit⟩ := whole.first
      rw [cons]
      rintro ⟨⟩
      contradiction
    exact read?_unsigned notMinus

theorem read?_delimited {n : Numeral} {text rest : List Char} (writes : n.Writes text)
    (delimits : n.Delimits rest) : read? (text ++ rest) = some ⟨n, text, rest⟩ := by
  obtain @⟨fraction, exponent, whole, hasFraction, hasExponent⟩ := writes
  have afterFraction := hasExponent.stops delimits
  have afterWhole := hasFraction.stops fun d head => (afterFraction d head).1
  have afterExponent : ∀ d ∈ rest.head?, isDigit d = false ∧ (n.exponent = none → d ≠ 'e' ∧ d ≠ 'E') :=
    fun d head => ⟨(delimits d head).1, (delimits d head).2.2⟩
  simp only [List.append_assoc]
  rw [read?_signText whole, readUnsigned?_of_parts whole hasFraction (wholeDigits_complete whole afterWhole)
    (fractionDigits_complete hasFraction afterFraction) (exponentDigits_complete hasExponent afterExponent)]
  simp

theorem read?_complete {n : Numeral} {text rest : List Char} (writes : n.Writes text)
    (ends : Ends rest) : read? (text ++ rest) = some ⟨n, text, rest⟩ :=
  read?_delimited writes (ends.delimits n)

def EndsWhole (rest : List Char) : Prop :=
  (∀ d ∈ rest.head?, isDigit d = false) ∧
  (∀ ds written more, FractionText ds written → rest = written ++ more → written = []) ∧
  ∀ e written more, ExponentText e written → rest = written ++ more → written = []

theorem fractionDigits_eq_nil_iff {rest : List Char} : fractionDigits rest = ([], rest) ↔
    ∀ ds written more, FractionText ds written → rest = written ++ more → written = [] := by
  constructor
  · rintro absent ds written more fraction rfl
    cases fraction with
    | absent => rfl
    | present nonempty digits =>
      obtain ⟨d, ds, rfl⟩ := List.exists_cons_of_ne_nil nonempty
      have digit := digits d (by simp)
      simp [fractionDigits, digit, List.span_eq_takeWhile_dropWhile] at absent
  · intro absent
    rcases run : fractionDigits rest with ⟨ds, after⟩
    obtain ⟨written, fraction, split⟩ := fractionDigits_sound run
    obtain rfl := absent _ _ _ fraction split
    cases fraction with
    | absent => rw [split, List.nil_append]

theorem exponentDigits_eq_none_iff {rest : List Char} : exponentDigits rest = (none, [], rest) ↔
    ∀ e written more, ExponentText e written → rest = written ++ more → written = [] := by
  constructor
  · rintro absent e written more exponent rfl
    cases exponent with
    | absent => rfl
    | @present mark sign ds isMark isSign nonempty digits =>
      have signed : exponentSign (sign ++ ds ++ more) = (sign, ds ++ more) :=
        exponentSign_complete isSign nonempty digits
      obtain ⟨d, ds, rfl⟩ := List.exists_cons_of_ne_nil nonempty
      have digit := digits d (by simp)
      simp only [List.append_assoc, List.cons_append] at signed
      simp [exponentDigits, isMark, signed, digit, List.span_eq_takeWhile_dropWhile] at absent
  · intro absent
    rcases run : exponentDigits rest with ⟨e, written, after⟩
    obtain ⟨exponent, split⟩ := exponentDigits_sound run
    obtain rfl := absent _ _ _ exponent split
    cases exponent with
    | absent => rw [split, List.nil_append]

theorem span_stops {p : Char → Bool} {ds rest text : List Char} (run : text.span p = (ds, rest)) :
    ∀ d ∈ rest.head?, p d = false := by
  rw [List.span_eq_takeWhile_dropWhile] at run
  cases run
  intro d head
  have first := List.head?_dropWhile_not p text
  rw [head] at first
  exact first

theorem wholeDigits_stops {ds rest text : List Char} (run : wholeDigits text = (ds, rest))
    (notZero : ds ≠ ['0']) : ∀ d ∈ rest.head?, isDigit d = false := by
  unfold wholeDigits at run
  split at run
  · cases run
    exact absurd rfl notZero
  · exact span_stops run

theorem fractionDigits_stops {ds rest text : List Char} (run : fractionDigits text = (ds, rest))
    (nonempty : ds ≠ []) : ∀ d ∈ rest.head?, isDigit d = false := by
  unfold fractionDigits at run
  split at run
  · split at run
    · cases run
      contradiction
    · exact span_stops run
  · cases run
    contradiction

theorem exponentDigits_stops {e : Option (Bool × List Char)} {written rest text : List Char}
    (run : exponentDigits text = (e, written, rest)) (present : e ≠ none) :
    ∀ d ∈ rest.head?, isDigit d = false := by
  unfold exponentDigits at run
  split at run
  · cases run
    contradiction
  · split at run
    · simp only at run
      split at run <;> cases run
      · contradiction
      · exact span_stops (Prod.eta _).symm
    · cases run
      contradiction

theorem read?_stops {text : List Char} {l : Lexeme Numeral} (run : read? text = some l)
    (notPlain : l.value.isPlain = false) : ∀ d ∈ l.rest.head?, isDigit d = false := by
  obtain ⟨sign, text, run⟩ := exists_readUnsigned? run
  unfold readUnsigned? at run
  rcases whole : wholeDigits text with ⟨ds, afterWhole⟩
  rcases fraction : fractionDigits afterWhole with ⟨fs, afterFraction⟩
  rcases exponent : exponentDigits afterFraction with ⟨e, exponentText, afterExponent⟩
  simp only [whole, fraction, exponent, Option.ite_none_left_eq_some, Option.some.injEq] at run
  obtain ⟨-, rfl⟩ := run
  cases e with
  | some e => exact exponentDigits_stops exponent (by simp)
  | none =>
    have present : fs ≠ [] := by
      rintro rfl
      simp [isPlain] at notPlain
    obtain ⟨noExponent, rfl⟩ := exponentDigits_sound exponent
    cases noExponent
    exact fractionDigits_stops fraction present

/-- A numeral in integer form that is read is followed by nothing that goes on with it. After a zero alone a
digit may follow, which is not read. -/
theorem read?_endsWhole {text : List Char} {l : Lexeme Numeral} (run : read? text = some l)
    (plain : l.value.isPlain) (notZero : l.value.whole ≠ ['0']) : EndsWhole l.rest := by
  obtain ⟨sign, text, run⟩ := exists_readUnsigned? run
  unfold readUnsigned? at run
  rcases whole : wholeDigits text with ⟨ds, afterWhole⟩
  rcases fraction : fractionDigits afterWhole with ⟨fs, afterFraction⟩
  rcases exponent : exponentDigits afterFraction with ⟨e, exponentText, afterExponent⟩
  simp only [whole, fraction, exponent, Option.ite_none_left_eq_some, Option.some.injEq] at run
  obtain ⟨-, rfl⟩ := run
  obtain ⟨rfl, rfl⟩ := isPlain_iff.mp plain
  obtain ⟨written, noFraction, rfl⟩ := fractionDigits_sound fraction
  obtain ⟨noExponent, rfl⟩ := exponentDigits_sound exponent
  obtain rfl : [] = written := noFraction.text_eq
  cases noExponent with
  | absent =>
    exact ⟨wholeDigits_stops whole notZero, fractionDigits_eq_nil_iff.mp fraction,
      exponentDigits_eq_none_iff.mp exponent⟩

theorem read?_whole {n : Numeral} {text rest : List Char} (writes : n.Writes text) (plain : n.isPlain)
    (ends : EndsWhole rest) : read? (text ++ rest) = some ⟨n, text, rest⟩ := by
  obtain @⟨fraction, exponent, whole, hasFraction, hasExponent⟩ := writes
  obtain ⟨noDigit, noFraction, noExponent⟩ := ends
  obtain ⟨empty, absent⟩ := isPlain_iff.mp plain
  rw [empty] at hasFraction
  rw [absent] at hasExponent
  obtain rfl : [] = fraction := hasFraction.text_eq
  cases hasExponent with
  | absent =>
    have readWhole : wholeDigits (n.whole ++ ([] ++ ([] ++ rest))) = (n.whole, [] ++ ([] ++ rest)) :=
      wholeDigits_complete whole noDigit
    have readFraction : fractionDigits ([] ++ ([] ++ rest)) = (n.fraction, [] ++ rest) := by
      rw [empty]
      exact fractionDigits_eq_nil_iff.mpr noFraction
    have readExponent : exponentDigits ([] ++ rest) = (n.exponent, [], rest) := by
      rw [absent]
      exact exponentDigits_eq_none_iff.mpr noExponent
    simp only [List.append_assoc]
    rw [read?_signText whole, readUnsigned?_of_parts whole (empty ▸ hasFraction) readWhole readFraction
      readExponent]
    simp

theorem digitChar_of_isDigit {d : Char} (digit : isDigit d) :
    d.toNat - '0'.toNat < 10 ∧ Nat.digitChar (d.toNat - '0'.toNat) = d := by
  simp only [isDigit, Bool.and_eq_true, decide_eq_true_eq, Char.le_def, UInt32.le_iff_toNat_le] at digit
  have bounds : '0'.toNat ≤ d.toNat ∧ d.toNat ≤ '9'.toNat := digit
  simp only [Char.reduceToNat] at bounds ⊢
  refine ⟨by omega, Char.toNat_inj.mp ?_⟩
  rw [Nat.toNat_digitChar_of_lt_ten (by omega)]
  omega

theorem toDigits_foldl {n : Nat} (positive : 0 < n) {ds : List Char} (digits : ∀ d ∈ ds, isDigit d) :
    Nat.toDigits 10 (ds.foldl (fun n c => 10 * n + (c.toNat - '0'.toNat)) n) = Nat.toDigits 10 n ++ ds := by
  induction ds generalizing n with
  | nil => simp
  | cons d ds ih =>
    obtain ⟨small, same⟩ := digitChar_of_isDigit (digits d (by simp))
    have next : Nat.toDigits 10 (10 * n + (d.toNat - '0'.toNat)) = Nat.toDigits 10 n ++ [d] := by
      rw [← Nat.toDigits_append_toDigits (by decide) positive small, Nat.toDigits_of_lt_base small, same]
    rw [List.foldl_cons, ih (by omega) fun e member => digits e (List.mem_cons_of_mem d member), next]
    simp

theorem toDigits_digitsValue {ds : List Char} (whole : IsWhole ds) : Nat.toDigits 10 (digitsValue ds) = ds := by
  rcases whole with rfl | ⟨nonempty, notZero, digits⟩
  · rfl
  · obtain ⟨d, ds, rfl⟩ := List.exists_cons_of_ne_nil nonempty
    obtain ⟨small, same⟩ := digitChar_of_isDigit (digits d (by simp))
    have positive : 0 < d.toNat - '0'.toNat := by
      refine Nat.pos_of_ne_zero fun zero => notZero ?_
      rw [zero] at same
      simp [← same]
    have rest : ∀ e ∈ ds, isDigit e := fun e member => digits e (List.mem_cons_of_mem d member)
    rw [digitsValue, List.foldl_cons, Nat.mul_zero, Nat.zero_add, toDigits_foldl positive rest,
      Nat.toDigits_of_lt_base small, same]
    rfl

theorem Writes.eq_toString {n : Numeral} {text : List Char} (writes : n.Writes text) (plain : n.isPlain)
    (notMinusZero : n.isMinusZero = false) : text = (toString n.toInt).toList := by
  obtain @⟨fraction, exponent, whole, hasFraction, hasExponent⟩ := writes
  obtain ⟨empty, absent⟩ := isPlain_iff.mp plain
  rw [empty] at hasFraction
  rw [absent] at hasExponent
  obtain rfl : [] = fraction := hasFraction.text_eq
  cases hasExponent
  have digits := toDigits_digitsValue whole
  rw [toList_toString_int]
  by_cases negative : n.negative
  · have positive : 0 < digitsValue n.whole := by
      refine Nat.pos_of_ne_zero fun zero => ?_
      rw [zero] at digits
      simp [isMinusZero, negative, plain, ← digits] at notMinusZero
    have below : n.toInt < 0 := by
      simp only [toInt, negative, if_true]
      omega
    have magnitude : n.toInt.natAbs = digitsValue n.whole := by simp [toInt, negative]
    simp [signText, negative, below, magnitude, digits]
  · have above : ¬ n.toInt < 0 := by
      simp only [toInt, negative, Bool.false_eq_true, if_false]
      omega
    have magnitude : n.toInt.natAbs = digitsValue n.whole := by simp [toInt, negative]
    simp [signText, negative, above, magnitude, digits]

end Numeral

end JsonPath
