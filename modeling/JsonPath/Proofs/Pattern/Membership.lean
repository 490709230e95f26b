import JsonPath.Proofs.Pattern.Acceptance
import JsonPath.Proofs.Pattern.Compiled
import JsonPath.Proofs.Pattern.Match

namespace JsonPath

namespace Quantifier

def SmallBounds (q : Quantifier) : Prop := q.low < tooBig ∧ ∀ high ∈ q.high?, high < tooBig

theorem isTooBig_eq_false_iff {q : Quantifier} : q.isTooBig = false ↔ q.SmallBounds := by
  unfold isTooBig SmallBounds
  cases q.high? <;> simp

end Quantifier

namespace Pattern

def SmallBounds : Pattern → Prop := Each (fun _ _ => True) Quantifier.SmallBounds

theorem tooBig?_eq_none_iff {p : Pattern} : p.tooBig? = none ↔ p.SmallBounds := by
  unfold SmallBounds
  induction p with
  | group p ih => rw [tooBig?, Option.map_eq_none_iff, ih, Each]
  | quantified p q ih =>
    rw [tooBig?, Option.orElse_eq_orElse, Option.orElse_eq_or, Option.or_eq_none_iff, ih, Each,
      ← Quantifier.isTooBig_eq_false_iff]
    simp
  | sequence p ps ih ih' =>
    rw [tooBig?, Option.orElse_eq_orElse, Option.orElse_eq_or, Option.or_eq_none_iff, ih,
      Option.map_eq_none_iff, ih', Each]
  | alternatives p ps ih ih' =>
    rw [tooBig?, Option.orElse_eq_orElse, Option.orElse_eq_or, Option.or_eq_none_iff, ih,
      Option.map_eq_none_iff, ih', Each]
  | _ => exact iff_of_true rfl trivial

theorem compileFreely_of_read {source : String} {p : Pattern} (run : read source = .ok p)
    (small : p.SmallBounds) : compileFreely source = .ok (some p, []) := by
  unfold compileFreely compile
  rw [if_neg (by simp), run]
  simp only [Bool.and_false, Bool.false_eq_true, if_false, tooBig?_eq_none_iff.mpr small]

end Pattern

namespace Matcher

variable {engine : Engine} {options : Options}

/-- The matchers that an evaluation comes to, one match after the other. -/
inductive Reached (engine : Engine) (options : Options) : Matcher → Prop
  | start : Reached engine options {}
  | run {m : Matcher} (reached : Reached engine options m) (source text : String) (anchored : Bool) :
    Reached engine options (m.runWith engine options source text anchored).2.2

theorem Sound.runWith {m : Matcher} (sound : m.Sound) (source text : String) (anchored : Bool) :
    (m.runWith engine options source text anchored).2.2.Sound := by
  unfold Matcher.runWith
  split
  · exact sound
  · next compiled => exact (sound.pattern compiled).1

theorem Reached.sound {m : Matcher} (reached : Reached engine options m) : m.Sound := by
  induction reached with
  | start => exact sound_empty
  | run _ source text anchored ih => exact ih.runWith source text anchored

theorem Sound.pattern_of_compileFreely {m : Matcher} {source : String} {p : Pattern} (sound : m.Sound)
    (freely : Pattern.compileFreely source = .ok (some p, []))
    (length : source.length ≤ options.maxPatternLength) (admitted : options.rejectUnsafePatterns = false) :
    ∃ m', m.pattern options source = .ok (some p, [], m') := by
  cases kept : m.compiled.lookup source with
  | some p? =>
    obtain ⟨log, freely'⟩ := sound source p? kept
    rw [freely] at freely'
    cases freely'
    exact ⟨m, pattern_eq_ok_iff.mpr (.inl ⟨kept, rfl, rfl⟩)⟩
  | none =>
    have compiled := Pattern.compile_eq_ok_iff.mpr ⟨length, fun _ _ _ => admitted, freely⟩
    exact ⟨_, pattern_eq_ok_iff.mpr (.inr ⟨kept, compiled, rfl⟩)⟩

theorem Sound.runWith_eq_found {m : Matcher} {source text : String} {p : Pattern} (sound : m.Sound)
    (run : Pattern.read source = .ok p) (small : p.SmallBounds)
    (length : source.length ≤ options.maxPatternLength) (admitted : options.rejectUnsafePatterns = false)
    (inputLength : text.length ≤ options.maxInputLength) (anchored : Bool) :
    (m.runWith engine options source text anchored).1 = .ok (found engine (some p) text anchored) := by
  have freely := Pattern.compileFreely_of_read run small
  obtain ⟨m', compiled⟩ := sound.pattern_of_compileFreely freely length admitted
  rw [Matcher.runWith, compiled]
  show test engine options (some p) text anchored = _
  exact test_eq_ok_iff.mpr ⟨fun _ => inputLength, rfl⟩

section

variable {p : Pattern} {s : List Char} (decides : engine.Decides p)
  (derived : Pattern.Derives .regexp p s) (ordered : p.InOrder)

include decides derived ordered

theorem found_whole_iff (text : String) :
    found engine (some p) text true ↔ text.toList ∈ p.language := by
  rw [← Pattern.regex_language]
  exact decides.whole (derived.read_text ordered) text.toList

theorem found_part_iff (text : String) :
    found engine (some p) text false ↔ ∃ part, part <:+: text.toList ∧ part ∈ p.language := by
  rw [← Pattern.regex_language]
  exact decides.part (derived.read_text ordered) text.toList

end

section

open Pattern

variable {m : Matcher} {source : String} {p : Pattern}
  (derived : Derives .regexp p source.toList) (ordered : p.InOrder) (carets : p.CaretsNegate)
  (small : p.SmallBounds) (short : ∀ ds, BoundRun source.toList ds → ds.length ≤ maxIntegerDigits)
  (length : source.length ≤ options.maxPatternLength) (admitted : options.rejectUnsafePatterns = false)

include derived ordered carets small short length admitted

/-- Where the engine finds what the text handed to it denotes, matching decides the language of the
pattern: anchored for the whole text, and otherwise for some part of it. -/
theorem runWith_iff_mem_language (reached : Reached engine options m) (decides : engine.Decides p)
    {text : String} (inputLength : text.length ≤ options.maxInputLength) :
    (∃ b, (m.runWith engine options source text true).1 = .ok b ∧ (b ↔ text.toList ∈ p.language)) ∧
    ∃ b, (m.runWith engine options source text false).1 = .ok b ∧
      (b ↔ ∃ part, part <:+: text.toList ∧ part ∈ p.language) := by
  have run := (read_eq_ok_iff short).mpr ⟨derived, ordered, carets⟩
  have answer (anchored : Bool) :
      (m.runWith engine options source text anchored).1 = .ok (found engine (some p) text anchored) :=
    reached.sound.runWith_eq_found run small length admitted inputLength anchored
  constructor
  · exact ⟨_, answer true, found_whole_iff decides derived ordered text⟩
  · exact ⟨_, answer false, found_part_iff decides derived ordered text⟩

end

/-- Two or three characters that are none of the last three letters. -/
theorem runWith_iff_mem_language_class :
    let source := "[^x-z]\x7b2,3\x7d"
    let p : Pattern := .quantified (.set true [.range 'x' false 'z' false]) (.between 2 3)
    let options : Options := { rejectUnsafePatterns := false }
    let m := (({} : Matcher).runWith .standard options source "y" false).2.2
    Pattern.Derives .regexp p source.toList ∧ p.InOrder ∧ p.CaretsNegate ∧ p.SmallBounds ∧
    (∀ ds, Pattern.BoundRun source.toList ds → ds.length ≤ maxIntegerDigits) ∧
    source.length ≤ options.maxPatternLength ∧ options.rejectUnsafePatterns = false ∧
    Reached .standard options m ∧ Engine.standard.Decides p ∧ "aby".length ≤ options.maxInputLength ∧
    (∃ b, (m.runWith .standard options source "aby" true).1 = .ok b ∧ (b ↔ "aby".toList ∈ p.language)) ∧
    ∃ b, (m.runWith .standard options source "aby" false).1 = .ok b ∧
      (b ↔ ∃ part, part <:+: "aby".toList ∧ part ∈ p.language) := by
  intro source p options m
  have derived : Pattern.Derives .regexp p source.toList := by
    have plain (c : Char) (allowed : 0x5E ≤ c.toNat) : Pattern.ClassChar c false [c] :=
      .plain (.inr (.inr allowed))
    have body : Pattern.ClassBody [.range 'x' false 'z' false] ['x', '-', 'z'] :=
      .member (.range (plain 'x' (by decide)) (plain 'z' (by decide))) .none
    have low : Pattern.Digits 2 ['2'] := ⟨List.cons_ne_nil _ _, List.forall_mem_singleton.mpr rfl, rfl⟩
    have high : Pattern.Digits 3 ['3'] := ⟨List.cons_ne_nil _ _, List.forall_mem_singleton.mpr rfl, rfl⟩
    have piece := Pattern.Derives.quantified (.complement body) (.between low high)
    rw [show source.toList = _ from String.toList_ofList]
    exact .lastBranch (.somePieces (.lastPiece piece))
  have ordered : p.InOrder := by
    simp [p, Pattern.InOrder, Pattern.Each, ClassItem.InOrder, Quantifier.InOrder]
  have carets : p.CaretsNegate := by
    simp [p, Pattern.CaretsNegate, Pattern.Each]
  have small : p.SmallBounds := by
    simp [p, Pattern.SmallBounds, Pattern.Each, Quantifier.SmallBounds, Quantifier.low, Quantifier.high?,
      Quantifier.tooBig]
  have short : ∀ ds, Pattern.BoundRun source.toList ds → ds.length ≤ maxIntegerDigits :=
    fun ds run => run.length_le.trans (by decide)
  have length : source.length ≤ options.maxPatternLength := by decide
  have reached : Reached .standard options m := .run .start source "y" false
  have plain : p.Plain 'x' := by
    refine ⟨fun _ => ⟨by decide, ?_⟩, trivial⟩
    intro item only e same
    cases only
    cases same
  have decides : Engine.standard.Decides p := Pattern.standard_decides derived ordered plain
  have inputLength : "aby".length ≤ options.maxInputLength := by decide
  exact ⟨derived, ordered, carets, small, short, length, rfl, reached, decides, inputLength,
    runWith_iff_mem_language derived ordered carets small short length rfl reached decides inputLength⟩

theorem runWith_of_integerTooLong {m : Matcher} {source : String} {digits : Nat}
    (fresh : m.compiled.lookup source = none) (length : source.length ≤ options.maxPatternLength)
    (refused : Pattern.read source = .error (.integerTooLong digits)) (text : String) (anchored : Bool) :
    (m.runWith engine options source text anchored).1 = .error (.integerTooLong digits) := by
  have short : ¬ (source.length : Int) > options.maxPatternLength := not_lt_of_ge length
  unfold runWith Matcher.pattern Pattern.compile
  rw [fresh, if_neg short, refused]
  rfl

/-- The grammar derives `[^]` as the class of a circumflex, but nothing matches it. A bound of too many
digits is refused, although the bound is zero. -/
theorem runWith_lone_caret :
    let options : Options := { maxPatternLength := 5000, rejectUnsafePatterns := false }
    let zeros := String.ofList ('a' :: '\x7b' :: (List.replicate 4301 '0' ++ ['\x7d']))
    (∃ p, Pattern.Derives .regexp p "[^]".toList ∧ p.InOrder ∧ p.SmallBounds ∧ "^".toList ∈ p.language ∧
      ∀ engine, (({} : Matcher).runWith engine options "[^]" "^" true).1 = .ok false) ∧
    ∃ p, Pattern.Derives .regexp p zeros.toList ∧ p.InOrder ∧ p.SmallBounds ∧ "".toList ∈ p.language ∧
      ∀ engine, (({} : Matcher).runWith engine options zeros "" true).1 = .error (.integerTooLong 4301) := by
  intro options zeros
  constructor
  · have caret : Pattern.IsClassChar '^' := .inr (.inr (by decide))
    have body : Pattern.ClassBody [.char '^' false] ['^'] := .member (.char (.plain caret)) .none
    refine ⟨.set false [.char '^' false], ?_, ?_, trivial, ?_, fun engine => ?_⟩
    · exact .lastBranch (.somePieces (.lastPiece (.unquantified (.set body))))
    · simp [Pattern.InOrder, Pattern.Each, ClassItem.InOrder]
    · exact ⟨'^', ⟨_, List.mem_cons_self, rfl⟩, rfl⟩
    · rfl
  · have count : Pattern.Digits 0 (List.replicate 4301 '0') := by
      refine ⟨List.replicate_succ_ne_nil, ?_, by decide +kernel⟩
      intro d member
      rw [List.eq_of_mem_replicate member]
      decide
    refine ⟨.quantified (.char 'a' false) (.exactly 0), ?_, ?_, ?_, ?_, fun engine => ?_⟩
    · have letter : Pattern.IsNormalChar 'a' := Pattern.isNormalChar_iff.mpr (by decide)
      have piece := Pattern.Derives.quantified (.char letter) (.exactly count)
      rw [show zeros.toList = _ from String.toList_ofList]
      exact .lastBranch (.somePieces (.lastPiece piece))
    · simp [Pattern.InOrder, Pattern.Each, Quantifier.InOrder]
    · simp [Pattern.SmallBounds, Pattern.Each, Quantifier.SmallBounds, Quantifier.low, Quantifier.high?,
        Quantifier.tooBig]
    · exact ⟨0, Nat.le_refl 0, fun _ _ => Nat.zero_le _, rfl⟩
    · have refused : Pattern.read zeros = .error (.integerTooLong 4301) := by
        rw [Pattern.read, Cursor.ofString, String.toList_ofList]
        decide +kernel
      have length : (zeros.length : Int) ≤ options.maxPatternLength := by
        rw [String.length_ofList]
        decide +kernel
      exact runWith_of_integerTooLong rfl length refused "" true

end Matcher

end JsonPath
