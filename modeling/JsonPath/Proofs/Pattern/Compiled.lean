import JsonPath.Pattern.Matcher
import JsonPath.Proofs.Outcome

namespace JsonPath

namespace Pattern

/-- What a text compiles to where no limit refuses it. -/
def compileFreely (source : String) : Except MatchFailure (Option Pattern × List LogEntry) :=
  compile { maxPatternLength := source.length, rejectUnsafePatterns := false } source

theorem compile_eq_ok_iff {options : Options} {source : String}
    {r : Option Pattern × List LogEntry} : compile options source = .ok r ↔
      source.length ≤ options.maxPatternLength ∧
      (∀ p, read source = .ok p → p.isUnsafe → options.rejectUnsafePatterns = false) ∧
      compileFreely source = .ok r := by
  unfold compileFreely compile
  rw [if_neg (by simp : ¬ (source.length : Int) > (source.length : Int))]
  by_cases long : source.length > options.maxPatternLength
  · rw [if_pos long]
    have tooLong : ¬ (source.length : Int) ≤ options.maxPatternLength := by omega
    simp [tooLong]
  · rw [if_neg long]
    have short : (source.length : Int) ≤ options.maxPatternLength := by omega
    cases found : read source with
    | error e =>
      cases e <;> simp [short]
    | ok p =>
      by_cases refused : p.isUnsafe ∧ options.rejectUnsafePatterns
      · simp [refused]
      · have admitted : p.isUnsafe → options.rejectUnsafePatterns = false := by simpa using refused
        have kept : (p.isUnsafe && options.rejectUnsafePatterns) = false := by simpa using refused
        simp only [kept, short, Bool.and_false, Bool.false_eq_true, if_false, true_and,
          Except.ok.injEq, forall_eq']
        exact ⟨fun compiled => ⟨admitted, compiled⟩, fun both => both.2⟩

end Pattern

namespace Matcher

theorem pattern_eq_ok_iff {m m' : Matcher} {options : Options} {source : String}
    {p? : Option Pattern} {log : List LogEntry} :
    m.pattern options source = .ok (p?, log, m') ↔
      (m.compiled.lookup source = some p? ∧ log = [] ∧ m' = m) ∨
      (m.compiled.lookup source = none ∧ Pattern.compile options source = .ok (p?, log) ∧
        m' = ⟨(source, p?) :: m.compiled⟩) := by
  unfold pattern
  cases m.compiled.lookup source with
  | some q? => simp [eq_comm]
  | none =>
    cases Pattern.compile options source with
    | error e => simp [bind, Except.bind]
    | ok r =>
      obtain ⟨q?, entries⟩ := r
      simp only [bind, Except.bind, pure, Except.pure, Except.ok.injEq, Prod.mk.injEq]
      constructor
      · rintro ⟨rfl, rfl, rfl⟩
        exact .inr ⟨trivial, ⟨rfl, rfl⟩, rfl⟩
      · rintro (⟨found, -⟩ | ⟨-, ⟨rfl, rfl⟩, rfl⟩)
        · contradiction
        · exact ⟨rfl, rfl, rfl⟩

theorem pattern_eq_error_iff {m : Matcher} {options : Options} {source : String} {e : MatchFailure} :
    m.pattern options source = .error e ↔
      m.compiled.lookup source = none ∧ Pattern.compile options source = .error e := by
  unfold pattern
  cases m.compiled.lookup source with
  | some q? => simp
  | none => cases Pattern.compile options source <;> simp [bind, Except.bind, pure, Except.pure]

theorem pattern_keeps {P : String → Option Pattern → Prop} {m m' : Matcher} {options : Options}
    {source : String} {p? : Option Pattern} {log : List LogEntry}
    (kept : ∀ source p?, m.compiled.lookup source = some p? → P source p?)
    (compiles : ∀ source p? log, Pattern.compile options source = .ok (p?, log) → P source p?)
    (run : m.pattern options source = .ok (p?, log, m')) :
    (∀ source p?, m'.compiled.lookup source = some p? → P source p?) ∧ P source p? := by
  rcases pattern_eq_ok_iff.mp run with ⟨found, -, rfl⟩ | ⟨-, compiled, rfl⟩
  · exact ⟨kept, kept source p? found⟩
  · have holds : P source p? := compiles source p? log compiled
    refine ⟨fun source' q? found => ?_, holds⟩
    rw [List.lookup_cons] at found
    by_cases same : source' = source
    · subst same
      rw [beq_self_eq_true] at found
      cases found
      exact holds
    · rw [beq_eq_false_iff_ne.mpr same] at found
      exact kept source' q? found

/-- Whatever is kept is what its text compiles to. -/
def Sound (m : Matcher) : Prop :=
  ∀ source p?, m.compiled.lookup source = some p? → ∃ log, Pattern.compileFreely source = .ok (p?, log)

theorem sound_empty : ({} : Matcher).Sound := by
  intro source p? kept
  contradiction

theorem Sound.pattern {m m' : Matcher} {options : Options} {source : String} {p? : Option Pattern}
    {log : List LogEntry} (sound : m.Sound) (run : m.pattern options source = .ok (p?, log, m')) :
    m'.Sound ∧ ∃ log, Pattern.compileFreely source = .ok (p?, log) := by
  refine pattern_keeps sound (fun source p? log compiled => ?_) run
  obtain ⟨-, -, freely⟩ := Pattern.compile_eq_ok_iff.mp compiled
  exact ⟨log, freely⟩

def CompiledUnder (options : Options) (m : Matcher) : Prop :=
  ∀ source p?, m.compiled.lookup source = some p? → ∃ log, Pattern.compile options source = .ok (p?, log)

theorem compiledUnder_empty (options : Options) : ({} : Matcher).CompiledUnder options := by
  intro source p? kept
  contradiction

theorem CompiledUnder.pattern {m m' : Matcher} {options : Options} {source : String}
    {p? : Option Pattern} {log : List LogEntry} (kept : m.CompiledUnder options)
    (run : m.pattern options source = .ok (p?, log, m')) :
    m'.CompiledUnder options ∧ ∃ log, Pattern.compile options source = .ok (p?, log) :=
  pattern_keeps kept (fun _ _ log compiled => ⟨log, compiled⟩) run

theorem CompiledUnder.exists_pattern {m : Matcher} {options : Options} {source : String}
    {p? : Option Pattern} {log : List LogEntry} (kept : m.CompiledUnder options)
    (compiled : Pattern.compile options source = .ok (p?, log)) :
    ∃ log m', m.pattern options source = .ok (p?, log, m') := by
  cases found : m.compiled.lookup source with
  | some q? =>
    obtain ⟨log', compiled'⟩ := kept source q? found
    rw [compiled, Except.ok.injEq, Prod.mk.injEq] at compiled'
    obtain ⟨rfl, -⟩ := compiled'
    exact ⟨[], m, pattern_eq_ok_iff.mpr (.inl ⟨found, rfl, rfl⟩)⟩
  | none => exact ⟨log, _, pattern_eq_ok_iff.mpr (.inr ⟨found, compiled, rfl⟩)⟩

def found (engine : Engine) (p? : Option Pattern) (text : String) (anchored : Bool) : Bool :=
  match p? with
  | none => false
  | some p => if anchored then engine.whole p text.toList else engine.part p text.toList

theorem test_eq_ok_iff {engine : Engine} {options : Options} {p? : Option Pattern} {text : String}
    {anchored b : Bool} : test engine options p? text anchored = .ok b ↔
      (p?.isSome → text.length ≤ options.maxInputLength) ∧ found engine p? text anchored = b := by
  unfold test found
  cases p? with
  | none => simp
  | some p =>
    by_cases long : text.length > options.maxInputLength
    · have tooLong : ¬ (text.length : Int) ≤ options.maxInputLength := by omega
      simp [long, tooLong]
    · have short : (text.length : Int) ≤ options.maxInputLength := by omega
      cases anchored <;> simp [long, short]

end Matcher

end JsonPath
