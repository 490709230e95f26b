import JsonPath.Proofs.Pattern.Compiled
import JsonPath.Proofs.Pattern.Digits

namespace JsonPath

namespace Pattern

theorem compile_log_length {options : Options} {source : String} {p? : Option Pattern}
    {log : List LogEntry} (compiled : compile options source = .ok (p?, log)) : log.length ≤ 1 := by
  unfold compile at compiled
  split at compiled
  · contradiction
  · split at compiled
    · contradiction
    · cases compiled
      exact Nat.le_refl 1
    · split at compiled
      · contradiction
      · split at compiled
        · cases compiled
          exact Nat.le_refl 1
        · cases compiled
          exact Nat.zero_le 1

end Pattern

namespace Matcher

structure Request where
  source : String
  text : String
  anchored : Bool

structure Served where
  request : Request
  outcome : Except MatchFailure Bool
  log : List LogEntry

def logged (source : String) (served : List Served) : List LogEntry :=
  (served.filter (·.request.source = source)).flatMap (·.log)

theorem logged_cons (source : String) (s : Served) (served : List Served) :
    logged source (s :: served) =
      (if s.request.source = source then s.log else []) ++ logged source served := by
  by_cases same : s.request.source = source <;> simp [logged, same]

section

variable (engine : Engine) (options : Options)

def serve (m : Matcher) (r : Request) : Served × Matcher :=
  let (outcome, log, m') := m.runWith engine options r.source r.text r.anchored
  (⟨r, outcome, log⟩, m')

def serveAll (m : Matcher) : List Request → List Served × Matcher
  | [] => ([], m)
  | r :: rs =>
    let (s, m') := m.serve engine options r
    let (served, m'') := m'.serveAll rs
    (s :: served, m'')

/-- What comes of a request to a new matcher. -/
def servedAlone (r : Request) : Except MatchFailure Bool :=
  (({} : Matcher).serve engine options r).1.outcome

def compiledAlone (source : String) : Except MatchFailure (Option Pattern) :=
  (({} : Matcher).pattern options source).map (·.1)

theorem compiledAlone_eq (source : String) :
    compiledAlone options source = (Pattern.compile options source).map (·.1) := by
  unfold compiledAlone pattern
  rw [List.lookup_nil]
  cases Pattern.compile options source <;> rfl

theorem serve_request (m : Matcher) (r : Request) : (m.serve engine options r).1.request = r := rfl

theorem serve_outcome (m : Matcher) (r : Request) : (m.serve engine options r).1.outcome =
    ((m.pattern options r.source).map (·.1)).bind
      fun p? => test engine options p? r.text r.anchored := by
  simp only [serve, runWith]
  cases m.pattern options r.source <;> rfl

end

section

variable {engine : Engine} {options : Options} {m : Matcher}

theorem serve_cases (r : Request) :
    ((m.serve engine options r).1.log = [] ∧ (m.serve engine options r).2 = m) ∨
    ∃ p?, m.compiled.lookup r.source = none ∧
      Pattern.compile options r.source = .ok (p?, (m.serve engine options r).1.log) ∧
      (m.serve engine options r).2 = ⟨(r.source, p?) :: m.compiled⟩ := by
  simp only [serve, runWith]
  rcases run : m.pattern options r.source with e | ⟨p?, log, m'⟩
  · exact .inl ⟨rfl, rfl⟩
  · rcases pattern_eq_ok_iff.mp run with ⟨-, rfl, rfl⟩ | ⟨new, compiled, rfl⟩
    · exact .inl ⟨rfl, rfl⟩
    · exact .inr ⟨p?, new, compiled, rfl⟩

theorem CompiledUnder.map_pattern (kept : m.CompiledUnder options) (source : String) :
    (m.pattern options source).map (·.1) = compiledAlone options source := by
  rw [compiledAlone_eq]
  cases run : m.pattern options source with
  | error e =>
    rw [(pattern_eq_error_iff.mp run).2]
    rfl
  | ok r =>
    obtain ⟨p?, log, m'⟩ := r
    obtain ⟨-, log', compiled⟩ := kept.pattern run
    rw [compiled]
    rfl

theorem CompiledUnder.serve (kept : m.CompiledUnder options) (r : Request) :
    (m.serve engine options r).2.CompiledUnder options := by
  rcases serve_cases r with ⟨-, same⟩ | ⟨p?, new, compiled, added⟩
  · rwa [same]
  · have run := pattern_eq_ok_iff.mpr (.inr ⟨new, compiled, rfl⟩)
    rw [added]
    exact (kept.pattern run).1

theorem CompiledUnder.serve_outcome (kept : m.CompiledUnder options) (r : Request) :
    (m.serve engine options r).1.outcome = servedAlone engine options r := by
  rw [servedAlone, Matcher.serve_outcome, Matcher.serve_outcome, kept.map_pattern r.source]
  rfl

theorem CompiledUnder.serveAll (kept : m.CompiledUnder options) (requests : List Request) :
    (m.serveAll engine options requests).2.CompiledUnder options := by
  induction requests generalizing m with
  | nil => exact kept
  | cons r rs ih => exact ih (kept.serve r)

theorem CompiledUnder.serveAll_outcomes (kept : m.CompiledUnder options) (requests : List Request) :
    (m.serveAll engine options requests).1.map (fun s => (s.request, s.outcome)) =
      requests.map fun r => (r, servedAlone engine options r) := by
  induction requests generalizing m with
  | nil => rfl
  | cons r rs ih =>
    simp only [Matcher.serveAll, List.map_cons, serve_request, kept.serve_outcome r]
    exact congrArg _ (ih (kept.serve r))

theorem CompiledUnder.outcome_of_mem (kept : m.CompiledUnder options) {requests : List Request}
    {s : Served} (member : s ∈ (m.serveAll engine options requests).1) :
    s.outcome = servedAlone engine options s.request := by
  have alone : (s.request, s.outcome) ∈ requests.map fun r => (r, servedAlone engine options r) := by
    rw [← kept.serveAll_outcomes]
    exact List.mem_map_of_mem member
  obtain ⟨r, -, same⟩ := List.mem_map.mp alone
  obtain ⟨rfl, answer⟩ := Prod.mk.inj same
  exact answer.symm

theorem CompiledUnder.compiledAlone (kept : m.CompiledUnder options) {source : String}
    {p? : Option Pattern} (found : m.compiled.lookup source = some p?) :
    compiledAlone options source = .ok p? := by
  obtain ⟨log, compiled⟩ := kept source p? found
  rw [compiledAlone_eq, compiled]
  rfl

def logsLeft (m : Matcher) (source : String) : Nat :=
  if (m.compiled.lookup source).isSome then 0 else 1

theorem serve_log_length (r : Request) (source : String) :
    (if r.source = source then (m.serve engine options r).1.log else []).length +
      (m.serve engine options r).2.logsLeft source ≤ m.logsLeft source := by
  rcases serve_cases r with ⟨silent, same⟩ | ⟨p?, new, compiled, added⟩
  · rw [silent, same, ite_self]
    exact Nat.le_of_eq (Nat.zero_add _)
  · rw [added]
    by_cases wanted : r.source = source
    · subst wanted
      have once : (m.serve engine options r).1.log.length ≤ 1 := Pattern.compile_log_length compiled
      simp only [logsLeft, new, if_true, List.lookup_cons_self, Option.isSome_some, Option.isSome_none]
      exact once
    · have other : (source == r.source) = false := beq_eq_false_iff_ne.mpr (Ne.symm wanted)
      simp only [logsLeft, wanted, if_false, List.lookup_cons, other, List.length_nil, Nat.zero_add,
        Nat.le_refl]

theorem serveAll_log_length (requests : List Request) (source : String) :
    (logged source (m.serveAll engine options requests).1).length ≤ m.logsLeft source := by
  -- The one entry that a matcher has left for a pattern is spent by the request that keeps it.
  induction requests generalizing m with
  | nil => exact Nat.zero_le _
  | cons r rs ih =>
    rw [Matcher.serveAll, logged_cons, List.length_append]
    exact Nat.le_trans (Nat.add_le_add_left ih _) (serve_log_length r source)

end

theorem servedAlone_cases {options : Options} (few : options.maxPatternLength ≤ maxIntegerDigits)
    (engine : Engine) (r : Request) : (∃ b, servedAlone engine options r = .ok b) ∨
      ∃ x, servedAlone engine options r = .error (.excess x) := by
  cases run : servedAlone engine options r with
  | ok b => exact .inl ⟨b, rfl⟩
  | error e =>
    obtain ⟨x, rfl⟩ := runWith_error few run
    exact .inr ⟨x, rfl⟩

/-- What a sequence of requests shows of a matcher. -/
structure CacheInvisible (engine : Engine) (options : Options) (requests : List Request) : Prop where
  outcomes : (serveAll engine options {} requests).1.map (fun s => (s.request, s.outcome)) =
    requests.map fun r => (r, servedAlone engine options r)
  answered : ∀ s ∈ (serveAll engine options {} requests).1,
    (∃ b, s.outcome = .ok b) ∨ ∃ x, s.outcome = .error (.excess x)
  kept : ∀ begun, begun <+: requests → ∀ source p?,
    (serveAll engine options {} begun).2.compiled.lookup source = some p? →
      compiledAlone options source = .ok p?
  refused : ∀ begun, begun <+: requests → ∀ source e, compiledAlone options source = .error e →
    (serveAll engine options {} begun).2.compiled.lookup source = none
  loggedOnce : ∀ source, (logged source (serveAll engine options {} requests).1).length ≤ 1

theorem cache_invisible {options : Options} (few : options.maxPatternLength ≤ maxIntegerDigits)
    (engine : Engine) (requests : List Request) : CacheInvisible engine options requests where
  outcomes := (compiledUnder_empty options).serveAll_outcomes requests
  answered s member := by
    rw [(compiledUnder_empty options).outcome_of_mem member]
    exact servedAlone_cases few engine s.request
  kept begun _ source p? found :=
    ((compiledUnder_empty options).serveAll begun).compiledAlone found
  refused begun _ source e failed := by
    cases found : (serveAll engine options {} begun).2.compiled.lookup source with
    | none => rfl
    | some p? =>
      rw [((compiledUnder_empty options).serveAll begun).compiledAlone found] at failed
      contradiction
  loggedOnce source := serveAll_log_length requests source

/-- A pattern without an end asked for twice, one that is unsafe, and a text that is too long for a
pattern that another text then belongs to. -/
theorem cache_invisible_refusals :
    let options : Options := { maxInputLength := 2 }
    let requests : List Request := [⟨"(", "a", true⟩, ⟨"(a*)*", "a", true⟩, ⟨"(", "b", false⟩,
      ⟨"a", "aaa", false⟩, ⟨"a", "a", true⟩]
    options.maxPatternLength ≤ maxIntegerDigits ∧ CacheInvisible .standard options requests ∧
    (serveAll .standard options {} requests).1.map (·.outcome) = [.ok false,
      .error (.excess (.unsafePattern "(a*)*")), .ok false, .error (.excess (.inputLength 3 2)),
      .ok true] ∧
    (logged "(" (serveAll .standard options {} requests).1).length = 1 := by
  intro options requests
  have few : options.maxPatternLength ≤ maxIntegerDigits := by decide
  exact ⟨few, cache_invisible few .standard requests, by decide +kernel, by decide +kernel⟩

end Matcher

end JsonPath
