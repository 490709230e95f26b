import JsonPath.Proofs.Evaluation.Congruence
import JsonPath.Proofs.Pattern.Compiled

namespace JsonPath

namespace Eval

/-- What a computation returns and how many visits it charges are the same from any other start with no
more nodes visited, or with visits enough left. -/
def Steady (options : Options) {α : Type} (m : Eval α) : Prop :=
  ∀ p a p', p.matcher.CompiledUnder options → m p = .ok a p' →
    p'.matcher.CompiledUnder options ∧ ∃ cost, p'.visited = p.visited + cost ∧
      ∀ q : Progress, q.matcher.CompiledUnder options →
        q.visited ≤ p.visited ∨ (q.visited + cost : Nat) ≤ options.maxNodesVisited →
        ∃ q', m q = .ok a q' ∧ q'.visited = q.visited + cost

namespace Steady

variable {options : Options} {α β : Type}

theorem of_unchanged {m : Eval α} (same : ∀ p a p', m p = .ok a p' → p' = p)
    (anywhere : ∀ p a p' q, m p = .ok a p' → m q = .ok a q) : Steady options m := by
  intro p a p' kept run
  have left := same p a p' run
  subst left
  exact ⟨kept, 0, rfl, fun q _ _ => ⟨q, anywhere _ a _ q run, rfl⟩⟩

theorem pure (a : α) : Steady options (Pure.pure a) := by
  apply of_unchanged
  · intro p b p' run
    cases run
    rfl
  · intro p b p' q run
    cases run
    rfl

theorem bind {m : Eval α} {f : α → Eval β} (first : Steady options m)
    (next : ∀ a, Steady options (f a)) : Steady options (m >>= f) := by
  intro p b p' kept run
  obtain ⟨a, middle, here, rest⟩ := EStateM.bind_eq_ok.mp run
  obtain ⟨kept', cost, charged, again⟩ := first p a middle kept here
  obtain ⟨kept'', cost', charged', again'⟩ := next a middle b p' kept' rest
  refine ⟨kept'', cost + cost', by omega, fun q keptThere affordable => ?_⟩
  obtain ⟨q', there, spent⟩ := again q keptThere (by omega)
  have kept := (first q a q' keptThere there).1
  obtain ⟨q'', there', spent'⟩ := again' q' kept (by omega)
  exact ⟨q'', EStateM.bind_eq_ok.mpr ⟨a, q', there, there'⟩, by omega⟩

theorem visit (count : Nat) : Steady options (Eval.visit options count) := by
  intro p u p' kept run
  obtain ⟨small, rfl⟩ := visit_eq_ok.mp run
  refine ⟨kept, count, rfl, fun q _ affordable => ?_⟩
  exact ⟨_, visit_eq_ok.mpr ⟨by omega, rfl⟩, rfl⟩

theorem runPattern (source text : String) (anchored : Bool) :
    Steady options (Eval.runPattern options source text anchored) := by
  intro p b p' kept run
  obtain ⟨p?, log, m, found, tested, rfl⟩ := runPattern_eq_ok.mp run
  obtain ⟨kept', log', compiled⟩ := kept.pattern found
  refine ⟨kept', 0, rfl, fun q keptThere _ => ?_⟩
  obtain ⟨log'', m', there⟩ := keptThere.exists_pattern compiled
  exact ⟨_, runPattern_eq_ok.mpr ⟨p?, log'', m', there, tested, rfl⟩, rfl⟩

theorem congruence (options : Options) : Congruence options options fun m _ => Steady options m where
  pure := pure
  throw e := by
    intro p a p' _ run
    contradiction
  bind := bind
  visit := visit
  checkDepth depth := by
    apply of_unchanged
    · intro p u p' run
      exact (checkDepth_eq_ok.mp run).2.symm
    · intro p u p' q run
      exact checkDepth_eq_ok.mpr ⟨(checkDepth_eq_ok.mp run).1, rfl⟩
  runPattern := runPattern

end Steady

def Spends (options : Options) {α : Type} (start : Nat) (m : Eval α) (a : α) (cost : Nat) : Prop :=
  ∃ p p', p.matcher.CompiledUnder options ∧ p.visited = start ∧ m p = .ok a p' ∧
    p'.visited = start + cost

namespace Spends

variable {options : Options} {α β : Type} {m : Eval α} {a : α} {start cost : Nat}

theorem run (spends : Spends options start m a cost) (steady : Steady options m) {q : Progress}
    (kept : q.matcher.CompiledUnder options)
    (affordable : q.visited ≤ start ∨ (q.visited + cost : Nat) ≤ options.maxNodesVisited) :
    ∃ q', m q = .ok a q' ∧ q'.visited = q.visited + cost := by
  obtain ⟨p, p', keptThere, rfl, there, spent⟩ := spends
  obtain ⟨-, cost', charged, again⟩ := steady p a p' keptThere there
  obtain rfl : cost = cost' := by omega
  exact again q kept affordable

theorem from_start (spends : Spends options start m a cost) (steady : Steady options m) {start' : Nat}
    (affordable : start' ≤ start ∨ (start' + cost : Nat) ≤ options.maxNodesVisited) :
    Spends options start' m a cost := by
  have kept : Matcher.CompiledUnder options {} := Matcher.compiledUnder_empty options
  have again : ∃ q', m { visited := start' } = .ok a q' ∧ q'.visited = start' + cost :=
    spends.run steady kept affordable
  obtain ⟨q', there, spent⟩ := again
  exact ⟨{ visited := start' }, q', kept, rfl, there, spent⟩

theorem of_run (steady : Steady options m) {p p' : Progress} (kept : p.matcher.CompiledUnder options)
    (run : m p = .ok a p') :
    ∃ cost, Spends options p.visited m a cost ∧ p'.visited = p.visited + cost := by
  obtain ⟨-, cost, charged, -⟩ := steady p a p' kept run
  exact ⟨cost, ⟨p, p', kept, rfl, run, charged⟩, charged⟩

theorem pure_iff {b : α} : Spends options start (Pure.pure a) b cost ↔ a = b ∧ cost = 0 := by
  constructor
  · rintro ⟨p, p', -, rfl, run, spent⟩
    cases run
    exact ⟨rfl, by omega⟩
  · rintro ⟨rfl, rfl⟩
    exact ⟨{ visited := start }, _, Matcher.compiledUnder_empty options, rfl, rfl, rfl⟩

variable {f : α → Eval β} {b : β}

theorem of_bind (steady : Steady options m) (steady' : ∀ a, Steady options (f a))
    (spends : Spends options start (m >>= f) b cost) :
    ∃ a c c', Spends options start m a c ∧ Spends options (start + c) (f a) b c' ∧ c + c' = cost := by
  obtain ⟨p, p', kept, rfl, run, spent⟩ := spends
  obtain ⟨a, middle, first, rest⟩ := EStateM.bind_eq_ok.mp run
  obtain ⟨c, here, charged⟩ := of_run steady kept first
  obtain ⟨c', there, charged'⟩ := of_run (steady' a) (steady p a middle kept first).1 rest
  rw [charged] at there
  exact ⟨a, c, c', here, there, by omega⟩

theorem bind (steady : Steady options m) (steady' : ∀ a, Steady options (f a)) {start' cost' : Nat}
    (first : Spends options start m a cost) (next : Spends options start' (f a) b cost')
    (later : start + cost ≤ start') : Spends options start (m >>= f) b (cost + cost') := by
  obtain ⟨p, middle, kept, rfl, here, spent⟩ := first
  have kept' := (steady p a middle kept here).1
  obtain ⟨p', rest, spent'⟩ := next.run (steady' a) kept' (.inl (by omega))
  exact ⟨p, p', kept, rfl, EStateM.bind_eq_ok.mpr ⟨a, middle, here, rest⟩, by omega⟩

end Spends

end Eval

end JsonPath
