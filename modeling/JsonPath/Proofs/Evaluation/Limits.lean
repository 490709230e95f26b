import JsonPath.Proofs.Evaluation.Congruence
import JsonPath.Proofs.Pattern.Compiled

namespace JsonPath

/-- The second options let an evaluation use up at least as much as the first. -/
structure Options.Within (options options' : Options) : Prop where
  nodesVisited : options.maxNodesVisited ≤ options'.maxNodesVisited
  depth : options.maxDepth ≤ options'.maxDepth
  patternLength : options.maxPatternLength ≤ options'.maxPatternLength
  inputLength : options.maxInputLength ≤ options'.maxInputLength
  unsafePatterns : options'.rejectUnsafePatterns → options.rejectUnsafePatterns

section

variable {options options' : Options} (within : options.Within options')

include within

theorem Matcher.pattern_of_within {m : Matcher} {source : String}
    {r : Option Pattern × List LogEntry × Matcher} (run : m.pattern options source = .ok r) :
    m.pattern options' source = .ok r := by
  obtain ⟨p?, log, m'⟩ := r
  rw [pattern_eq_ok_iff] at run ⊢
  rcases run with kept | ⟨missing, compiled, same⟩
  · exact .inl kept
  · refine .inr ⟨missing, ?_, same⟩
    rw [Pattern.compile_eq_ok_iff] at compiled ⊢
    obtain ⟨short, admitted, freely⟩ := compiled
    have length := within.patternLength
    refine ⟨by omega, fun p read isUnsafe => ?_, freely⟩
    have allowed := admitted p read isUnsafe
    have refusal := within.unsafePatterns
    rw [allowed] at refusal
    simpa using refusal

theorem Matcher.test_of_within {engine : Engine} {p? : Option Pattern} {text : String}
    {anchored b : Bool} (run : test engine options p? text anchored = .ok b) :
    test engine options' p? text anchored = .ok b := by
  rw [test_eq_ok_iff] at run ⊢
  have length := within.inputLength
  refine ⟨fun compiled => ?_, run.2⟩
  have short := run.1 compiled
  omega

end

namespace Eval

def Extends {α : Type} (m m' : Eval α) : Prop := ∀ p a p', m p = .ok a p' → m' p = .ok a p'

theorem Extends.congruence {options options' : Options} (within : options.Within options') :
    Congruence options options' Extends where
  pure a := fun _ _ _ run => run
  throw e := fun _ _ _ run => run
  bind := by
    intro α β m m' f f' first next p b p' run
    obtain ⟨a, middle, here, rest⟩ := EStateM.bind_eq_ok.mp run
    exact EStateM.bind_eq_ok.mpr ⟨a, middle, first p a middle here, next a middle b p' rest⟩
  visit count := by
    intro p u p' run
    have more := within.nodesVisited
    rw [visit_eq_ok] at run ⊢
    exact ⟨by omega, run.2⟩
  checkDepth depth := by
    intro p u p' run
    have deeper := within.depth
    rw [checkDepth_eq_ok] at run ⊢
    exact ⟨by omega, run.2⟩
  runPattern source text anchored := by
    intro p b p' run
    obtain ⟨p?, log, m, compiled, tested, left⟩ := runPattern_eq_ok.mp run
    exact runPattern_eq_ok.mpr ⟨p?, log, m, Matcher.pattern_of_within within compiled,
      Matcher.test_of_within within tested, left⟩

/-- The second computation has another limit on nodes, and is otherwise like the first. Where the first
returns, the second returns the same unless that goes beyond its limit. -/
def Budgeted (limit : Int) {α : Type} (m m' : Eval α) : Prop :=
  ∀ p a p', m p = .ok a p' → p.visited ≤ p'.visited ∧ (p.visited ≤ limit →
    (p'.visited ≤ limit → m' p = .ok a p') ∧
    (limit < p'.visited → ∃ last, m' p = .error (.excess (.nodesVisited limit)) last))

theorem Budgeted.of_visited_eq {limit : Int} {α : Type} {m : Eval α}
    (same : ∀ p a p', m p = .ok a p' → p'.visited = p.visited) : Budgeted limit m m := by
  intro p a p' run
  have visited := same p a p' run
  refine ⟨by omega, fun inside => ⟨fun _ => run, fun beyond => ?_⟩⟩
  omega

theorem Budgeted.congruence (options : Options) (limit : Int) :
    Congruence options { options with maxNodesVisited := limit } (Budgeted limit) where
  pure a := by
    apply Budgeted.of_visited_eq
    intro p b p' run
    cases run
    rfl
  throw e := by
    apply Budgeted.of_visited_eq
    intro p a p' run
    contradiction
  bind := by
    intro α β m m' f f' first next p b p' run
    obtain ⟨a, middle, here, rest⟩ := EStateM.bind_eq_ok.mp run
    obtain ⟨grown, before⟩ := first p a middle here
    obtain ⟨grown', after⟩ := next a middle b p' rest
    refine ⟨by omega, fun inside => ?_⟩
    obtain ⟨same, exceeds⟩ := before inside
    by_cases beyond : limit < middle.visited
    · obtain ⟨last, failed⟩ := exceeds beyond
      refine ⟨fun small => by omega, fun _ => ⟨last, ?_⟩⟩
      simp [Bind.bind, EStateM.bind, failed]
    · have through : m' p = .ok a middle := same (by omega)
      obtain ⟨same', exceeds'⟩ := after (by omega)
      have onward : (m' >>= f') p = f' a middle := by simp [Bind.bind, EStateM.bind, through]
      rw [onward]
      exact ⟨same', exceeds'⟩
  visit count := by
    intro p u p' run
    obtain ⟨-, rfl⟩ := visit_eq_ok.mp run
    refine ⟨by simp, fun _ => ⟨fun small => visit_eq_ok.mpr ⟨small, rfl⟩, fun beyond => ?_⟩⟩
    unfold visit
    simp only at beyond ⊢
    rw [if_pos beyond]
    exact ⟨_, rfl⟩
  checkDepth depth := by
    apply Budgeted.of_visited_eq
    intro p u p' run
    obtain ⟨-, rfl⟩ := checkDepth_eq_ok.mp run
    rfl
  runPattern source text anchored := by
    apply Budgeted.of_visited_eq
    intro p b p' run
    obtain ⟨p?, log, m, -, -, rfl⟩ := runPattern_eq_ok.mp run
    rfl

end Eval

namespace Query

/-- Limits only ever stop an evaluation. What it returns does not depend on them, and the number of
nodes it has visited is the least limit on nodes under which it returns. -/
theorem evaluate_of_within {q : Query} {document : Value} {options options' : Options}
    {nodes : List Node} {p : Progress} (within : options.Within options')
    (run : q.evaluate document options = .ok nodes p) :
    q.evaluate document options' = .ok nodes p ∧
    ∀ limit : Int, 0 ≤ limit →
      (q.evaluate document { options with maxNodesVisited := limit } = .ok nodes p ↔
        p.visited ≤ limit) ∧
      (limit < p.visited → ∃ last, q.evaluate document { options with maxNodesVisited := limit } =
        .error (.excess (.nodesVisited limit)) last) := by
  constructor
  · have extended : Eval.Extends (Eval.query ⟨document, options⟩ q (.root document))
        (Eval.query ⟨document, options'⟩ q (.root document)) :=
      (Eval.Extends.congruence within).query q (.root document)
    exact extended {} nodes p run
  · intro limit positive
    have budgeted : Eval.Budgeted limit (Eval.query ⟨document, options⟩ q (.root document))
        (Eval.query ⟨document, { options with maxNodesVisited := limit }⟩ q (.root document)) :=
      (Eval.Budgeted.congruence options limit).query q (.root document)
    obtain ⟨-, inside⟩ := budgeted {} nodes p run
    obtain ⟨same, exceeds⟩ := inside positive
    refine ⟨⟨fun returned => ?_, same⟩, exceeds⟩
    rcases Int.lt_or_le limit p.visited with beyond | small
    · obtain ⟨last, failed⟩ := exceeds beyond
      rw [Query.evaluate, failed] at returned
      contradiction
    · exact small

theorem evaluate_of_within_filter :
    let tight : Options :=
      { maxNodesVisited := 9, maxDepth := 3, maxPatternLength := 2, maxInputLength := 2 }
    let loose : Options := { maxPatternLength := 4300, rejectUnsafePatterns := false }
    let q : Query := .mk .root [.descendant [.filter (.call .fullMatch
      [.query (.mk .current [.child [.name "a"]]), .literal (.string "a+")])]]
    let document : Value := .object [("b", .array [.object [("a", .string "aa")]])]
    tight.Within loose ∧
      ∃ nodes p, q.evaluate document tight = .ok nodes p ∧ q.evaluate document loose = .ok nodes p ∧
        ∀ limit : Int, 0 ≤ limit →
          (q.evaluate document { tight with maxNodesVisited := limit } = .ok nodes p ↔
            p.visited ≤ limit) ∧
          (limit < p.visited → ∃ last, q.evaluate document { tight with maxNodesVisited := limit } =
            .error (.excess (.nodesVisited limit)) last) := by
  intro tight loose q document
  have within : tight.Within loose := by
    constructor <;> simp [tight, loose]
  have returns : (q.evaluate document tight matches .ok _ _) = true := by decide +kernel
  cases run : q.evaluate document tight with
  | error e p => simp [run] at returns
  | ok nodes p => exact ⟨within, nodes, p, rfl, evaluate_of_within within run⟩

end Query

end JsonPath
