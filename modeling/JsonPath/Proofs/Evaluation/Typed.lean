import JsonPath.Proofs.Evaluation.Progress
import JsonPath.Proofs.Slice.Bounds

namespace JsonPath

namespace Phrase

def ContainsCall (x : Phrase) (f : Function) (as : List Argument) : Prop :=
  x.Contains (.condition (.call f as)) ∨ x.Contains (.operand (.call f as))

theorem WellTyped.call {x : Phrase} (typed : x.WellTyped) {f : Function} {as : List Argument}
    (contains : x.ContainsCall f as) : CallFits f as ∧ ∀ a ∈ as, (argument a).WellTyped := by
  rcases contains with contains | contains
  · exact wellTyped_callCondition.mp (typed.contains contains)
  · exact wellTyped_callOperand.mp (typed.contains contains)

end Phrase

namespace Eval

/-- A query selects one node at most, whatever the current node is and whatever was used up. -/
def AtMostOne (scope : Scope) (q : Query) : Prop :=
  ∀ current p nodes p', query scope q current p = .ok nodes p' → nodes.length ≤ 1

section

variable {allowed : EvalError → Prop} (excess : ∀ x, allowed (.excess x)) (scope : Scope)

include excess

theorem selectors_singular {s : Selector} (singular : (Segment.child [s]).isSingular) (n : Node) :
    Returns allowed (selectors scope [s] n) fun nodes => nodes.length ≤ 1 := by
  have one (child? : Option Node) : Returns allowed (do
      let here ← charged scope.options child?.toList
      let more ← selectors scope [] n
      return here ++ more) fun nodes => nodes.length ≤ 1 := by
    refine (Returns.charged excess _ (P := fun nodes => nodes.length ≤ 1)
      (by cases child? <;> simp)).bind fun here small => ?_
    simp only [selectors, pure_bind, List.append_nil]
    exact .pure small
  cases s with
  | name name => simpa only [selectors, selector] using one (n.child? (.member name))
  | index index => simpa only [selectors, selector] using one (n.item? index)
  | _ => simp [Segment.isSingular] at singular

theorem segment_singular {s : Segment} (singular : s.isSingular) {nodes : List Node}
    (small : nodes.length ≤ 1) :
    Returns allowed (segment scope s nodes) fun nodes => nodes.length ≤ 1 := by
  obtain ⟨x, rfl⟩ : ∃ x, s = .child [x] := by
    unfold Segment.isSingular at singular
    split at singular
    · exact ⟨_, rfl⟩
    · exact ⟨_, rfl⟩
    · contradiction
  match nodes, small with
  | [], _ =>
    simp only [segment, flatMap]
    exact .pure (by simp)
  | [n], _ =>
    simp only [segment, flatMap]
    refine (selectors_singular excess scope singular n).bind fun here small => ?_
    simp only [pure_bind, List.append_nil]
    exact .pure small

theorem segments_singular {ss : List Segment} (singular : ∀ s ∈ ss, s.isSingular) {nodes : List Node}
    (small : nodes.length ≤ 1) :
    Returns allowed (segments scope ss nodes) fun nodes => nodes.length ≤ 1 := by
  induction ss generalizing nodes with
  | nil =>
    rw [segments]
    exact .pure small
  | cons s ss ih =>
    rw [segments]
    exact (segment_singular excess scope (singular s (by simp)) small).bind fun next small =>
      ih (fun t member => singular t (by simp [member])) small

end

theorem atMostOne_of_isSingular (scope : Scope) {q : Query} (singular : q.isSingular) :
    AtMostOne scope q := by
  intro current p nodes p' run
  obtain ⟨anchor, ss⟩ := q
  have each : ∀ s ∈ ss, s.isSingular := by
    simpa [Query.isSingular, Query.segments] using singular
  have one (start : Node) :
      Returns Excessive (segments scope ss [start]) fun nodes => nodes.length ≤ 1 :=
    segments_singular excessive_excess scope each (by simp)
  cases anchor with
  | root =>
    rw [query] at run
    exact (one _).of_ok run
  | current =>
    rw [query] at run
    exact (one _).of_ok run

theorem call_returns {scope : Scope} (short : scope.options.maxPatternLength ≤ maxIntegerDigits)
    {f : Function} {as : List Argument} (fits : CallFits f as)
    (typed : ∀ a ∈ as, (Phrase.argument a).WellTyped) (current : Node) :
    Returns Excessive (call scope f as current) fun d => d.HasType f.result :=
  (arguments_finishes scope (admitsStops_excessive short) f as f.parameters fits.count typed current).bind
    fun _ count => apply_returns (runPattern_finishes short) count

end Eval

namespace Query

/-- An evaluation keeps to the types of the language, whatever the current nodes are that filters
test and whatever was used up before. It may recurse as deep as the query and the document go; a bound on
recursion is left aside. -/
structure RunsTyped (q : Query) (document : Value) (options : Options) : Prop where
  finishes : (∃ nodes p, q.evaluate document options = .ok nodes p) ∨
    ∃ x p, q.evaluate document options = .error (.excess x) p
  comparisons : ∀ operator left right,
    (Phrase.query q).Contains (.condition (.compare operator left right)) →
      ∀ q', .query q' ∈ [left, right] → Eval.AtMostOne ⟨document, options⟩ q'
  values : ∀ f as, (Phrase.query q).ContainsCall f as →
    ∀ q', (.value, .query q') ∈ f.parameters.zip as → Eval.AtMostOne ⟨document, options⟩ q'
  calls : ∀ f as, (Phrase.query q).ContainsCall f as →
    ∀ current p d p', Eval.call ⟨document, options⟩ f as current p = .ok d p' → d.HasType f.result
  slices : ∀ start stop step, (Phrase.query q).Contains (.selector (.slice start stop step)) →
    ∀ length, ∀ i ∈ (Slice.indices length start stop step).toList, 0 ≤ i ∧ i < length

end Query

end JsonPath
