import JsonPath.Proofs.Grammar.Meaning
import Mathlib.Data.List.Forall2
import Mathlib.Logic.Relation

namespace JsonPath

def Argument.Fits : DeclaredType → Argument → Prop
  | .value, literal _ => True
  | .value, query q => q.isSingular
  | .value, condition (.call f _) => f.result = .value
  | .nodes, query _ => True
  | .logical, condition c => c.isLogical
  | _, _ => False

/-- A call gives a known function as many arguments as it has parameters, each of its type. -/
structure CallFits (f : Function) (as : List Argument) : Prop where
  known : f ∈ Function.all
  count : as.length = f.arity
  types : List.Forall₂ Argument.Fits f.parameters as

/-- A part of a query, of any kind. -/
inductive Phrase
  | query (q : Query)
  | segment (s : Segment)
  | selector (s : Selector)
  | condition (c : Condition)
  | operand (o : Operand)
  | argument (a : Argument)

namespace Phrase

@[simp]
def parts : Phrase → List Phrase
  | query q => q.segments.map segment
  | segment s => s.selectors.map selector
  | selector (.filter c) => [condition c]
  | selector _ => []
  | condition (.any cs) => cs.map condition
  | condition (.all cs) => cs.map condition
  | condition (.negation c) => [condition c]
  | condition (.compare _ left right) => [operand left, operand right]
  | condition (.selects q) => [query q]
  | condition (.call _ as) => as.map argument
  | operand (.literal _) => []
  | operand (.query q) => [query q]
  | operand (.call _ as) => as.map argument
  | argument (.literal _) => []
  | argument (.query q) => [query q]
  | argument (.condition c) => [condition c]

/-- A phrase contains itself and, at any depth, the parts below it. -/
def Contains : Phrase → Phrase → Prop := Relation.ReflTransGen fun x y => y ∈ x.parts

/-- What typing asks of a phrase on top of what it asks of its parts. -/
@[simp]
def Fits : Phrase → Prop
  | segment s => s.selectors ≠ []
  | selector (.index n) => isIndex n
  | selector (.slice start stop step) => ∀ n, some n ∈ [start, stop, step] → isIndex n
  | selector (.filter c) => c.isLogical
  | condition (.any cs) => 2 ≤ cs.length ∧ ∀ c ∈ cs, c.isLogical
  | condition (.all cs) => 2 ≤ cs.length ∧ ∀ c ∈ cs, c.isLogical
  | condition (.negation c) => c.isLogical
  | condition (.compare operator left right) =>
    operator ∈ [.eq, .ne, .lt, .le, .gt, .ge] ∧ left.isComparable ∧ right.isComparable
  | condition (.call f as) => CallFits f as
  | operand (.call f as) => CallFits f as
  | _ => True

/-- The rules of typing hold at every depth of nesting. -/
def WellTyped (x : Phrase) : Prop := ∀ y, x.Contains y → y.Fits

theorem wellTyped_iff {x : Phrase} : x.WellTyped ↔ x.Fits ∧ ∀ y ∈ x.parts, y.WellTyped := by
  constructor
  · intro typed
    exact ⟨typed x .refl, fun y part z below => typed z (.head part below)⟩
  · rintro ⟨here, below⟩ z contains
    rcases contains.cases_head with rfl | ⟨y, part, contains⟩
    · exact here
    · exact below y part z contains

theorem WellTyped.fits {x : Phrase} (typed : x.WellTyped) : x.Fits := (wellTyped_iff.mp typed).1

theorem WellTyped.part {x y : Phrase} (typed : x.WellTyped) (part : y ∈ x.parts) : y.WellTyped :=
  (wellTyped_iff.mp typed).2 y part

theorem WellTyped.contains {x y : Phrase} (typed : x.WellTyped) (contains : x.Contains y) :
    y.WellTyped :=
  fun z below => typed z (contains.trans below)

@[simp]
theorem wellTyped_query {anchor : Anchor} {ss : List Segment} :
    (query (.mk anchor ss)).WellTyped ↔ ∀ s ∈ ss, (segment s).WellTyped := by
  rw [wellTyped_iff]
  simp [Query.segments]

@[simp]
theorem wellTyped_segment {s : Segment} :
    (segment s).WellTyped ↔ s.selectors ≠ [] ∧ ∀ x ∈ s.selectors, (selector x).WellTyped := by
  rw [wellTyped_iff]
  simp

@[simp]
theorem wellTyped_name {name : String} : (selector (.name name)).WellTyped := by
  rw [wellTyped_iff]
  simp

@[simp]
theorem wellTyped_wildcard : (selector .wildcard).WellTyped := by
  rw [wellTyped_iff]
  simp

@[simp]
theorem wellTyped_index {n : Int} : (selector (.index n)).WellTyped ↔ isIndex n := by
  rw [wellTyped_iff]
  simp

@[simp]
theorem wellTyped_slice {start stop step : Option Int} :
    (selector (.slice start stop step)).WellTyped ↔
      ∀ n, some n ∈ [start, stop, step] → isIndex n := by
  rw [wellTyped_iff]
  simp

@[simp]
theorem wellTyped_filter {c : Condition} :
    (selector (.filter c)).WellTyped ↔ c.isLogical ∧ (condition c).WellTyped := by
  rw [wellTyped_iff]
  simp

@[simp]
theorem wellTyped_any {cs : List Condition} :
    (condition (.any cs)).WellTyped ↔
      (2 ≤ cs.length ∧ ∀ c ∈ cs, c.isLogical) ∧ ∀ c ∈ cs, (condition c).WellTyped := by
  rw [wellTyped_iff]
  simp

@[simp]
theorem wellTyped_all {cs : List Condition} :
    (condition (.all cs)).WellTyped ↔
      (2 ≤ cs.length ∧ ∀ c ∈ cs, c.isLogical) ∧ ∀ c ∈ cs, (condition c).WellTyped := by
  rw [wellTyped_iff]
  simp

@[simp]
theorem wellTyped_negation {c : Condition} :
    (condition (.negation c)).WellTyped ↔ c.isLogical ∧ (condition c).WellTyped := by
  rw [wellTyped_iff]
  simp

@[simp]
theorem wellTyped_compare {operator : Comparison} {left right : Operand} :
    (condition (.compare operator left right)).WellTyped ↔
      (operator ∈ [.eq, .ne, .lt, .le, .gt, .ge] ∧ left.isComparable ∧ right.isComparable) ∧
        (operand left).WellTyped ∧ (operand right).WellTyped := by
  rw [wellTyped_iff]
  simp

@[simp]
theorem wellTyped_selects {q : Query} :
    (condition (.selects q)).WellTyped ↔ (query q).WellTyped := by
  rw [wellTyped_iff]
  simp

@[simp]
theorem wellTyped_callCondition {f : Function} {as : List Argument} :
    (condition (.call f as)).WellTyped ↔ CallFits f as ∧ ∀ a ∈ as, (argument a).WellTyped := by
  rw [wellTyped_iff]
  simp

@[simp]
theorem wellTyped_literalOperand {v : Value} : (operand (.literal v)).WellTyped := by
  rw [wellTyped_iff]
  simp

@[simp]
theorem wellTyped_queryOperand {q : Query} :
    (operand (.query q)).WellTyped ↔ (query q).WellTyped := by
  rw [wellTyped_iff]
  simp

@[simp]
theorem wellTyped_callOperand {f : Function} {as : List Argument} :
    (operand (.call f as)).WellTyped ↔ CallFits f as ∧ ∀ a ∈ as, (argument a).WellTyped := by
  rw [wellTyped_iff]
  simp

@[simp]
theorem wellTyped_literalArgument {v : Value} : (argument (.literal v)).WellTyped := by
  rw [wellTyped_iff]
  simp

@[simp]
theorem wellTyped_queryArgument {q : Query} :
    (argument (.query q)).WellTyped ↔ (query q).WellTyped := by
  rw [wellTyped_iff]
  simp

@[simp]
theorem wellTyped_conditionArgument {c : Condition} :
    (argument (.condition c)).WellTyped ↔ (condition c).WellTyped := by
  rw [wellTyped_iff]
  simp

end Phrase

end JsonPath
