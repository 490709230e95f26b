import JsonPath.Proofs.Grammar.Balance
import JsonPath.Proofs.Typing.Depth
import JsonPath.Proofs.Typing.Parsed

namespace JsonPath

namespace Grammar

open Phrase Query

@[simp]
def Shallow (depth : Nat) : (s : Symbol) → Meaning s → Prop
  | .query, q | .filterQuery, q => (query q).DepthWithin depth
  | .segments, ss => ∀ s ∈ ss, (segment s).DepthWithin depth
  | .segment, s => (segment s).DepthWithin depth
  | .bracketedSelection, ss | .selectors, ss => ∀ s ∈ ss, (selector s).DepthWithin depth
  | .selector, s => (selector s).DepthWithin depth
  | .disjuncts, cs | .conjuncts, cs => ∀ c ∈ cs, (condition c).DepthWithin depth
  | .logicalExpr, c | .logicalAnd, c | .basicExpr, c | .parenExpr, c | .testExpr, c =>
    (condition c).DepthWithin depth
  | .comparable, o => (operand o).DepthWithin depth
  | .functionExpr, (_, as) | .arguments, as => ∀ a ∈ as, (argument a).DepthWithin depth
  | .functionArgument, a => (argument a).DepthWithin depth

/-- The levels that a symbol can have outside all brackets and parentheses. Those of a call and of an
expression in parentheses are counted for the parentheses. -/
@[simp]
def Symbol.levels : Symbol → Nat
  | .query | .filterQuery => 1
  | .segments | .segment | .bracketedSelection => 0
  | .selectors | .selector => 6
  | .logicalExpr | .arguments | .functionArgument => 5
  | .disjuncts | .logicalAnd => 4
  | .conjuncts | .basicExpr => 3
  | .testExpr => 2
  | .comparable => 1
  | .parenExpr | .functionExpr => 0

theorem depthWithin_query {q : Query} {depth : Nat}
    (within : (argument (.condition (.selects q))).DepthWithin depth) :
    (argument (.query q)).DepthWithin depth := by
  have test := within.parts (condition (.selects q)) (by simp)
  exact .through rfl test.parts

theorem depthWithin_passed? {type : DeclaredType} {a b : Argument} {depth : Nat}
    (passed : Argument.passed? type a = some b) (within : (argument a).DepthWithin depth) :
    (argument b).DepthWithin depth := by
  unfold Argument.passed? at passed
  split at passed
  · cases passed
    exact within
  · obtain ⟨-, same⟩ := Option.ite_none_right_eq_some.mp passed
    cases same
    exact depthWithin_query within
  · obtain ⟨-, same⟩ := Option.ite_none_right_eq_some.mp passed
    cases same
    exact within
  · cases passed
    exact depthWithin_query within
  · obtain ⟨-, same⟩ := Option.ite_none_right_eq_some.mp passed
    cases same
    exact within
  · obtain ⟨-, same⟩ := Option.ite_none_right_eq_some.mp passed
    cases same
    exact within
  · contradiction

theorem depthWithin_allPassed? {types : List DeclaredType} {as bs : List Argument} {depth : Nat}
    (passed : Argument.allPassed? types as = some bs) (within : ∀ a ∈ as, (argument a).DepthWithin depth) :
    ∀ b ∈ bs, (argument b).DepthWithin depth := by
  induction types generalizing as bs with
  | nil =>
    cases as with
    | nil =>
      cases passed
      simp
    | cons a as => simp [Argument.allPassed?] at passed
  | cons type types ih =>
    cases as with
    | nil => simp [Argument.allPassed?] at passed
    | cons a as =>
      simp only [Argument.allPassed?, Option.bind_eq_some_iff, Option.map_eq_some_iff] at passed
      obtain ⟨b, first, bs, rest, rfl⟩ := passed
      rw [List.forall_mem_cons] at within ⊢
      exact ⟨depthWithin_passed? first within.1, ih rest within.2⟩

theorem depthWithin_call? {name : Leaf name?} {left : Mark .lparen} {as : List Argument}
    {m : Function × List Argument} {depth : Nat} (called : call? name left as = some m)
    (within : ∀ a ∈ as, (argument a).DepthWithin depth) : Shallow depth .functionExpr m := by
  simp only [call?, Option.ite_none_right_eq_some, Option.bind_eq_some_iff, Option.map_eq_some_iff]
    at called
  obtain ⟨-, f, -, bs, passed, rfl⟩ := called
  exact depthWithin_allPassed? passed within

theorem depthWithin_joined? {join : List Condition → Condition} {cs : List Condition} {c : Condition}
    {depth : Nat} (whole : (condition (join cs)).parts = cs.map condition)
    (within : ∀ c ∈ cs, (condition c).DepthWithin depth) (joined : joined? join cs = some c) :
    (condition c).DepthWithin (depth + 1) := by
  unfold joined? at joined
  split at joined
  · cases joined
    exact (within c (by simp)).mono (Nat.le_succ depth)
  · obtain ⟨-, same⟩ := Option.ite_none_right_eq_some.mp joined
    cases same
    refine depthWithin_iff.mpr ⟨depth, Nat.le_refl _, ?_⟩
    rw [whole]
    simpa using within

theorem Shallow.mono {s : Symbol} {m : Meaning s} {depth deeper : Nat} (shallow : Shallow depth s m)
    (room : depth ≤ deeper) : Shallow deeper s m := by
  cases s <;> first
    | exact DepthWithin.mono shallow room
    | exact fun x member => (shallow x member).mono room

theorem shallow_cons? {α : Type} {P : α → Prop} {first : Option α} {others : Option (List α)}
    {as : List α} (meaning : (do return (← first) :: (← others)) = some as)
    (head : ∀ a, first = some a → P a) (tail : ∀ bs, others = some bs → ∀ b ∈ bs, P b) :
    ∀ a ∈ as, P a := (forall_of_cons? meaning (head _) (tail _)).2

namespace Derivation

theorem shallow_comparison {left right : Derivation .comparable} {operator : ComparisonOp} {c : Condition}
    {depth : Nat} (meaning : (comparison left operator right).meaning? = some c)
    (first : ∀ o, left.meaning? = some o → (operand o).DepthWithin depth)
    (second : ∀ o, right.meaning? = some o → (operand o).DepthWithin depth) :
    (condition c).DepthWithin (depth + 1) := by
  simp only [meaning?, Option.bind_eq_bind, Option.bind_eq_some_iff, Option.filter_eq_some_iff] at meaning
  obtain ⟨l, ⟨meaning, -⟩, r, ⟨meaning', -⟩, same⟩ := meaning
  cases same
  exact .succ (by simpa using ⟨first l meaning, second r meaning'⟩)

theorem shallow_slice {form : SliceForm} {s : Selector} {depth : Nat} (meaning : form.selector? = some s) :
    (selector s).DepthWithin depth := by
  simp only [SliceForm.selector?, Option.bind_eq_bind, Option.bind_eq_some_iff] at meaning
  obtain ⟨start, -, stop, -, step, -, same⟩ := meaning
  cases same
  exact .through rfl (by simp)

theorem shallow_of_parts {s : Symbol} (t : Derivation s) {limit : Nat} {m : Meaning s}
    (parts : ∀ x ∈ t.parts, ∀ m', x.2.meaning? = some m' → Shallow (6 * limit + x.1.levels) x.1 m')
    (meaning : t.meaning? = some m) : Shallow (6 * (limit + t.around) + s.levels) s m := by
  cases t with
  | noSegment =>
    cases meaning
    simp
  | childName | childWildcard | descendantName | descendantWildcard =>
    cases meaning
    exact .through rfl (by simpa [Segment.selectors] using .through rfl (by simp))
  | nameSelector | wildcardSelector | literalComparable | literalArgument =>
    cases meaning
    exact .through rfl (by simp)
  | indexSelector n =>
    obtain ⟨-, same⟩ := Option.ite_none_right_eq_some.mp meaning
    cases same
    exact .through rfl (by simp)
  | sliceSelector form => exact shallow_slice meaning
  | query mark ss | filterQuery mark ss =>
    exact holds_of_map meaning (parts ⟨_, ss⟩ (by simp) _)
      fun ms below => .succ (by simpa [Query.segments] using below)
  | queryTest q =>
    exact holds_of_map meaning (parts ⟨_, q⟩ (by simp) _) fun m below => .succ (by simpa using below)
  | childBracketed b | descendantBracketed dots b =>
    exact holds_of_map meaning (parts ⟨_, b⟩ (by simp) _)
      fun ms below => .through rfl (by simpa [Segment.selectors] using below)
  | queryComparable part | logicalArgument part =>
    exact holds_of_map meaning (parts ⟨_, part⟩ (by simp) _)
      fun m below => .through rfl (by simpa using below)
  | notParen bang part | callTest part | callComparable part =>
    exact holds_of_map meaning (parts ⟨_, part⟩ (by simp) _)
      fun m below => (DepthWithin.succ (by simpa using below)).mono (by simp)
  | lastSelector last | lastDisjunct last | lastConjunct last | lastArgument last =>
    exact holds_of_map meaning (parts ⟨_, last⟩ (by simp) _) (by simp)
  | moreSegments first rest | moreSelectors first mark rest | moreDisjuncts first mark rest
  | moreConjuncts first mark rest | moreArguments first mark rest =>
    exact shallow_cons? meaning (parts ⟨_, first⟩ (by simp)) (parts ⟨_, rest⟩ (by simp))
  | filterSelector mark c | notTest mark c =>
    exact holds_of_filter_map meaning (parts ⟨_, c⟩ (by simp) _)
      fun m _ below => .succ (by simpa using below)
  | bracketedSelection left ss right => exact parts ⟨_, ss⟩ (by simp) m meaning
  | paren c | test c => exact Shallow.mono (parts ⟨_, c⟩ (by simp) m meaning) (by simp)
  | logicalExpr cs | logicalAnd cs =>
    obtain ⟨ms, meaning, joined⟩ := Option.bind_eq_some_iff.mp meaning
    exact depthWithin_joined? (by simp) (parts ⟨_, cs⟩ (by simp) ms meaning) joined
  | comparison left operator right =>
    have below := shallow_comparison meaning (parts ⟨_, left⟩ (by simp)) (parts ⟨_, right⟩ (by simp))
    exact below.mono (by simp)
  | parenExpr left c right =>
    -- The levels inside fit into the six of the parenthesis.
    have inside := (Option.filter_eq_some_iff.mp meaning).1
    exact Shallow.mono (parts ⟨_, c⟩ (by simp) m inside) (by simp; omega)
  | emptyCall name left right => exact depthWithin_call? meaning (by simp)
  | call name left as right =>
    obtain ⟨ms, meaning, called⟩ := Option.bind_eq_some_iff.mp meaning
    have below := depthWithin_call? called (parts ⟨_, as⟩ (by simp) ms meaning)
    exact Shallow.mono below (by simp; omega)

/-- Each bracket or parenthesis adds six levels at most. -/
theorem shallow {s : Symbol} (t : Derivation s) {limit : Nat} (within : NestsWithin limit t.tokens)
    {m : Meaning s} (meaning : t.meaning? = some m) : Shallow (6 * limit + s.levels) s m := by
  obtain ⟨limit', rfl, inside⟩ := t.nestsWithin_parts within
  refine t.shallow_of_parts (fun x part m' meaning' => ?_) meaning
  have := t.sizeOf_part x part
  exact shallow x.2 (inside x part) meaning'
termination_by sizeOf t

end Derivation

end Grammar

end JsonPath
