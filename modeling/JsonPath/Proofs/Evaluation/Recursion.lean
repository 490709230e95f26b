import JsonPath.Proofs.Evaluation.Account
import JsonPath.Proofs.Typing.Depth

namespace JsonPath

/-- Counts how deep the runs of queries, the uses of selectors, the tests of logical expressions and the
calls of functions stand in one another. -/
def Account.recursion : Account Nat where
  nothing := 0
  both := max
  onQuery _ depth := depth + 1
  onSelector depth := depth + 1
  onCondition depth := depth + 1
  onCall depth := depth + 1

namespace Account

variable {bound : Nat}

theorem recursion_bind {α : Type} {m : Eval α} {first : Progress → Nat} {next : α → Progress → Nat}
    (here : ∀ p, first p ≤ bound) (rest : ∀ a p, next a p ≤ bound) (p : Progress) :
    recursion.bind m first next p ≤ bound := by
  unfold bind
  split
  · exact Nat.max_le.mpr ⟨here p, rest _ _⟩
  · exact here p

theorem recursion_each {α β : Type} {f : α → Eval β} {noted : α → Progress → Nat}
    (uses : ∀ a p, noted a p ≤ bound) (as : List α) (p : Progress) :
    recursion.each f noted as p ≤ bound := by
  induction as generalizing p with
  | nil => exact Nat.zero_le bound
  | cons a as ih => exact recursion_bind (uses a) (fun _ => ih) p

theorem recursion_charged {β : Type} {options : Options} {use : Node → Eval β}
    {noted : Node → Progress → Nat} (uses : ∀ n p, noted n p ≤ bound) (ns : List Node) (p : Progress) :
    recursion.charged options use noted ns p ≤ bound :=
  recursion_each (fun n => recursion_bind (fun _ => Nat.zero_le bound) fun _ => uses n) ns p

theorem recursion_descended {options : Options} {use : Node → Eval (List Node)}
    {noted : Node → Progress → Nat} (uses : ∀ n p, noted n p ≤ bound) (ns : List Node) (p : Progress) :
    recursion.descended options use noted ns p ≤ bound :=
  recursion_each (fun n => recursion_bind (fun _ => Nat.zero_le bound) fun _ =>
    recursion_bind (fun _ => Nat.zero_le bound) fun _ => uses n) ns p

variable {scope : Scope}

open Phrase

mutual

theorem recursion_query : ∀ (q : Query) {depth : Nat}, (Phrase.query q).DepthWithin depth →
    ∀ current p, recursion.query scope q current p ≤ 2 * depth
  | .mk anchor ss, depth, within, current, p => by
    obtain ⟨depth, rfl, parts⟩ := within.counted rfl
    have inside := recursion_segments ss (by simpa [Query.segments] using parts)
      [scope.start anchor current] p
    rw [query]
    exact Nat.succ_le_succ inside

theorem recursion_segments : ∀ (ss : List Segment) {depth : Nat},
    (∀ s ∈ ss, (Phrase.segment s).DepthWithin depth) →
      ∀ nodes p, recursion.segments scope ss nodes p ≤ 2 * depth + 1
  | [], depth, within, nodes, p => by
    rw [segments]
    exact Nat.zero_le _
  | s :: ss, depth, within, nodes, p => by
    rw [segments]
    rw [List.forall_mem_cons] at within
    exact recursion_bind (recursion_segment s within.1 nodes)
      (fun nodes => recursion_segments ss within.2 nodes) p

theorem recursion_segment : ∀ (s : Segment) {depth : Nat}, (Phrase.segment s).DepthWithin depth →
    ∀ nodes p, recursion.segment scope s nodes p ≤ 2 * depth + 1
  | .child ss, depth, within, nodes, p => by
    have inside := recursion_selectors ss (by simpa [Segment.selectors] using within.parts)
    rw [segment]
    exact recursion_each inside nodes p
  | .descendant ss, depth, within, nodes, p => by
    have inside := recursion_selectors ss (by simpa [Segment.selectors] using within.parts)
    rw [segment]
    exact recursion_descended inside _ p

theorem recursion_selectors : ∀ (ss : List Selector) {depth : Nat},
    (∀ s ∈ ss, (Phrase.selector s).DepthWithin depth) →
      ∀ n p, recursion.selectors scope ss n p ≤ 2 * depth + 1
  | [], depth, within, n, p => by
    rw [selectors]
    exact Nat.zero_le _
  | s :: ss, depth, within, n, p => by
    rw [selectors]
    rw [List.forall_mem_cons] at within
    exact recursion_bind (recursion_selector s within.1 n) (fun _ => recursion_selectors ss within.2 n) p

theorem recursion_selector : ∀ (s : Selector) {depth : Nat}, (Phrase.selector s).DepthWithin depth →
    ∀ n p, recursion.selector scope s n p ≤ 2 * depth + 1
  | .name _, depth, within, n, p | .wildcard, depth, within, n, p | .index _, depth, within, n, p
  | .slice _ _ _, depth, within, n, p => by
    simp only [selector]
    exact Nat.succ_le_succ (Nat.zero_le _)
  | .filter c, depth, within, n, p => by
    obtain ⟨depth, rfl, parts⟩ := within.counted rfl
    have inside := recursion_condition c (parts (Phrase.condition c) (by simp))
    rw [selector]
    exact Nat.succ_le_succ (Nat.le_add_right_of_le (recursion_charged inside n.children p))

theorem recursion_condition : ∀ (c : Condition) {depth : Nat}, (Phrase.condition c).DepthWithin depth →
    ∀ current p, recursion.condition scope c current p ≤ 2 * depth
  | .any cs, depth, within, current, p => by
    obtain ⟨depth, rfl, parts⟩ := within.counted rfl
    have inside := recursion_anyHolds cs (by simpa using parts) current p
    rw [condition]
    exact Nat.succ_le_succ (Nat.le_succ_of_le inside)
  | .all cs, depth, within, current, p => by
    obtain ⟨depth, rfl, parts⟩ := within.counted rfl
    have inside := recursion_allHold cs (by simpa using parts) current p
    rw [condition]
    exact Nat.succ_le_succ (Nat.le_succ_of_le inside)
  | .negation c, depth, within, current, p => by
    obtain ⟨depth, rfl, parts⟩ := within.counted rfl
    have inside := recursion_condition c (parts (Phrase.condition c) (by simp)) current p
    rw [condition]
    exact Nat.succ_le_succ (Nat.le_succ_of_le inside)
  | .compare operator left right, depth, within, current, p => by
    obtain ⟨depth, rfl, parts⟩ := within.counted rfl
    have first := recursion_operand left (parts (Phrase.operand left) (by simp)) current
    have second := recursion_operand right (parts (Phrase.operand right) (by simp)) current
    rw [condition]
    exact Nat.succ_le_succ (Nat.le_succ_of_le (recursion_bind first (fun _ => second) p))
  | .selects q, depth, within, current, p => by
    obtain ⟨depth, rfl, parts⟩ := within.counted rfl
    have inside := recursion_query q (parts (Phrase.query q) (by simp)) current p
    rw [condition]
    exact Nat.succ_le_succ (Nat.le_succ_of_le inside)
  | .call f as, depth, within, current, p => by
    obtain ⟨depth, rfl, parts⟩ := within.counted rfl
    have inside := recursion_arguments as f.parameters (by simpa using parts) current p
    rw [condition]
    exact Nat.succ_le_succ (Nat.succ_le_succ inside)

theorem recursion_anyHolds : ∀ (cs : List Condition) {depth : Nat},
    (∀ c ∈ cs, (Phrase.condition c).DepthWithin depth) →
      ∀ current p, recursion.anyHolds scope cs current p ≤ 2 * depth
  | [], depth, within, current, p => by
    rw [anyHolds]
    exact Nat.zero_le _
  | c :: cs, depth, within, current, p => by
    rw [anyHolds]
    rw [List.forall_mem_cons] at within
    refine recursion_bind (recursion_condition c within.1 current) (fun holds p => ?_) p
    cases holds with
    | true => exact Nat.zero_le _
    | false => exact recursion_anyHolds cs within.2 current p

theorem recursion_allHold : ∀ (cs : List Condition) {depth : Nat},
    (∀ c ∈ cs, (Phrase.condition c).DepthWithin depth) →
      ∀ current p, recursion.allHold scope cs current p ≤ 2 * depth
  | [], depth, within, current, p => by
    rw [allHold]
    exact Nat.zero_le _
  | c :: cs, depth, within, current, p => by
    rw [allHold]
    rw [List.forall_mem_cons] at within
    refine recursion_bind (recursion_condition c within.1 current) (fun holds p => ?_) p
    cases holds with
    | true => exact recursion_allHold cs within.2 current p
    | false => exact Nat.zero_le _

theorem recursion_operand : ∀ (o : Operand) {depth : Nat}, (Phrase.operand o).DepthWithin depth →
    ∀ current p, recursion.operand scope o current p ≤ 2 * depth
  | .literal v, depth, within, current, p => by
    rw [operand]
    exact Nat.zero_le _
  | .query q, depth, within, current, p => by
    rw [operand]
    exact recursion_query q (within.parts (Phrase.query q) (by simp)) current p
  | .call f as, depth, within, current, p => by
    obtain ⟨depth, rfl, parts⟩ := within.counted rfl
    have inside := recursion_arguments as f.parameters (by simpa using parts) current p
    rw [operand]
    exact Nat.succ_le_succ (Nat.le_succ_of_le inside)

theorem recursion_arguments : ∀ (as : List Argument) (types : List DeclaredType) {depth : Nat},
    (∀ a ∈ as, (Phrase.argument a).DepthWithin depth) →
      ∀ current p, recursion.arguments scope types as current p ≤ 2 * depth
  | [], types, depth, within, current, p => by
    cases types <;> simp only [arguments] <;> exact Nat.zero_le _
  | a :: as, [], depth, within, current, p => by
    simp only [arguments]
    exact Nat.zero_le _
  | a :: as, type :: types, depth, within, current, p => by
    rw [arguments]
    rw [List.forall_mem_cons] at within
    exact recursion_bind (recursion_argument a type within.1 current)
      (fun _ => recursion_arguments as types within.2 current) p

theorem recursion_argument : ∀ (a : Argument) (type : DeclaredType) {depth : Nat},
    (Phrase.argument a).DepthWithin depth →
      ∀ current p, recursion.argument scope type a current p ≤ 2 * depth
  | .literal v, type, depth, within, current, p => by
    cases type <;> simp only [argument] <;> exact Nat.zero_le _
  | .query q, type, depth, within, current, p => by
    have inside := recursion_query q (within.parts (Phrase.query q) (by simp)) current p
    cases type <;> simpa only [argument] using inside
  | .condition c, type, depth, within, current, p => by
    have test := within.parts (Phrase.condition c) (by simp)
    have inside := recursion_condition c test current p
    cases c with
    | call f as =>
      obtain ⟨depth, rfl, parts⟩ := test.counted rfl
      have passed := recursion_arguments as f.parameters (by simpa using parts) current p
      cases type with
      | logical => simpa only [argument] using inside
      | _ =>
        simp only [argument]
        exact Nat.succ_le_succ (Nat.le_succ_of_le passed)
    | _ => cases type <;> simpa only [argument] using inside

end

end Account

end JsonPath
