import JsonPath.Proofs.Evaluation.Account
import JsonPath.Proofs.Evaluation.Congruence
import Mathlib.Algebra.BigOperators.Group.List.Basic

namespace JsonPath

def Account.queryRuns : Account (List QueryRun) where
  nothing := []
  both runs runs' := runs ++ runs'
  onQuery r runs := r :: runs
  onSelector := id
  onCondition := id
  onCall := id

theorem Account.queryRuns_query (scope : Scope) (anchor : Anchor) (ss : List Segment) (current : Node)
    (p : Progress) :
    queryRuns.query scope (.mk anchor ss) current p =
      ⟨.mk anchor ss, current, p⟩ :: queryRuns.segments scope ss [scope.start anchor current] p := by
  rw [query]
  rfl

def Segment.enumerated : Segment → List Node → Nat
  | child _, _ => 0
  | descendant _, nodes => (nodes.flatMap Node.preorder).length

/-- The nodes that there are after each of the segments, and the nodes that they go through. -/
def Eval.selected (scope : Scope) : List Segment → List Node → Progress → Nat
  | [], _, _ => 0
  | s :: ss, nodes, p =>
    match segment scope s nodes p with
    | .ok nodes' p' => nodes'.length + s.enumerated nodes + selected scope ss nodes' p'
    | .error _ _ => 0

namespace QueryRun

def selected (scope : Scope) (r : QueryRun) : Nat :=
  Eval.selected scope r.query.segments [scope.start r.query.anchor r.current] r.start

/-- The run returns between two counts of visits, and charges what it selects. -/
def ChargesWithin (scope : Scope) (first last : Nat) (r : QueryRun) : Prop :=
  ∃ nodes p, Eval.query scope r.query r.current r.start = .ok nodes p ∧ first ≤ r.start.visited ∧
    r.start.visited + r.selected scope ≤ p.visited ∧ p.visited ≤ last

theorem ChargesWithin.weaken {scope : Scope} {first last first' last' : Nat} {r : QueryRun}
    (charges : r.ChargesWithin scope first last) (earlier : first' ≤ first) (later : last ≤ last') :
    r.ChargesWithin scope first' last' := by
  obtain ⟨nodes, p, run, after, charged, before⟩ := charges
  exact ⟨nodes, p, run, by omega, charged, by omega⟩

end QueryRun

namespace Eval

section

variable (options : Options)

theorem visited_congruence (k : Nat) :
    Congruence options options fun m _ => Preserves (fun p => k ≤ p.visited) m := by
  refine Preserves.congruence (fun count p u p' above run => ?_) fun _ _ _ p b p' above run => ?_
  · obtain ⟨-, rfl⟩ := visit_eq_ok.mp run
    exact Nat.le_add_right_of_le above
  · obtain ⟨p?, log, m, -, -, rfl⟩ := runPattern_eq_ok.mp run
    exact above

theorem limit_congruence : Congruence options options fun m _ =>
    Preserves (fun p => p.visited ≤ options.maxNodesVisited) m := by
  refine Preserves.congruence (fun count p u p' _ run => ?_) fun _ _ _ p b p' within run => ?_
  · obtain ⟨small, rfl⟩ := visit_eq_ok.mp run
    exact small
  · obtain ⟨p?, log, m, -, -, rfl⟩ := runPattern_eq_ok.mp run
    exact within

end

/-- What a computation charges covers `own`, and besides all that is selected by the runs it makes. -/
def Covers (scope : Scope) {α : Type} (own : α → Nat) (m : Eval α)
    (runs : Progress → List QueryRun) : Prop :=
  ∀ p a p', m p = .ok a p' →
    p.visited + own a + ((runs p).map (QueryRun.selected scope)).sum ≤ p'.visited ∧
    ∀ r ∈ runs p, r.ChargesWithin scope p.visited p'.visited

namespace Covers

variable {scope : Scope} {α β : Type} {m : Eval α} {f : α → Eval β} {own : α → Nat}
  {own' : β → Nat} {runs : Progress → List QueryRun}

theorem alone (charges : ∀ p a p', m p = .ok a p' → p.visited + own a ≤ p'.visited) :
    Covers scope own m fun _ => [] :=
  fun p a p' run => ⟨by simpa using charges p a p' run, by simp⟩

theorem bind {next : α → Progress → List QueryRun} (first : Covers scope own m runs)
    (rest : ∀ a, Covers scope (fun b => own' b - own a) (f a) (next a)) :
    Covers scope own' (m >>= f) (Account.queryRuns.bind m runs next) := by
  intro p b p' run
  obtain ⟨a, middle, here, there⟩ := EStateM.bind_eq_ok.mp run
  obtain ⟨charged, within⟩ := first p a middle here
  obtain ⟨charged', within'⟩ := rest a middle b p' there
  simp only at charged'
  simp only [Account.bind, here, Account.queryRuns, List.map_append, List.sum_append]
  refine ⟨by omega, fun r member => ?_⟩
  rcases List.mem_append.mp member with member | member
  · exact (within r member).weaken (Nat.le_refl _) (by omega)
  · exact (within' r member).weaken (by omega) (Nat.le_refl _)

theorem before (first : Covers scope own m runs)
    (rest : ∀ a, Covers scope (fun b => own' b - own a) (f a) fun _ => []) :
    Covers scope own' (m >>= f) runs := by
  intro p b p' run
  have whole := first.bind rest p b p' run
  obtain ⟨a, middle, here, -⟩ := EStateM.bind_eq_ok.mp run
  simpa only [Account.bind, here, Account.queryRuns, List.append_nil] using whole

theorem quiet (monotone : ∀ k, Preserves (fun p => k ≤ p.visited) m) :
    Covers scope (fun _ => 0) m fun _ => [] :=
  alone fun p a p' run => monotone p.visited p a p' (Nat.le_refl _) run

theorem pure (a : α) : Covers scope (fun _ => 0) (Pure.pure a) fun _ => [] :=
  quiet fun _ => .pure a

theorem visit (count : Nat) :
    Covers scope (fun _ => count) (Eval.visit scope.options count) fun _ => [] := by
  refine alone fun p u p' run => ?_
  obtain ⟨-, rfl⟩ := visit_eq_ok.mp run
  exact Nat.le_refl _

theorem checkDepth (depth : Nat) :
    Covers scope (fun _ => 0) (Eval.checkDepth scope.options depth) fun _ => [] :=
  quiet fun _ => .checkDepth scope.options depth

theorem append {first second : Eval (List Node)} {runs' : Progress → List QueryRun} {k l : Nat}
    (here : Covers scope (fun ns => ns.length + k) first runs)
    (more : Covers scope (fun ns => ns.length + l) second runs') :
    Covers scope (fun ns => ns.length + (k + l)) (do
      let here ← first
      let more ← second
      return here ++ more) (Account.queryRuns.bind first runs fun _ => runs') := by
  refine here.bind fun ns => more.before fun ms => alone fun p ls p' run => ?_
  cases run
  simp only [List.length_append]
  omega

theorem nil (k : Nat) : Covers scope (fun ns => ns.length + k * 0) (Pure.pure [] : Eval (List Node))
    fun _ => [] :=
  alone fun p ns p' run => by cases run; exact Nat.le_refl _

theorem each {use : α → Eval (List Node)} {noted : α → Progress → List QueryRun} {k : Nat}
    (uses : ∀ a, Covers scope (fun ns => ns.length + k) (use a) (noted a)) (as : List α) :
    Covers scope (fun ns => ns.length + k * as.length) (flatMap use as)
      (Account.queryRuns.each use noted as) := by
  induction as with
  | nil => exact nil k
  | cons a as ih =>
    rw [List.length_cons, Nat.mul_succ, Nat.add_comm]
    exact (uses a).append ih

theorem charged (nodes : List Node) :
    Covers scope List.length (Eval.charged scope.options nodes) fun _ => [] := by
  refine (visit nodes.length).before fun _ => alone fun p ns p' run => ?_
  cases run
  simp

theorem keep {test : Node → Eval Bool} {noted : Node → Progress → List QueryRun}
    (tests : ∀ n, Covers scope (fun _ => 0) (test n) (noted n)) (ns : List Node) :
    Covers scope List.length (Eval.keep scope.options test ns)
      (Account.queryRuns.charged scope.options test noted ns) := by
  induction ns with
  | nil => exact nil 0
  | cons n ns ih =>
    have here : Covers scope (fun _ => 1) (do
        Eval.visit scope.options 1
        test n) (Account.queryRuns.bind (Eval.visit scope.options 1) (fun _ => []) fun _ => noted n) :=
      (visit 1).bind fun _ => tests n
    rw [Eval.keep, ← bind_assoc]
    refine here.bind fun kept => ih.before fun more => alone fun p ls p' run => ?_
    cases run
    cases kept <;> simp only [Bool.false_eq_true, if_true, if_false, List.length_cons] <;> omega

theorem descended {use : Node → Eval (List Node)} {noted : Node → Progress → List QueryRun}
    (uses : ∀ n, Covers scope List.length (use n) (noted n)) (nodes : List Node) :
    Covers scope (fun ns => ns.length + nodes.length) (flatMap (useVisited scope.options use) nodes)
      (Account.queryRuns.descended scope.options use noted nodes) := by
  have visited (n : Node) : Covers scope (fun ns => ns.length + 1) (useVisited scope.options use n)
      (Account.queryRuns.bind (Eval.checkDepth scope.options n.location.length) (fun _ => []) fun _ =>
        Account.queryRuns.bind (Eval.visit scope.options 1) (fun _ => []) fun _ => noted n) :=
    (checkDepth _).bind fun _ => (visit 1).bind fun _ => uses n
  have whole := each visited nodes
  rw [Nat.one_mul] at whole
  exact whole

theorem join {first next : List QueryRun} {p middle p' : Progress}
    (within : ∀ r ∈ first, r.ChargesWithin scope p.visited middle.visited)
    (within' : ∀ r ∈ next, r.ChargesWithin scope middle.visited p'.visited)
    (later : p.visited ≤ middle.visited) (later' : middle.visited ≤ p'.visited) :
    ∀ r ∈ first ++ next, r.ChargesWithin scope p.visited p'.visited := by
  intro r member
  rcases List.mem_append.mp member with member | member
  · exact (within r member).weaken (Nat.le_refl _) later'
  · exact (within' r member).weaken later (Nat.le_refl _)

mutual

theorem query : ∀ (q : Query) (current : Node),
    Covers scope (fun _ => 0) (Eval.query scope q current)
      (Account.queryRuns.query scope q current)
  | .mk anchor ss, current => by
    intro p ns p' run
    have inside := run
    rw [query_eq] at inside
    obtain ⟨charged, within⟩ := segments ss _ p ns p' inside
    have own : QueryRun.selected scope ⟨.mk anchor ss, current, p⟩ =
        selected scope ss [scope.start anchor current] p := rfl
    simp only [Account.queryRuns_query, List.map_cons, List.sum_cons, own]
    have itself : QueryRun.ChargesWithin scope p.visited p'.visited ⟨.mk anchor ss, current, p⟩ :=
      ⟨ns, p', run, Nat.le_refl _, Nat.le_trans (Nat.le_add_right _ _) charged, Nat.le_refl _⟩
    exact ⟨by omega, List.forall_mem_cons.mpr ⟨itself, within⟩⟩

theorem segments : ∀ (ss : List Segment) (nodes : List Node) p ns p',
    Eval.segments scope ss nodes p = .ok ns p' →
    p.visited + selected scope ss nodes p +
      ((Account.queryRuns.segments scope ss nodes p).map (QueryRun.selected scope)).sum ≤ p'.visited ∧
    ∀ r ∈ Account.queryRuns.segments scope ss nodes p, r.ChargesWithin scope p.visited p'.visited
  | [], nodes, p, ns, p', run => by
    rw [Eval.segments] at run
    cases run
    simp [selected, Account.segments, Account.queryRuns]
  | s :: ss, nodes, p, ns, p', run => by
    rw [Eval.segments] at run
    obtain ⟨nodes', middle, here, rest⟩ := EStateM.bind_eq_ok.mp run
    obtain ⟨charged, within⟩ := segment s nodes p nodes' middle here
    obtain ⟨charged', within'⟩ := segments ss nodes' middle ns p' rest
    simp only at charged
    simp only [selected, Account.segments, Account.bind, here]
    refine ⟨?_, join within within' (by omega) (by omega)⟩
    simp only [Account.queryRuns, List.map_append, List.sum_append] at *
    omega

theorem segment : ∀ (s : Segment) (nodes : List Node),
    Covers scope (fun ns => ns.length + s.enumerated nodes) (Eval.segment scope s nodes)
      (Account.queryRuns.segment scope s nodes)
  | .child ss, nodes => by
    rw [Eval.segment, Account.segment, Segment.enumerated]
    have whole := each (selectors ss) nodes (k := 0)
    rwa [Nat.zero_mul] at whole
  | .descendant ss, nodes => by
    rw [segment_descendant, Account.segment, Segment.enumerated]
    exact descended (selectors ss) _

theorem selectors : ∀ (ss : List Selector) (n : Node),
    Covers scope List.length (Eval.selectors scope ss n) (Account.queryRuns.selectors scope ss n)
  | [], n => by
    rw [Eval.selectors, Account.selectors]
    exact nil 0
  | s :: ss, n => by
    rw [Eval.selectors, Account.selectors]
    exact (selector s n).append (k := 0) (l := 0) (selectors ss n)

theorem selector : ∀ (s : Selector) (n : Node),
    Covers scope List.length (Eval.selector scope s n) (Account.queryRuns.selector scope s n)
  | .name _, n | .wildcard, n | .index _, n | .slice _ _ _, n => by
    simp only [Eval.selector, Account.selector]
    exact charged _
  | .filter c, n => by
    rw [Eval.selector, Account.selector]
    exact keep (fun child => condition c child) n.children

theorem condition : ∀ (c : Condition) (current : Node),
    Covers scope (fun _ => 0) (Eval.condition scope c current)
      (Account.queryRuns.condition scope c current)
  | .any cs, current => by
    rw [Eval.condition, Account.condition]
    exact anyHolds cs current
  | .all cs, current => by
    rw [Eval.condition, Account.condition]
    exact allHold cs current
  | .negation c, current => by
    rw [Eval.condition, Account.condition]
    exact (condition c current).before fun _ => .pure _
  | .compare operator left right, current => by
    rw [Eval.condition, Account.condition]
    refine (operand left current).bind fun l => (operand right current).before fun r => ?_
    exact quiet fun k => (visited_congruence scope.options k).compare operator l r
  | .selects q, current => by
    rw [Eval.condition, Account.condition]
    exact (query q current).before fun _ => .pure _
  | .call f as, current => by
    rw [Eval.condition, Account.condition]
    refine (arguments f as f.parameters current).before fun passed => ?_
    exact (quiet fun k => (visited_congruence scope.options k).apply f passed).before fun _ => .pure _

theorem anyHolds : ∀ (cs : List Condition) (current : Node),
    Covers scope (fun _ => 0) (Eval.anyHolds scope cs current)
      (Account.queryRuns.anyHolds scope cs current)
  | [], current => by
    rw [Eval.anyHolds, Account.anyHolds]
    exact .pure false
  | c :: cs, current => by
    rw [Eval.anyHolds, Account.anyHolds]
    refine (condition c current).bind fun holds => ?_
    cases holds with
    | true => exact .pure true
    | false => exact anyHolds cs current

theorem allHold : ∀ (cs : List Condition) (current : Node),
    Covers scope (fun _ => 0) (Eval.allHold scope cs current)
      (Account.queryRuns.allHold scope cs current)
  | [], current => by
    rw [Eval.allHold, Account.allHold]
    exact .pure true
  | c :: cs, current => by
    rw [Eval.allHold, Account.allHold]
    refine (condition c current).bind fun holds => ?_
    cases holds with
    | true => exact allHold cs current
    | false => exact .pure false

theorem operand : ∀ (o : Operand) (current : Node),
    Covers scope (fun _ => 0) (Eval.operand scope o current)
      (Account.queryRuns.operand scope o current)
  | .literal v, current => by
    rw [Eval.operand, Account.operand]
    exact .pure _
  | .query q, current => by
    rw [Eval.operand, Account.operand]
    exact (query q current).before fun _ => .pure _
  | .call f as, current => by
    rw [Eval.operand, Account.operand]
    exact (arguments f as f.parameters current).before fun passed =>
      quiet fun k => (visited_congruence scope.options k).apply f passed

theorem arguments (f : Function) : ∀ (as : List Argument) (types : List DeclaredType) (current : Node),
    Covers scope (fun _ => 0) (Eval.arguments scope f types as current)
      (Account.queryRuns.arguments scope types as current)
  | [], [], current => by
    simp only [Eval.arguments, Account.arguments]
    exact .pure []
  | [], type :: types, current => by
    simp only [Eval.arguments, Account.arguments]
    exact quiet fun k => (visited_congruence scope.options k).throw _
  | a :: as, [], current => by
    simp only [Eval.arguments, Account.arguments]
    exact quiet fun k => (visited_congruence scope.options k).throw _
  | a :: as, type :: types, current => by
    rw [Eval.arguments, Account.arguments]
    exact (argument a type current).bind fun _ => (arguments f as types current).before fun _ => .pure _

theorem argument : ∀ (a : Argument) (type : DeclaredType) (current : Node),
    Covers scope (fun _ => 0) (Eval.argument scope type a current)
      (Account.queryRuns.argument scope type a current)
  | .literal v, type, current => by
    cases type <;> simp only [Eval.argument, Account.argument] <;> exact .pure _
  | .query q, type, current => by
    have inside := query q current
    cases type <;> simp only [Eval.argument, Account.argument] <;> exact inside.before fun _ => .pure _
  | .condition c, type, current => by
    have inside := condition c current
    cases c with
    | call f as =>
      have passed := arguments f as f.parameters current
      cases type with
      | logical =>
        simp only [Eval.argument, Account.argument]
        exact inside.before fun _ => .pure _
      | _ =>
        simp only [Eval.argument, Account.argument]
        exact passed.before fun ps =>
          (quiet fun k => (visited_congruence scope.options k).apply f ps).before fun _ => .pure _
    | _ =>
      cases type <;> simp only [Eval.argument, Account.argument] <;>
        exact inside.before fun _ => .pure _

end

end Covers

theorem length_le_selected {scope : Scope} {ss : List Segment} {nodes ns : List Node} {p p' : Progress}
    (some : ss ≠ []) (run : segments scope ss nodes p = .ok ns p') :
    ns.length ≤ selected scope ss nodes p := by
  induction ss generalizing nodes p with
  | nil => contradiction
  | cons s ss ih =>
    rw [segments] at run
    obtain ⟨nodes', middle, here, rest⟩ := EStateM.bind_eq_ok.mp run
    simp only [selected, here]
    by_cases last : ss = []
    · subst last
      rw [segments] at rest
      cases rest
      omega
    · have := ih last rest
      omega

end Eval

namespace Query

def runs (q : Query) (document : Value) (options : Options) : List QueryRun :=
  Account.queryRuns.query ⟨document, options⟩ q (.root document) {}

/-- The limit on visits bounds all that an evaluation selected. -/
structure WithinBudget (q : Query) (document : Value) (options : Options) (nodes : List Node)
    (p : Progress) : Prop where
  limit : p.visited ≤ options.maxNodesVisited
  itself : QueryRun.selected ⟨document, options⟩ ⟨q, .root document, {}⟩ ≤ p.visited
  each : ∀ r ∈ q.runs document options, r.ChargesWithin ⟨document, options⟩ 0 p.visited
  together : ((q.runs document options).map (QueryRun.selected ⟨document, options⟩)).sum ≤ p.visited
  results : q.segments ≠ [] → nodes.length ≤ options.maxNodesVisited

theorem evaluate_withinBudget {q : Query} {document : Value} {options : Options} {nodes : List Node}
    {p : Progress} (nonneg : 0 ≤ options.maxNodesVisited)
    (run : q.evaluate document options = .ok nodes p) : q.WithinBudget document options nodes p := by
  have limit : p.visited ≤ options.maxNodesVisited :=
    (Eval.limit_congruence options).query q (.root document) {} nodes p nonneg run
  obtain ⟨charged, within⟩ := Eval.Covers.query q (.root document) {} nodes p run
  obtain ⟨anchor, ss⟩ := q
  have itself : QueryRun.ChargesWithin ⟨document, options⟩ 0 p.visited
      ⟨.mk anchor ss, .root document, {}⟩ :=
    within _ (by rw [Account.queryRuns_query]; exact List.mem_cons_self)
  obtain ⟨_, _, again, -, own, -⟩ := itself
  cases run.symm.trans again
  have own : QueryRun.selected ⟨document, options⟩ ⟨.mk anchor ss, .root document, {}⟩ ≤ p.visited :=
    Nat.le_trans (Nat.le_add_left _ _) own
  refine ⟨limit, own, within, Nat.le_trans (Nat.le_add_left _ _) charged, fun some => ?_⟩
  have inside := run
  rw [evaluate, Eval.query_eq] at inside
  have shown := Nat.le_trans (Eval.length_le_selected some inside) own
  omega

/-- The limit is reached: two members are tested, and for each of them a query selects one node. -/
theorem evaluate_withinBudget_filter :
    let item : Value := .object [("a", .bool true)]
    let document : Value := .array [item, item]
    let q : Query := .mk .root [.child [.filter (.selects (.mk .current [.child [.name "a"]]))]]
    let options : Options := { maxNodesVisited := 4 }
    0 ≤ options.maxNodesVisited ∧ ∃ nodes p, q.evaluate document options = .ok nodes p ∧
      nodes.map Node.path = ["$[0]", "$[1]"] ∧ q.WithinBudget document options nodes p := by
  intro item document q options
  have selected : Eval.paths? (q.evaluate document options) = some ["$[0]", "$[1]"] := by
    decide +kernel
  obtain ⟨nodes, p, run, paths⟩ := Eval.exists_of_paths? selected
  have nonneg : 0 ≤ options.maxNodesVisited := by decide
  exact ⟨nonneg, nodes, p, run, paths, evaluate_withinBudget nonneg run⟩

end Query

end JsonPath
