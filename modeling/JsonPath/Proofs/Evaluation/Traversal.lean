import JsonPath.Proofs.Evaluation.Congruence
import JsonPath.Proofs.Evaluation.Listing
import JsonPath.Query.Parser
import Mathlib.Algebra.BigOperators.Group.List.Basic
import Mathlib.Algebra.GroupWithZero.Nat

namespace JsonPath

namespace Eval

section

variable {options : Options} {use : Node → Eval (List Node)}

def useCharged (options : Options) (use : Node → Eval (List Node)) (n : Node) : Eval (List Node) := do
  visit options 1
  use n

theorem throw_bind {α β : Type} (e : EvalError) (f : α → Eval β) :
    ((throw e : Eval α) >>= f) = throw e := rfl

theorem useVisited_shallow {n : Node} (shallow : n.location.length ≤ options.maxDepth) :
    useVisited options use n = useCharged options use n := by
  rw [useVisited, checkDepth, if_neg (by omega), pure_bind, useCharged]

theorem useVisited_deep {n : Node} (deep : options.maxDepth < n.location.length) :
    useVisited options use n = throw (.excess (.depth options.maxDepth)) := by
  rw [useVisited, checkDepth, if_pos deep, throw_bind]

theorem flatMap_congr {α : Type} {f g : α → Eval (List Node)} {as : List α}
    (same : ∀ a ∈ as, f a = g a) : flatMap f as = flatMap g as := by
  induction as with
  | nil => rfl
  | cons a as ih =>
    obtain ⟨here, more⟩ := List.forall_mem_cons.mp same
    rw [flatMap, flatMap, here, ih more]

theorem descend_eq_preorder (n : Node) :
    descend options use n.location n.value = flatMap (useVisited options use) n.preorder :=
  descend_eq_flatMap options use n.value n.location

theorem flatMap_flatMap {α β : Type} (f : β → Eval (List Node)) (g : α → List β) (as : List α) :
    flatMap (fun a => flatMap f (g a)) as = flatMap f (as.flatMap g) := by
  induction as with
  | nil => rfl
  | cons a as ih => rw [flatMap, ih, List.flatMap_cons, flatMap_append]

theorem segment_descendant (scope : Scope) (ss : List Selector) (nodes : List Node) :
    segment scope (.descendant ss) nodes =
      flatMap (useVisited scope.options fun n => selectors scope ss n) (nodes.flatMap Node.preorder) := by
  rw [segment, ← flatMap_flatMap]
  congr 1
  funext n
  exact descend_eq_preorder n

theorem descend_of_shallow {n : Node}
    (shallow : ∀ m ∈ n.preorder, m.location.length ≤ options.maxDepth) :
    descend options use n.location n.value = flatMap (useCharged options use) n.preorder := by
  rw [descend_eq_preorder]
  exact flatMap_congr fun m member => useVisited_shallow (shallow m member)

theorem descend_of_deep {n m : Node} {before after : List Node}
    (split : n.preorder = before ++ m :: after)
    (shallow : ∀ k ∈ before, k.location.length ≤ options.maxDepth)
    (deep : options.maxDepth < m.location.length) :
    descend options use n.location n.value = (do
      let _ ← flatMap (useCharged options use) before
      throw (.excess (.depth options.maxDepth))) := by
  have first : flatMap (useVisited options use) before = flatMap (useCharged options use) before :=
    flatMap_congr fun k member => useVisited_shallow (shallow k member)
  rw [descend_eq_preorder, split, flatMap_append, flatMap, useVisited_deep deep, first]
  simp only [throw_bind]

/-- A use of nodes gives `give`, charges `cost` with the node itself, and does nothing else. -/
def Charges (options : Options) (use : Node → Eval (List Node)) (give : Node → List Node)
    (cost : Node → Nat) : Prop :=
  ∀ n p ns p', useVisited options use n p = .ok ns p' ↔
    n.location.length ≤ options.maxDepth ∧ (p.visited + cost n : Nat) ≤ options.maxNodesVisited ∧
      give n = ns ∧ { p with visited := p.visited + cost n } = p'

variable {give : Node → List Node} {cost : Node → Nat}

theorem Charges.flatMap (charges : Charges options use give cost) {nodes ns : List Node}
    {p p' : Progress} (inside : p.visited ≤ options.maxNodesVisited) :
    flatMap (useVisited options use) nodes p = .ok ns p' ↔
      (∀ n ∈ nodes, n.location.length ≤ options.maxDepth) ∧
      (p.visited + (nodes.map cost).sum : Nat) ≤ options.maxNodesVisited ∧
      nodes.flatMap give = ns ∧ { p with visited := p.visited + (nodes.map cost).sum } = p' := by
  induction nodes generalizing p ns p' with
  | nil => simp [Eval.flatMap, pure, EStateM.pure, inside]
  | cons n nodes ih =>
    simp only [Eval.flatMap, EStateM.bind_eq_ok, charges n]
    constructor
    · rintro ⟨-, -, ⟨shallow, small, rfl, rfl⟩, more, last, rest, result⟩
      obtain ⟨shallow', small', rfl, rfl⟩ := (ih small).mp rest
      cases result
      refine ⟨List.forall_mem_cons.mpr ⟨shallow, shallow'⟩, ?_, rfl, ?_⟩
      · simpa [Nat.add_assoc] using small'
      · simp [Nat.add_assoc]
    · rintro ⟨shallow, small, rfl, rfl⟩
      obtain ⟨here, more⟩ := List.forall_mem_cons.mp shallow
      simp only [List.map_cons, List.sum_cons, ← Nat.add_assoc] at small
      have first : (p.visited + cost n : Nat) ≤ options.maxNodesVisited := by omega
      refine ⟨give n, _, ⟨here, first, rfl, rfl⟩, nodes.flatMap give, _,
        (ih first).mpr ⟨more, small, rfl, rfl⟩, ?_⟩
      simp [pure, EStateM.pure, Nat.add_assoc]

theorem Charges.descend (charges : Charges options use give cost) {n : Node} {ns : List Node}
    {p p' : Progress} : descend options use n.location n.value p = .ok ns p' ↔
      (∀ m ∈ n.preorder, m.location.length ≤ options.maxDepth) ∧
      (p.visited + (n.preorder.map cost).sum : Nat) ≤ options.maxNodesVisited ∧
      n.preorder.flatMap give = ns ∧
      { p with visited := p.visited + (n.preorder.map cost).sum } = p' := by
  rw [descend_eq_preorder]
  by_cases inside : p.visited ≤ options.maxNodesVisited
  · exact charges.flatMap inside
  · -- The node itself is charged, so a count beyond the limit leaves no run.
    constructor
    · intro run
      rw [n.preorder_eq, Eval.flatMap] at run
      obtain ⟨here, middle, first, -⟩ := EStateM.bind_eq_ok.mp run
      obtain ⟨-, small, -⟩ := (charges n p here middle).mp first
      omega
    · rintro ⟨-, small, -⟩
      omega

theorem useVisited_eq_ok {n : Node} {ns : List Node} {p p' : Progress} :
    useVisited options use n p = .ok ns p' ↔
      n.location.length ≤ options.maxDepth ∧ (p.visited + 1 : Nat) ≤ options.maxNodesVisited ∧
      use n { p with visited := p.visited + 1 } = .ok ns p' := by
  simp only [useVisited, EStateM.bind_eq_ok, checkDepth_eq_ok, visit_eq_ok]
  constructor
  · rintro ⟨_, _, ⟨shallow, rfl⟩, _, _, ⟨small, rfl⟩, run⟩
    exact ⟨shallow, small, run⟩
  · rintro ⟨shallow, small, run⟩
    exact ⟨(), p, ⟨shallow, rfl⟩, (), _, ⟨small, rfl⟩, run⟩

def record (n : Node) : Eval (List Node) := return [n]

theorem charges_record : Charges options record (fun n => [n]) fun _ => 1 := by
  intro n p ns p'
  simp only [useVisited_eq_ok, record, pure, EStateM.pure, EStateM.Result.ok.injEq]

theorem charges_children : Charges options (fun n => charged options n.children) Node.children
    fun n => 1 + n.children.length := by
  intro n p ns p'
  simp only [useVisited_eq_ok, charged, EStateM.bind_eq_ok, visit_eq_ok]
  constructor
  · rintro ⟨shallow, -, -, -, ⟨small, rfl⟩, result⟩
    cases result
    rw [Nat.add_assoc] at small
    exact ⟨shallow, small, rfl, by rw [Nat.add_assoc]⟩
  · rintro ⟨shallow, small, rfl, rfl⟩
    rw [← Nat.add_assoc] at small
    refine ⟨shallow, by omega, (), _, ⟨small, rfl⟩, ?_⟩
    simp [pure, EStateM.pure, Nat.add_assoc]

theorem descend_record {n : Node} {ns : List Node} {p p' : Progress} :
    descend options record n.location n.value p = .ok ns p' ↔
      (∀ m ∈ n.preorder, m.location.length ≤ options.maxDepth) ∧
      (p.visited + n.preorder.length : Nat) ≤ options.maxNodesVisited ∧ n.preorder = ns ∧
      { p with visited := p.visited + n.preorder.length } = p' := by
  rw [charges_record.descend]
  simp

/-- With visits enough, a node that lies too deep is the only reason to stop, and the nodes before it
have been charged by then. -/
theorem descend_record_deep {n m : Node} {before after : List Node} {p : Progress}
    (enough : (p.visited + n.preorder.length : Nat) ≤ options.maxNodesVisited)
    (split : n.preorder = before ++ m :: after)
    (shallow : ∀ k ∈ before, k.location.length ≤ options.maxDepth)
    (deep : options.maxDepth < m.location.length) :
    descend options record n.location n.value p = .error (.excess (.depth options.maxDepth))
      { p with visited := p.visited + before.length } := by
  have fewer : (p.visited + before.length : Nat) ≤ options.maxNodesVisited := by
    rw [split, List.length_append] at enough
    omega
  have used : flatMap (useVisited options record) before p =
      .ok before { p with visited := p.visited + before.length } := by
    rw [charges_record.flatMap (by omega)]
    simpa using ⟨shallow, fewer⟩
  have charged : flatMap (useVisited options record) before =
      flatMap (useCharged options record) before :=
    flatMap_congr fun k member => useVisited_shallow (shallow k member)
  rw [descend_of_deep split shallow deep, ← charged]
  simp [bind, EStateM.bind, used, EStateM.throw_run]

theorem exists_first_deep {nodes : List Node} {m : Node} (member : m ∈ nodes)
    (deep : options.maxDepth < m.location.length) :
    ∃ before first after, nodes = before ++ first :: after ∧
      (∀ k ∈ before, k.location.length ≤ options.maxDepth) ∧
      options.maxDepth < first.location.length := by
  cases found : nodes.find? fun k => decide (options.maxDepth < k.location.length) with
  | none => exact absurd (decide_eq_true deep) (List.find?_eq_none.mp found m member)
  | some first =>
    obtain ⟨isDeep, before, after, split, shallow⟩ := List.find?_eq_some_iff_append.mp found
    exact ⟨before, first, after, split, fun k member => by simpa using shallow k member,
      of_decide_eq_true isDeep⟩

/-- What a descent from a node does: it uses the nodes of the subtree, each once, in preorder. -/
structure DescendsInPreorder (options : Options) (n : Node) : Prop where
  listing : n.preorder = n :: n.children.flatMap Node.preorder
  once : (n.preorder.map Node.location).Nodup
  all : ∀ m, m ∈ n.preorder ↔ n.Reaches m
  runs : ∀ ns p p', descend options record n.location n.value p = .ok ns p' ↔
    (∀ m ∈ n.preorder, m.location.length ≤ options.maxDepth) ∧
    (p.visited + n.preorder.length : Nat) ≤ options.maxNodesVisited ∧ n.preorder = ns ∧
    { p with visited := p.visited + n.preorder.length } = p'
  /-- Whatever the nodes are used for, each is charged and used in its turn. -/
  uses : (∀ m ∈ n.preorder, m.location.length ≤ options.maxDepth) → ∀ use,
    descend options use n.location n.value = flatMap (useCharged options use) n.preorder
  tooDeep_iff : ∀ p, (p.visited + n.preorder.length : Nat) ≤ options.maxNodesVisited →
    ((∃ p', descend options record n.location n.value p =
      .error (.excess (.depth options.maxDepth)) p') ↔
      ∃ m ∈ n.preorder, options.maxDepth < m.location.length)
  /-- Those before the first node that lies too deep have been used when the descent stops. -/
  stops : ∀ before m after, n.preorder = before ++ m :: after →
    (∀ k ∈ before, k.location.length ≤ options.maxDepth) → options.maxDepth < m.location.length →
    ∀ use, descend options use n.location n.value = (do
      let _ ← flatMap (useCharged options use) before
      throw (.excess (.depth options.maxDepth)))

theorem descendsInPreorder (options : Options) {n : Node}
    (names : n.value.Everywhere Value.NamesDistinct) : DescendsInPreorder options n where
  listing := n.preorder_eq
  once := Node.preorder_nodup names
  all _ := Node.mem_preorder_iff names
  runs _ _ _ := descend_record
  uses shallow _ := descend_of_shallow shallow
  tooDeep_iff p enough := by
    constructor
    · rintro ⟨p', run⟩
      by_contra none
      have shallow : ∀ m ∈ n.preorder, m.location.length ≤ options.maxDepth :=
        fun m member => Int.not_lt.mp fun deep => none ⟨m, member, deep⟩
      have finished := descend_record.mpr ⟨shallow, enough, rfl, rfl⟩
      rw [run] at finished
      contradiction
    · rintro ⟨m, member, deep⟩
      obtain ⟨before, first, after, split, shallow, deep⟩ := exists_first_deep member deep
      exact ⟨_, descend_record_deep enough split shallow deep⟩
  stops _ _ _ split shallow deep _ := descend_of_deep split shallow deep

end

end Eval

namespace Query

def everyDescendant : Query := .mk .root [.descendant [.wildcard]]

/-- A document has every node but the root just once among those that the query selects. -/
structure SelectsEveryDescendant (document : Value) (options : Options) : Prop where
  once : ∀ nodes p, everyDescendant.evaluate document options = .ok nodes p →
    (nodes.map Node.location).Nodup ∧ ∀ m, m ∈ nodes ↔ m.Located document ∧ m.location ≠ []
  /-- A visit for each node and one more for each but the root are enough. -/
  returns : (∀ m ∈ (Node.root document).preorder, m.location.length ≤ options.maxDepth) →
    ((Node.root document).preorder.length + (Node.root document).preorder.tail.length : Nat) ≤
      options.maxNodesVisited →
    ∃ nodes p, everyDescendant.evaluate document options = .ok nodes p

section

variable {document : Value} {options : Options}

theorem evaluate_everyDescendant : everyDescendant.evaluate document options =
    Eval.descend options (fun n => Eval.charged options n.children) (Node.root document).location
      (Node.root document).value {} := by
  have children (n : Node) : Eval.selectors ⟨document, options⟩ [.wildcard] n =
      Eval.charged options n.children := by
    simp [Eval.selectors, Eval.selector]
  simp [everyDescendant, evaluate, Eval.query, Eval.segments, Eval.segment, Eval.flatMap_singleton,
    children]

theorem evaluate_everyDescendant_eq_ok {nodes : List Node} {p : Progress} :
    everyDescendant.evaluate document options = .ok nodes p ↔
      (∀ m ∈ (Node.root document).preorder, m.location.length ≤ options.maxDepth) ∧
      ((Node.root document).preorder.length + (Node.root document).preorder.tail.length : Nat) ≤
        options.maxNodesVisited ∧
      (Node.root document).preorder.flatMap Node.children = nodes ∧
      { visited := (Node.root document).preorder.length +
        (Node.root document).preorder.tail.length } = p := by
  have total : ((Node.root document).preorder.map fun n => 1 + n.children.length).sum =
      (Node.root document).preorder.length + (Node.root document).preorder.tail.length := by
    rw [← (Node.flatMap_children_perm _).length_eq, List.length_flatMap, List.sum_map_add]
    simp
  rw [evaluate_everyDescendant, Eval.charges_children.descend, total]
  simp

theorem selects_everyDescendant (names : document.Everywhere Value.NamesDistinct) :
    SelectsEveryDescendant document options where
  once nodes p run := by
    obtain ⟨-, -, rfl, -⟩ := evaluate_everyDescendant_eq_ok.mp run
    have selected := (Node.root document).flatMap_children_perm
    have apart : ((Node.root document).preorder.map Node.location).Nodup := Node.preorder_nodup names
    have listing : (Node.root document).preorder =
        Node.root document :: (Node.root document).preorder.tail := by
      rw [Node.preorder_eq, List.tail_cons]
    rw [listing, List.map_cons, List.nodup_cons] at apart
    refine ⟨(selected.map _).nodup_iff.mpr apart.2, fun m => ?_⟩
    have located : m ∈ (Node.root document).preorder ↔ m.Located document := by
      rw [Node.mem_preorder_iff names]
      simp [Node.Reaches, Node.Located, Node.root]
    rw [selected.mem_iff, ← located, listing, List.tail_cons, List.mem_cons]
    constructor
    · intro member
      exact ⟨.inr member, fun top => apart.1 (List.mem_map.mpr ⟨m, member, top⟩)⟩
    · rintro ⟨rfl | member, below⟩
      · contradiction
      · exact member
  returns shallow enough :=
    ⟨_, _, evaluate_everyDescendant_eq_ok.mpr ⟨shallow, enough, rfl, rfl⟩⟩

end

end Query

/-- A descent from any node of a document is in preorder, and so the query for all descendants selects
every node but the root just once. -/
theorem Value.descents_inPreorder {document : Value} (names : document.Everywhere NamesDistinct)
    (options : Options) :
    (∀ n : Node, n.Located document → Eval.DescendsInPreorder options n) ∧
    Query.SelectsEveryDescendant document options :=
  ⟨fun _ located => Eval.descendsInPreorder options (names.of_at? located),
    Query.selects_everyDescendant names⟩

/-- An array with an object in it, in an object. -/
theorem Value.descents_inPreorder_nested :
    let document : Value := .object [("a", .array [.int 1, .object [("b", .null)]]), ("c", .bool true)]
    Query.parse "$..*" 64 = .ok Query.everyDescendant ∧
      (Node.root document).preorder.map Node.path =
        ["$", "$['a']", "$['a'][0]", "$['a'][1]", "$['a'][1]['b']", "$['c']"] ∧
      Eval.DescendsInPreorder {} (Node.root document) ∧
      ∃ nodes p, Query.everyDescendant.evaluate document {} = .ok nodes p ∧
        (nodes.map Node.location).Nodup ∧ ∀ m, m ∈ nodes ↔ m.Located document ∧ m.location ≠ [] := by
  intro document
  have shape : document.IsDocument := by
    refine .object (by decide) fun p member => ?_
    rcases List.mem_pair.mp member with rfl | rfl
    · refine .array (by decide) fun v member => ?_
      rcases List.mem_pair.mp member with rfl | rfl
      · exact .scalar rfl
      · refine .object (by decide) fun p member => ?_
        rw [List.mem_singleton.mp member]
        exact .scalar rfl
    · exact .scalar rfl
  obtain ⟨descends, selects⟩ := Value.descents_inPreorder shape.names {}
  obtain ⟨nodes, p, run⟩ := selects.returns (by decide) (by decide)
  exact ⟨rfl, by decide +kernel, descends _ rfl, nodes, p, run, selects.once nodes p run⟩

end JsonPath
