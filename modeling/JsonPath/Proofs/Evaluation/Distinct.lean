import JsonPath.Proofs.Evaluation.Traversal
import JsonPath.Proofs.Slice.Loop

namespace JsonPath

namespace Segment

def isDescendant : Segment → Bool
  | child _ => false
  | descendant _ => true

@[simp]
theorem isDescendant_child (ss : List Selector) : (child ss).isDescendant = false := rfl

@[simp]
theorem isDescendant_descendant (ss : List Selector) : (descendant ss).isDescendant = true := rfl

end Segment

namespace Node

variable {n m : Node}

def Apart (nodes : List Node) : Prop := (nodes.map location).Nodup

theorem location_eq_of_mem_children {n' m' : Node} (member : m ∈ n.children)
    (member' : m' ∈ n'.children) (same : m.location = m'.location) : n.location = n'.location := by
  obtain ⟨s, step⟩ := exists_step_of_mem_children member
  obtain ⟨s', step'⟩ := exists_step_of_mem_children member'
  rw [step, step'] at same
  exact (List.append_inj' same rfl).1

section

variable (names : n.value.NamesDistinct)

include names

theorem mem_children_of_child? {s : Step} (child : n.child? s = some m) : m ∈ n.children := by
  obtain ⟨v, leads, rfl⟩ := Option.map_eq_some_iff.mp child
  exact (mem_children_iff names).mpr ⟨s, v, leads, rfl⟩

theorem mem_children_of_item? {index : Int} (item : n.item? index = some m) : m ∈ n.children := by
  unfold item? at item
  split at item
  · exact mem_children_of_child? names item
  · contradiction

theorem mem_children_of_slice {start stop step : Option Int} (member : m ∈ n.slice start stop step) :
    m ∈ n.children := by
  refine (mem_children_iff names).mpr ?_
  unfold slice at member
  split at member
  · next items value =>
    obtain ⟨i, -, selected⟩ := List.mem_filterMap.mp member
    split at selected
    · contradiction
    · next inRange =>
      obtain ⟨v, stored, rfl⟩ := Option.map_eq_some_iff.mp selected
      refine ⟨.index i, v, ?_, rfl⟩
      rw [value]
      simpa [Value.child?, Value.item?, inRange] using stored
  · contradiction

end

structure Spread (n : Node) (ns : List Node) : Prop where
  apart : Apart ns
  children : ns ⊆ n.children

end Node

namespace Slice

theorem indices_nodup (length : Nat) (start stop step : Option Int) :
    (indices length start stop step).toList.Nodup := by
  have follows := followsLoop length start stop step
  rcases lt_trichotomy (step.getD 1) 0 with negative | zero | positive
  · exact (follows.decreasing negative).imp fun less => ne_of_gt less
  · rw [follows.none zero]
    exact List.nodup_nil
  · exact (follows.increasing positive).imp fun less => ne_of_lt less

end Slice

namespace Node

variable {n : Node}

theorem Spread.nil : n.Spread [] := ⟨List.nodup_nil, List.nil_subset _⟩

theorem Spread.ofOption {m? : Option Node} (child : ∀ m, m? = some m → m ∈ n.children) :
    n.Spread m?.toList := by
  cases m? with
  | none => exact .nil
  | some m => exact ⟨List.nodup_singleton _, by simpa using child m rfl⟩

theorem spread_children (names : n.value.NamesDistinct) : n.Spread n.children :=
  ⟨children_nodup names, List.Subset.refl _⟩

theorem Spread.sublist {ns ms : List Node} (spread : n.Spread ms) (fewer : ns.Sublist ms) :
    n.Spread ns :=
  ⟨(fewer.map location).nodup spread.apart, List.Subset.trans fewer.subset spread.children⟩

theorem spread_slice (names : n.value.NamesDistinct) (start stop step : Option Int) :
    n.Spread (n.slice start stop step) := by
  refine ⟨?_, fun m member => mem_children_of_slice names member⟩
  obtain ⟨v, location⟩ := n
  cases v with
  | array items =>
    rw [Apart, map_location_slice]
    exact (Slice.indices_nodup items.length start stop step).map fun i j same => by simpa using same
  | _ => exact List.nodup_nil

end Node

namespace Eval

variable {scope : Scope} {options : Options} {nodes ns : List Node} {p p' : Progress}

theorem charged_eq_ok : charged options nodes p = .ok ns p' ↔
    (p.visited + nodes.length : Nat) ≤ options.maxNodesVisited ∧ nodes = ns ∧
      { p with visited := p.visited + nodes.length } = p' := by
  simp only [charged, EStateM.bind_eq_ok, visit_eq_ok]
  constructor
  · rintro ⟨-, -, ⟨small, rfl⟩, result⟩
    cases result
    exact ⟨small, rfl, rfl⟩
  · rintro ⟨small, rfl, rfl⟩
    exact ⟨(), _, ⟨small, rfl⟩, rfl⟩

theorem keep_sublist {test : Node → Eval Bool} (run : keep options test nodes p = .ok ns p') :
    ns.Sublist nodes := by
  induction nodes generalizing p ns with
  | nil =>
    cases run
    exact .slnil
  | cons n nodes ih =>
    obtain ⟨-, _, -, run⟩ := EStateM.bind_eq_ok.mp run
    obtain ⟨kept, _, -, run⟩ := EStateM.bind_eq_ok.mp run
    obtain ⟨more, _, rest, run⟩ := EStateM.bind_eq_ok.mp run
    cases run
    cases kept with
    | true => exact (ih rest).cons_cons n
    | false => exact (ih rest).cons n

theorem selector_spread {n : Node} (names : n.value.NamesDistinct) {s : Selector}
    (run : selector scope s n p = .ok ns p') : n.Spread ns := by
  cases s with
  | name name =>
    rw [selector] at run
    obtain ⟨-, rfl, -⟩ := charged_eq_ok.mp run
    exact .ofOption fun m child => Node.mem_children_of_child? names child
  | wildcard =>
    rw [selector] at run
    obtain ⟨-, rfl, -⟩ := charged_eq_ok.mp run
    exact Node.spread_children names
  | index index =>
    rw [selector] at run
    obtain ⟨-, rfl, -⟩ := charged_eq_ok.mp run
    exact .ofOption fun m item => Node.mem_children_of_item? names item
  | slice start stop step =>
    rw [selector] at run
    obtain ⟨-, rfl, -⟩ := charged_eq_ok.mp run
    exact Node.spread_slice names start stop step
  | filter c =>
    rw [selector] at run
    exact (Node.spread_children names).sublist (keep_sublist run)

theorem selectors_spread {n : Node} (names : n.value.NamesDistinct) {ss : List Selector}
    (single : ss.length = 1) (run : selectors scope ss n p = .ok ns p') : n.Spread ns := by
  obtain ⟨s, rfl⟩ := List.length_eq_one_iff.mp single
  rw [selectors] at run
  obtain ⟨here, _, first, run⟩ := EStateM.bind_eq_ok.mp run
  obtain ⟨more, _, rest, run⟩ := EStateM.bind_eq_ok.mp run
  rw [selectors] at rest
  cases rest
  cases run
  rw [List.append_nil]
  exact selector_spread names first

theorem flatMap_apart {f : Node → Eval (List Node)} (apart : Node.Apart nodes)
    (each : ∀ n ∈ nodes, ∀ p ns p', f n p = .ok ns p' → n.Spread ns)
    (run : flatMap f nodes p = .ok ns p') :
    Node.Apart ns ∧ ∀ m ∈ ns, ∃ n ∈ nodes, m ∈ n.children := by
  induction nodes generalizing p ns with
  | nil =>
    cases run
    exact ⟨List.nodup_nil, by simp⟩
  | cons n nodes ih =>
    obtain ⟨here, _, first, run⟩ := EStateM.bind_eq_ok.mp run
    obtain ⟨more, _, rest, run⟩ := EStateM.bind_eq_ok.mp run
    cases run
    obtain ⟨different, apart⟩ := List.nodup_cons.mp apart
    have spread : n.Spread here := each n (by simp) _ _ _ first
    obtain ⟨apart', below⟩ := ih apart (fun n member => each n (by simp [member])) rest
    constructor
    · rw [Node.Apart, List.map_append, List.nodup_append']
      refine ⟨spread.apart, apart', fun l inside inside' => different ?_⟩
      obtain ⟨m, member, rfl⟩ := List.mem_map.mp inside
      obtain ⟨m', member', same⟩ := List.mem_map.mp inside'
      obtain ⟨n', listed, child⟩ := below m' member'
      have parent := Node.location_eq_of_mem_children child (spread.children member) same
      exact List.mem_map.mpr ⟨n', listed, parent⟩
    · intro m member
      rcases List.mem_append.mp member with member | member
      · exact ⟨n, by simp, spread.children member⟩
      · obtain ⟨n', listed, child⟩ := below m member
        exact ⟨n', by simp [listed], child⟩

structure Scattered (nodes : List Node) : Prop where
  apart : Node.Apart nodes
  names : ∀ n ∈ nodes, n.value.Everywhere Value.NamesDistinct

theorem Scattered.step {f : Node → Eval (List Node)} (scattered : Scattered nodes)
    (each : ∀ n ∈ nodes, ∀ p ns p', f n p = .ok ns p' → n.Spread ns)
    (run : flatMap f nodes p = .ok ns p') :
    Scattered ns ∧ ∀ m ∈ ns, ∃ n ∈ nodes, m ∈ n.children := by
  obtain ⟨apart, below⟩ := flatMap_apart scattered.apart each run
  refine ⟨⟨apart, fun m member => ?_⟩, below⟩
  obtain ⟨n, listed, child⟩ := below m member
  have names := scattered.names n listed
  obtain ⟨s, v, leads, rfl⟩ := (Node.mem_children_iff (names [] _ rfl)).mp child
  exact names.child leads

theorem Scattered.child {ss : List Selector} (scattered : Scattered nodes) (single : ss.length = 1)
    (run : segment scope (.child ss) nodes p = .ok ns p') :
    Scattered ns ∧ ∀ m ∈ ns, ∃ n ∈ nodes, m ∈ n.children := by
  rw [segment] at run
  exact scattered.step
    (fun n listed p ns p' run => selectors_spread (scattered.names n listed [] _ rfl) single run) run

theorem Scattered.preorders {depth : Nat} (scattered : Scattered nodes)
    (level : ∀ n ∈ nodes, n.location.length = depth) : Scattered (nodes.flatMap Node.preorder) where
  apart := Node.flatMap_preorder_nodup scattered.names level scattered.apart
    fun n listed => Node.preorder_nodup (scattered.names n listed)
  names := by
    intro m member
    obtain ⟨n, listed, inside⟩ := List.mem_flatMap.mp member
    obtain ⟨l, -, place⟩ := (Node.mem_preorder_iff (scattered.names n listed)).mp inside
    exact (scattered.names n listed).of_at? place

theorem Scattered.descendant {depth : Nat} {ss : List Selector} (scattered : Scattered nodes)
    (level : ∀ n ∈ nodes, n.location.length = depth) (single : ss.length = 1)
    (run : segment scope (.descendant ss) nodes p = .ok ns p') : Scattered ns := by
  rw [segment_descendant] at run
  have all : Scattered (nodes.flatMap Node.preorder) := scattered.preorders level
  refine (all.step (fun n listed p ns p' run => ?_) run).1
  obtain ⟨-, -, run⟩ := useVisited_eq_ok.mp run
  exact selectors_spread (all.names n listed [] _ rfl) single run

theorem Scattered.children {ss : List Segment} (scattered : Scattered nodes)
    (single : ∀ s ∈ ss, s.selectors.length = 1) (children : ss.countP Segment.isDescendant = 0)
    (run : segments scope ss nodes p = .ok ns p') : Scattered ns := by
  induction ss generalizing nodes p with
  | nil =>
    rw [segments] at run
    cases run
    exact scattered
  | cons s ss ih =>
    obtain ⟨here, more⟩ := List.forall_mem_cons.mp single
    rw [segments] at run
    obtain ⟨middle, _, first, rest⟩ := EStateM.bind_eq_ok.mp run
    cases s with
    | child ss' => exact ih (scattered.child here first).1 more (by simpa using children) rest
    | descendant ss' => simp at children

/-- Nodes of one depth stay of one depth up to the descent, so their subtrees are disjoint when it
comes. -/
theorem Scattered.segments {ss : List Segment} {depth : Nat} (scattered : Scattered nodes)
    (level : ∀ n ∈ nodes, n.location.length = depth) (single : ∀ s ∈ ss, s.selectors.length = 1)
    (descents : ss.countP Segment.isDescendant ≤ 1) (run : segments scope ss nodes p = .ok ns p') :
    Scattered ns := by
  induction ss generalizing nodes depth p with
  | nil =>
    rw [Eval.segments] at run
    cases run
    exact scattered
  | cons s ss ih =>
    obtain ⟨here, more⟩ := List.forall_mem_cons.mp single
    rw [Eval.segments] at run
    obtain ⟨middle, _, first, rest⟩ := EStateM.bind_eq_ok.mp run
    cases s with
    | child ss' =>
      obtain ⟨scattered', below⟩ := scattered.child here first
      have level' : ∀ m ∈ middle, m.location.length = depth + 1 := by
        intro m member
        obtain ⟨n, listed, child⟩ := below m member
        obtain ⟨s, step⟩ := Node.exists_step_of_mem_children child
        rw [step, List.length_append, level n listed, List.length_singleton]
      exact ih scattered' level' more (by simpa using descents) rest
    | descendant ss' =>
      rw [List.countP_cons_of_pos (by simp)] at descents
      have none : ss.countP Segment.isDescendant = 0 := by omega
      exact (scattered.descendant level here first).children more none rest

end Eval

namespace Query

/-- With one selector in each segment and no more than one descent, a query selects no place twice. -/
theorem evaluate_nodup {q : Query} {document : Value} {options : Options} {nodes : List Node}
    {p : Progress} (names : document.Everywhere Value.NamesDistinct)
    (single : ∀ s ∈ q.segments, s.selectors.length = 1)
    (descents : q.segments.countP Segment.isDescendant ≤ 1)
    (run : q.evaluate document options = .ok nodes p) : (nodes.map Node.location).Nodup := by
  have start : Eval.Scattered [Node.root document] :=
    ⟨List.nodup_singleton _, fun n member => by rwa [List.mem_singleton.mp member]⟩
  have level : ∀ n ∈ [Node.root document], n.location.length = 0 := by
    intro n member
    rw [List.mem_singleton.mp member]
    rfl
  obtain ⟨anchor, ss⟩ := q
  cases anchor with
  | root => exact (start.segments level single descents run).apart
  | current => exact (start.segments level single descents run).apart

/-- A descent whose slices go backwards, below a member. -/
theorem evaluate_nodup_slice :
    let document : Value := .object [("a", .array [.int 1, .array [.int 2, .int 3]])]
    let q : Query := .mk .root [.child [.name "a"], .descendant [.slice none none (some (-1))]]
    document.Everywhere Value.NamesDistinct ∧ (∀ s ∈ q.segments, s.selectors.length = 1) ∧
      q.segments.countP Segment.isDescendant ≤ 1 ∧
      ∃ nodes p, q.evaluate document {} = .ok nodes p ∧
        nodes.map Node.path = ["$['a'][1]", "$['a'][0]", "$['a'][1][1]", "$['a'][1][0]"] ∧
        (nodes.map Node.location).Nodup := by
  intro document q
  have shape : document.IsDocument := by
    refine .object (by decide) fun m member => ?_
    rw [List.mem_singleton.mp member]
    refine .array (by decide) fun v member => ?_
    rcases List.mem_pair.mp member with rfl | rfl
    · exact .scalar rfl
    · refine .array (by decide) fun v member => ?_
      rcases List.mem_pair.mp member with rfl | rfl <;> exact .scalar rfl
  have single : ∀ s ∈ q.segments, s.selectors.length = 1 := by simp [q, segments, Segment.selectors]
  have descents : q.segments.countP Segment.isDescendant ≤ 1 := by decide
  have selected : Eval.paths? (q.evaluate document {}) =
      some ["$['a'][1]", "$['a'][0]", "$['a'][1][1]", "$['a'][1][0]"] := by
    decide +kernel
  obtain ⟨nodes, p, run, paths⟩ := Eval.exists_of_paths? selected
  exact ⟨shape.names, single, descents, nodes, p, run, paths,
    evaluate_nodup shape.names single descents run⟩

end Query

end JsonPath
