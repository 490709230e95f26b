import JsonPath.Proofs.Evaluation.Congruence
import JsonPath.Proofs.Evaluation.Located
import JsonPath.Proofs.Path.Parse

namespace JsonPath

namespace Value

/-- A step from a container leads to a member that it has or to an index within its range. -/
def Has : Value → Step → Prop
  | object members, .member name => name ∈ members.map Prod.fst
  | array items, .index i => 0 ≤ i ∧ i < items.length
  | _, _ => False

theorem has_of_child? {v w : Value} {s : Step} (child : v.child? s = some w) : v.Has s := by
  cases s with
  | member name =>
    cases v with
    | object members =>
      obtain ⟨before, after, rfl, -⟩ := List.lookup_eq_some_iff.mp child
      simp [Has]
    | _ => simp [child?, member?] at child
  | index i =>
    cases v with
    | array items =>
      simp only [child?, item?, Option.ite_none_left_eq_some] at child
      obtain ⟨nonnegative, stored⟩ := child
      obtain ⟨inRange, -⟩ := List.getElem?_eq_some_iff.mp stored
      simp only [Has]
      omega
    | _ => simp [child?, item?] at child

theorem has_of_at? {document v : Value} {before after : Location} {s : Step}
    (place : document.at? (before ++ s :: after) = some v) :
    ∃ container, document.at? before = some container ∧ container.Has s := by
  rw [at?_append] at place
  obtain ⟨container, here, next⟩ := Option.bind_eq_some_iff.mp place
  obtain ⟨child, next, -⟩ := Option.bind_eq_some_iff.mp next
  exact ⟨container, here, has_of_child? next⟩

theorem IsDocument.isSafe {document v : Value} (shape : document.IsDocument) {l : Location}
    (place : document.at? l = some v) : ∀ s ∈ l, s.IsSafe := by
  intro s member
  obtain ⟨before, after, rfl⟩ := List.append_of_mem member
  obtain ⟨container, here, has⟩ := has_of_at? place
  cases s with
  | member name => trivial
  | index i =>
    cases container with
    | array items =>
      have short : items.length < 2 ^ 53 := shape.lengths before (.array items) here
      simp only [Has] at has
      simp only [Step.IsSafe]
      omega
    | _ => exact has.elim

end Value

namespace Eval

theorem selector_step {scope : Scope} {n : Node} {s : Step} {v : Value} {p : Progress}
    (child : n.value.child? s = some v) (enough : p.visited + 1 ≤ scope.options.maxNodesVisited) :
    selector scope s.selector n p =
      .ok [⟨v, n.location ++ [s]⟩] { p with visited := p.visited + 1 } := by
  have charge : charged scope.options [⟨v, n.location ++ [s]⟩] p =
      .ok [⟨v, n.location ++ [s]⟩] { p with visited := p.visited + 1 } := by
    have within : ¬ scope.options.maxNodesVisited < p.visited + 1 := by omega
    simp [charged, visit, within, bind, EStateM.bind, pure, EStateM.pure]
  cases s with
  | member name =>
    have selected : n.child? (.member name) = some ⟨v, n.location ++ [.member name]⟩ := by
      simp [Node.child?, child]
    simpa [Step.selector, selector, selected] using charge
  | index i =>
    have has := Value.has_of_child? child
    have selected : n.item? i = some ⟨v, n.location ++ [.index i]⟩ := by
      cases value : n.value with
      | array items =>
        rw [value] at has child
        have fromEnd : Slice.fromEnd items.length i = i := by
          simp only [Value.Has] at has
          rw [Slice.fromEnd, if_neg (by omega)]
        simp [Node.item?, value, fromEnd, Node.child?, child]
      | _ =>
        rw [value] at has
        exact has.elim
    simpa [Step.selector, selector, selected] using charge

theorem segments_location {scope : Scope} {l : Location} {n : Node} {v : Value} {p : Progress}
    (place : n.value.at? l = some v)
    (enough : p.visited + l.length ≤ scope.options.maxNodesVisited) :
    segments scope (l.map Step.segment) [n] p =
      .ok [⟨v, n.location ++ l⟩] { p with visited := p.visited + l.length } := by
  induction l generalizing n p with
  | nil =>
    obtain rfl : n.value = v := by simpa [Value.at?] using place
    simp [segments, pure, EStateM.pure]
  | cons s l ih =>
    obtain ⟨w, child, place⟩ := Option.bind_eq_some_iff.mp place
    simp only [List.length_cons] at enough
    have first : selector scope s.selector n p =
        .ok [⟨w, n.location ++ [s]⟩] { p with visited := p.visited + 1 } :=
      selector_step child (by omega)
    have total : p.visited + 1 + l.length = p.visited + (l.length + 1) := by omega
    have rest : segments scope (l.map Step.segment) [⟨w, n.location ++ [s]⟩]
        { p with visited := p.visited + 1 } =
        .ok [⟨v, n.location ++ s :: l⟩] { p with visited := p.visited + (l.length + 1) } := by
      rw [ih place (by simp only; omega)]
      simp [total]
    simp [segments, segment, Step.segment, flatMap, selectors, first, rest, bind, EStateM.bind, pure,
      EStateM.pure]

end Eval

namespace Query

/-- A node that a query selects stands for a place that the document has, and its normalized path is
parsed, with any nesting allowed, as one query that selects that node and no other. -/
theorem evaluate_path {q : Query} {document : Value} {options : Options} {nodes : List Node}
    {p : Progress} (shape : document.IsDocument)
    (run : q.evaluate document options = .ok nodes p) {n : Node} (member : n ∈ nodes) :
    (∃ q', (∀ limit : Int, 1 ≤ limit → parse n.path limit = .ok q') ∧
      ∀ options' : Options, n.location.length ≤ options'.maxNodesVisited →
        ∃ p', q'.evaluate document options' = .ok [n] p') ∧
    document.at? n.location = some n.value ∧
    ∀ before s after, n.location = before ++ s :: after →
      ∃ container, document.at? before = some container ∧ container.Has s := by
  have located : n.Located document :=
    (@Eval.query_located ⟨document, options⟩ shape q _ (Node.Located.root document)).of_ok run n member
  -- The place is in the document, so its indices are those that a query can name.
  refine ⟨⟨n.location.query, fun limit => Location.parse_text (shape.isSafe located), ?_⟩, located, ?_⟩
  · intro options' enough
    have selected : Eval.segments ⟨document, options'⟩ (n.location.map Step.segment) [.root document]
        {} = .ok [n] { visited := 0 + n.location.length } :=
      Eval.segments_location located (by simpa using enough)
    exact ⟨_, selected⟩
  · intro before s after split
    rw [Node.Located, split] at located
    exact Value.has_of_at? located

theorem evaluate_path_descendant :
    ∃ document : Value, document.IsDocument ∧
      ∃ q nodes p, Query.evaluate q document {} = .ok nodes p ∧ ∃ n ∈ nodes,
        n.path = "$['it\\'s\\n'][1]" ∧
        (∃ q', (∀ limit : Int, 1 ≤ limit → parse n.path limit = .ok q') ∧
          ∀ options' : Options, n.location.length ≤ options'.maxNodesVisited →
            ∃ p', q'.evaluate document options' = .ok [n] p') ∧
        document.at? n.location = some n.value ∧
        ∀ before s after, n.location = before ++ s :: after →
          ∃ container, document.at? before = some container ∧ container.Has s := by
  let items : Value := .array [.int 7, .int 8]
  let document : Value := .object [("it's\n", items)]
  let q : Query := .mk .root [.descendant [.index (-1)]]
  have itemsShape : items.IsDocument := by
    refine .array (by decide) fun v member => ?_
    rcases List.mem_pair.mp member with rfl | rfl <;> exact .scalar rfl
  have shape : document.IsDocument := by
    refine .object (by decide) fun p member => ?_
    rwa [List.mem_singleton.mp member]
  have selected : Eval.paths? (q.evaluate document {}) = some ["$['it\\'s\\n'][1]"] := by decide +kernel
  obtain ⟨nodes, p, run, paths⟩ := Eval.exists_of_paths? selected
  obtain ⟨n, rfl, path⟩ := List.map_eq_singleton_iff.mp paths
  exact ⟨document, shape, q, _, p, run, n, List.mem_singleton.mpr rfl, path,
    evaluate_path shape run (List.mem_singleton.mpr rfl)⟩

end Query

end JsonPath
