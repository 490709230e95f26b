import JsonPath.Proofs.Evaluation.Returns
import JsonPath.Proofs.Value.Document

namespace JsonPath

namespace Value

theorem at?_append (v : Value) (l l' : Location) : v.at? (l ++ l') = (v.at? l).bind (·.at? l') := by
  induction l generalizing v with
  | nil => rfl
  | cons s l ih =>
    simp only [List.cons_append, at?]
    cases v.child? s with
    | none => rfl
    | some w => exact ih w

theorem at?_concat (v : Value) (l : Location) (s : Step) :
    v.at? (l ++ [s]) = (v.at? l).bind (·.child? s) := by
  simp [at?_append, at?]

theorem Everywhere.of_at? {P : Value → Prop} {v w : Value} {l : Location} (everywhere : v.Everywhere P)
    (place : v.at? l = some w) : w.Everywhere P := by
  intro l' u deeper
  refine everywhere (l ++ l') u ?_
  rw [at?_append, place]
  exact deeper

end Value

/-- A node stands for a place in a document and holds what is there. -/
def Node.Located (document : Value) (n : Node) : Prop := document.at? n.location = some n.value

namespace Node.Located

variable {document : Value} {n m : Node}

theorem root (document : Value) : (Node.root document).Located document := rfl

theorem step (located : n.Located document) {s : Step} {v : Value} (child : n.value.child? s = some v) :
    Node.Located document ⟨v, n.location ++ [s]⟩ := by
  simp only [Located] at located ⊢
  rw [Value.at?_concat, located]
  exact child

theorem child? (located : n.Located document) {s : Step} (child : n.child? s = some m) :
    m.Located document := by
  simp only [Node.child?, Option.map_eq_some_iff] at child
  obtain ⟨v, child, rfl⟩ := child
  exact located.step child

theorem children (names : ∀ members, n.value = .object members → (members.map Prod.fst).Nodup)
    (located : n.Located document) (member : m ∈ n.children) : m.Located document := by
  unfold Node.children at member
  split at member
  · -- With two members of one name the step would lead to the first of them.
    next members value =>
    obtain ⟨⟨name, v⟩, inside, rfl⟩ := List.mem_map.mp member
    refine located.step ?_
    rw [value]
    exact lookup_eq_some_of_mem (names members value) inside
  · next items value =>
    obtain ⟨⟨v, i⟩, inside, rfl⟩ := List.mem_map.mp member
    refine located.step ?_
    rw [value]
    simpa [Value.child?, Value.item?] using List.mem_zipIdx_iff_getElem?.mp inside
  · contradiction

theorem item? (located : n.Located document) {index : Int} (item : n.item? index = some m) :
    m.Located document := by
  unfold Node.item? at item
  split at item
  · exact located.child? item
  · contradiction

theorem slice (located : n.Located document) {start stop step : Option Int}
    (member : m ∈ n.slice start stop step) : m.Located document := by
  unfold Node.slice at member
  split at member
  · next items value =>
    simp only [List.mem_filterMap] at member
    obtain ⟨i, -, selected⟩ := member
    split at selected
    · contradiction
    · next inRange =>
      simp only [Option.map_eq_some_iff] at selected
      obtain ⟨v, stored, rfl⟩ := selected
      refine located.step ?_
      rw [value]
      simpa [Value.child?, Value.item?, inRange] using stored
  · contradiction

end Node.Located

namespace Eval

section

variable {scope : Scope} (document : scope.document.IsDocument)

include document

theorem selector_located (s : Selector) {n : Node} (located : n.Located scope.document) :
    Returns (fun _ => True) (selector scope s n) fun nodes => ∀ m ∈ nodes, m.Located scope.document := by
  have excess : ∀ x : Excess, (fun _ => True) (EvalError.excess x) := fun _ => trivial
  have names (members : List (String × Value)) (value : n.value = .object members) :
      (members.map Prod.fst).Nodup :=
    document.names n.location (.object members) (by rw [← value]; exact located)
  cases s with
  | name name =>
    rw [selector]
    exact .charged excess _ fun m member => located.child? (Option.mem_toList.mp member)
  | wildcard =>
    rw [selector]
    exact .charged excess _ fun m member => located.children names member
  | index index =>
    rw [selector]
    exact .charged excess _ fun m member => located.item? (Option.mem_toList.mp member)
  | slice start stop step =>
    rw [selector]
    exact .charged excess _ fun m member => located.slice member
  | filter c =>
    rw [selector]
    exact .keep excess _ (fun m member => located.children names member) fun _ _ p => by
      split <;> trivial

theorem selectors_located (ss : List Selector) {n : Node} (located : n.Located scope.document) :
    Returns (fun _ => True) (selectors scope ss n) fun nodes =>
      ∀ m ∈ nodes, m.Located scope.document := by
  induction ss with
  | nil =>
    rw [selectors]
    exact .pure (by simp)
  | cons s ss ih =>
    rw [selectors]
    exact .append (selector_located document s located) ih

theorem segment_located (s : Segment) {nodes : List Node}
    (located : ∀ n ∈ nodes, n.Located scope.document) :
    Returns (fun _ => True) (segment scope s nodes) fun nodes =>
      ∀ m ∈ nodes, m.Located scope.document := by
  cases s with
  | child ss =>
    rw [segment]
    exact .flatMap fun n member => selectors_located document ss (located n member)
  | descendant ss =>
    rw [segment]
    refine .flatMap fun n member => ?_
    refine .descend (fun _ => trivial) scope.options (I := fun n => n.Located scope.document) ?_
      (fun d located => selectors_located document ss located) n.value n.location (located n member)
    intro d located m member
    refine located.children (fun members value => ?_) member
    exact document.names d.location (.object members) (by rw [← value]; exact located)

theorem segments_located (ss : List Segment) {nodes : List Node}
    (located : ∀ n ∈ nodes, n.Located scope.document) :
    Returns (fun _ => True) (segments scope ss nodes) fun nodes =>
      ∀ m ∈ nodes, m.Located scope.document := by
  induction ss generalizing nodes with
  | nil =>
    rw [segments]
    exact .pure located
  | cons s ss ih =>
    rw [segments]
    exact (segment_located document s located).bind fun nodes located => ih located

theorem query_located (q : Query) {current : Node} (located : current.Located scope.document) :
    Returns (fun _ => True) (query scope q current) fun nodes =>
      ∀ m ∈ nodes, m.Located scope.document := by
  obtain ⟨anchor, ss⟩ := q
  cases anchor with
  | root =>
    rw [query]
    exact segments_located document ss (by simp [Node.Located.root])
  | current =>
    rw [query]
    exact segments_located document ss (by simpa using located)

end

end Eval

end JsonPath
