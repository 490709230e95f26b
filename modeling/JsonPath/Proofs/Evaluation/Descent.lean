import JsonPath.Evaluation
import JsonPath.Proofs.Value.Reordered

namespace JsonPath

namespace Value

mutual

/-- A value and all values in it with their locations, each before its children, in document order. -/
def preorder (location : Location) : Value → List Node
  | .array items => ⟨.array items, location⟩ :: preorderItems location 0 items
  | .object members => ⟨.object members, location⟩ :: preorderMembers location members
  | v => [⟨v, location⟩]

def preorderItems (location : Location) (index : Nat) : List Value → List Node
  | [] => []
  | v :: vs => v.preorder (location ++ [.index index]) ++ preorderItems location (index + 1) vs

def preorderMembers (location : Location) : List (String × Value) → List Node
  | [] => []
  | (name, v) :: ms => v.preorder (location ++ [.member name]) ++ preorderMembers location ms

end

theorem preorderItems_eq_flatMap (location : Location) (index : Nat) (vs : List Value) :
    preorderItems location index vs =
      (vs.zipIdx index).flatMap fun p => p.1.preorder (location ++ [.index p.2]) := by
  induction vs generalizing index with
  | nil => rfl
  | cons v vs ih => rw [preorderItems, ih, List.zipIdx_cons, List.flatMap_cons]

theorem preorderMembers_eq_flatMap (location : Location) (ms : List (String × Value)) :
    preorderMembers location ms = ms.flatMap fun m => m.2.preorder (location ++ [.member m.1]) := by
  induction ms with
  | nil => rfl
  | cons m ms ih =>
    obtain ⟨name, v⟩ := m
    rw [preorderMembers, ih, List.flatMap_cons]

end Value

namespace Node

variable {n m : Node}

def preorder (n : Node) : List Node := n.value.preorder n.location

theorem preorder_eq (n : Node) : n.preorder = n :: n.children.flatMap preorder := by
  obtain ⟨v, location⟩ := n
  cases v with
  | array items =>
    simp only [preorder, Value.preorder, Value.preorderItems_eq_flatMap, children, List.flatMap_map]
  | object members =>
    simp only [preorder, Value.preorder, Value.preorderMembers_eq_flatMap, children, List.flatMap_map]
  | _ => rfl

theorem exists_step_of_mem_children (member : m ∈ n.children) : ∃ s, m.location = n.location ++ [s] := by
  unfold children at member
  split at member
  · obtain ⟨⟨name, v⟩, -, rfl⟩ := List.mem_map.mp member
    exact ⟨.member name, rfl⟩
  · obtain ⟨⟨v, i⟩, -, rfl⟩ := List.mem_map.mp member
    exact ⟨.index i, rfl⟩
  · contradiction

theorem length_location_of_mem_children (member : m ∈ n.children) :
    m.location.length = n.location.length + 1 := by
  obtain ⟨s, step⟩ := exists_step_of_mem_children member
  rw [step, List.length_append, List.length_singleton]

theorem children_eq_nil (scalar : n.value.isContainer = false) : n.children = [] := by
  obtain ⟨v, location⟩ := n
  cases v with
  | array items => contradiction
  | object members => contradiction
  | _ => rfl

theorem sizeOf_lt_of_mem_children (member : m ∈ n.children) : sizeOf m.value < sizeOf n.value := by
  unfold children at member
  split at member
  · next members value =>
    obtain ⟨⟨name, v⟩, inside, rfl⟩ := List.mem_map.mp member
    have smaller := List.sizeOf_lt_of_mem inside
    simp only [value, Value.object.sizeOf_spec, Prod.mk.sizeOf_spec] at smaller ⊢
    omega
  · next items value =>
    obtain ⟨⟨v, i⟩, inside, rfl⟩ := List.mem_map.mp member
    have smaller := List.sizeOf_lt_of_mem (List.mem_of_getElem? (List.mem_zipIdx_iff_getElem?.mp inside))
    simp only [value, Value.array.sizeOf_spec] at smaller ⊢
    omega
  · contradiction

theorem induction {P : Node → Prop} (step : ∀ n : Node, (∀ m ∈ n.children, P m) → P n) (n : Node) :
    P n :=
  step n fun m member =>
    have := sizeOf_lt_of_mem_children member
    induction step m
termination_by sizeOf n.value

theorem forall_mem_preorder {I : Node → Prop} (children : ∀ n, I n → ∀ m ∈ n.children, I m) (holds : I n) :
    ∀ m ∈ n.preorder, I m := by
  induction n using induction with
  | step n ih =>
    rw [preorder_eq]
    intro m member
    rcases List.mem_cons.mp member with rfl | below
    · exact holds
    · obtain ⟨child, inside, listed⟩ := List.mem_flatMap.mp below
      exact ih child inside (children n holds child inside) m listed

theorem childrenOutside_eq {locations : List Location}
    (above : ∀ l ∈ locations, l.length ≤ n.location.length) : n.childrenOutside locations = n.children := by
  apply List.filter_eq_self.mpr
  intro child member
  have apart : child.location ∉ locations := by
    intro inside
    have short := above _ inside
    rw [length_location_of_mem_children member] at short
    omega
  simp [apart]

end Node

namespace Eval

theorem flatMap_singleton {α : Type} (f : α → Eval (List Node)) (a : α) : flatMap f [a] = f a := by
  simp [flatMap]

theorem flatMap_append {α : Type} (f : α → Eval (List Node)) (as bs : List α) :
    flatMap f (as ++ bs) = (do
      let here ← flatMap f as
      let more ← flatMap f bs
      return here ++ more) := by
  induction as with
  | nil => simp [flatMap]
  | cons a as ih => simp only [List.cons_append, flatMap, ih, bind_assoc, pure_bind, List.append_assoc]

def Turn.nodes : Turn → List Node
  | enter n => n.preorder
  | leave _ => []

/-- What a descent keeps: each active container is left by a later turn, and each node to be entered lies
deeper than all containers that are left after it. -/
structure Descending (active : List Location) (stack : List Turn) : Prop where
  left : ∀ l ∈ active, .leave l ∈ stack
  deeper : stack.Pairwise fun turn later =>
    ∀ n l, turn = .enter n → later = .leave l → l.length < n.location.length

namespace Descending

variable {active : List Location} {location : Location} {n : Node} {stack : List Turn}

theorem start (n : Node) : Descending [] [.enter n] := ⟨by simp, List.pairwise_singleton _ _⟩

theorem afterLeave (descending : Descending active (.leave location :: stack)) :
    Descending (active.removeAll [location]) stack := by
  refine ⟨?_, descending.deeper.of_cons⟩
  intro l member
  obtain ⟨inside, other⟩ : l ∈ active ∧ l ≠ location := by
    simpa [List.removeAll, List.mem_filter] using member
  rcases List.mem_cons.mp (descending.left l inside) with same | later
  · exact absurd (Turn.leave.inj same) other
  · exact later

theorem left_later (descending : Descending active (.enter n :: stack)) {l : Location}
    (member : l ∈ active) : .leave l ∈ stack := by
  rcases List.mem_cons.mp (descending.left l member) with same | later
  · contradiction
  · exact later

theorem afterScalar (descending : Descending active (.enter n :: stack)) : Descending active stack :=
  ⟨fun _ member => descending.left_later member, descending.deeper.of_cons⟩

theorem above (descending : Descending active (.enter n :: stack)) {l : Location}
    (later : .leave l ∈ stack) : l.length < n.location.length :=
  (List.pairwise_cons.mp descending.deeper).1 _ later n l rfl rfl

theorem childrenOutside_eq (descending : Descending active (.enter n :: stack)) :
    n.childrenOutside (n.location :: active) = n.children := by
  apply Node.childrenOutside_eq
  intro l member
  rcases List.mem_cons.mp member with rfl | member
  · exact Nat.le_refl _
  · exact Nat.le_of_lt (descending.above (descending.left_later member))

theorem afterContainer (descending : Descending active (.enter n :: stack)) :
    Descending (n.location :: active) (n.children.map .enter ++ .leave n.location :: stack) := by
  constructor
  · intro l member
    rcases List.mem_cons.mp member with rfl | member
    · simp
    · simp [descending.left_later member]
  · rw [List.pairwise_append, List.pairwise_cons]
    refine ⟨?_, ⟨?_, descending.deeper.of_cons⟩, ?_⟩
    · rw [List.pairwise_map, List.pairwise_iff_forall_sublist]
      intro child later _ m l _ same
      contradiction
    · intro later _ m l same
      contradiction
    · intro turn entered later member m l here there
      obtain ⟨child, inside, rfl⟩ := List.mem_map.mp entered
      cases here
      rw [Node.length_location_of_mem_children inside]
      subst there
      rcases List.mem_cons.mp member with same | member
      · cases same
        omega
      · have above := descending.above member
        omega

end Descending

section

variable (options : Options) (use : Node → Eval (List Node))

def useVisited (n : Node) : Eval (List Node) := do
  checkDepth options n.location.length
  visit options 1
  use n

/-- What is on the stack of a descent is what remains of the preorder. -/
theorem traverse_eq_flatMap {active : List Location} {stack : List Turn}
    (descending : Descending active stack) :
    traverse options use active stack = flatMap (useVisited options use) (stack.flatMap Turn.nodes) := by
  induction active, stack using traverse.induct with
  | case1 active => rw [traverse, List.flatMap_nil, flatMap]
  | case2 active location stack ih =>
    rw [traverse, ih descending.afterLeave, List.flatMap_cons, Turn.nodes, List.nil_append]
  | case3 active n stack ihContainer ihScalar =>
    have rest : (if n.value.isContainer then
          traverse options use (n.location :: active) (push (.leave n.location :: stack)
            ((n.childrenOutside (n.location :: active)).reverse.map .enter))
        else traverse options use active stack) =
        flatMap (useVisited options use) (n.children.flatMap Node.preorder ++ stack.flatMap Turn.nodes) := by
      cases container : n.value.isContainer with
      | true =>
        have pushed : push (.leave n.location :: stack)
            ((n.childrenOutside (n.location :: active)).reverse.map .enter) =
            n.children.map .enter ++ .leave n.location :: stack := by
          rw [push_eq, descending.childrenOutside_eq, ← List.map_reverse, List.reverse_reverse]
        rw [if_pos rfl, ihContainer container (pushed ▸ descending.afterContainer), pushed]
        simp [List.flatMap_map, Turn.nodes]
      | false =>
        rw [if_neg Bool.false_ne_true, ihScalar descending.afterScalar, n.children_eq_nil container]
        rfl
    rw [traverse, rest, List.flatMap_cons, Turn.nodes, n.preorder_eq, List.cons_append, flatMap]
    simp only [useVisited, bind_assoc]

theorem descend_eq_flatMap (v : Value) (location : Location) :
    descend options use location v = flatMap (useVisited options use) (v.preorder location) := by
  rw [descend, traverse_eq_flatMap options use (.start _), List.flatMap_singleton]
  rfl

end

end Eval

namespace Value

mutual

theorem Reordered.preorder : ∀ {v w : Value}, v.Reordered w → ∀ location,
    Node.Permuted (v.preorder location) (w.preorder location)
  | .array vs, w, reordered, location => by
    obtain ⟨ws, rfl, items⟩ := Reordered.array_iff.mp reordered
    rw [Value.preorder, Value.preorder]
    exact (Node.Permuted.single reordered location).append
      (preorderItems_permuted items location 0)
  | .object ms, w, reordered, location => by
    obtain ⟨ns, ns', rfl, members, order, -⟩ := reordered.object_cases
    rw [Value.preorder, Value.preorder]
    refine (Node.Permuted.single reordered location).append
      ((preorderMembers_permuted members location).perm ?_)
    rw [preorderMembers_eq_flatMap, preorderMembers_eq_flatMap]
    exact order.flatMap_right _
  | .null, w, reordered, location => by
    rw [reordered.eq_of_scalar rfl]
    exact .single (.refl _) location
  | .bool b, w, reordered, location => by
    rw [reordered.eq_of_scalar rfl]
    exact .single (.refl _) location
  | .number n, w, reordered, location => by
    rw [reordered.eq_of_scalar rfl]
    exact .single (.refl _) location
  | .string s, w, reordered, location => by
    rw [reordered.eq_of_scalar rfl]
    exact .single (.refl _) location

theorem preorderItems_permuted : ∀ {vs ws : List Value}, List.Forall₂ Reordered vs ws →
    ∀ location index,
      Node.Permuted (preorderItems location index vs) (preorderItems location index ws)
  | [], ws, items, location, index => by
    rw [List.forall₂_nil_left_iff.mp items]
    exact .of_forall₂ .nil
  | v :: vs, ws, items, location, index => by
    obtain ⟨w, ws, here, more, rfl⟩ := List.forall₂_cons_left_iff.mp items
    rw [preorderItems, preorderItems]
    exact (here.preorder _).append (preorderItems_permuted more location (index + 1))

theorem preorderMembers_permuted : ∀ {ms ns : List (String × Value)}, MembersReordered ms ns →
    ∀ location, Node.Permuted (preorderMembers location ms) (preorderMembers location ns)
  | [], ns, members, location => by
    rw [List.forall₂_nil_left_iff.mp members]
    exact .of_forall₂ .nil
  | (name, v) :: ms, ns, members, location => by
    obtain ⟨⟨name', w⟩, ns, ⟨same, here⟩, more, rfl⟩ := List.forall₂_cons_left_iff.mp members
    simp only at same here
    subst same
    rw [preorderMembers, preorderMembers]
    exact (here.preorder _).append (preorderMembers_permuted more location)

end

end Value

end JsonPath
