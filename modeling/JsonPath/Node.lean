import JsonPath.Location
import JsonPath.Slice

namespace JsonPath

/-- A value together with its place in the document. -/
structure Node where
  value : Value
  location : Location

namespace Node

def root (document : Value) : Node := ⟨document, []⟩

def path (n : Node) : String := n.location.text

def child? (n : Node) (step : Step) : Option Node :=
  (n.value.child? step).map fun v => ⟨v, n.location ++ [step]⟩

def children (n : Node) : List Node :=
  match n.value with
  | .object members => members.map fun (name, v) => ⟨v, n.location ++ [.member name]⟩
  | .array items => items.zipIdx.map fun (v, i) => ⟨v, n.location ++ [.index i]⟩
  | _ => []

theorem size_children {n : Node} (container : n.value.isContainer) :
    Value.sizeItems (n.children.map value) + 1 = n.value.size := by
  obtain ⟨v, location⟩ := n
  cases v with
  | array items =>
    have values : (items.zipIdx.map fun p => p.1) = items := List.zipIdx_map_fst 0 items
    simp [children, Value.size, values, Function.comp_def]
  | object members => simp [children, Value.size, Value.sizeMembers_eq, Function.comp_def]
  | _ => contradiction

/-- The children that are no containers of these locations. -/
def childrenOutside (n : Node) (locations : List Location) : List Node :=
  n.children.filter fun child => !(child.value.isContainer && locations.contains child.location)

theorem size_childrenOutside_le (n : Node) (locations : List Location) :
    Value.sizeItems ((n.childrenOutside locations).map value) ≤ Value.sizeItems (n.children.map value) := by
  unfold childrenOutside
  induction n.children with
  | nil => exact Nat.le_refl _
  | cons child rest ih =>
    rw [List.filter_cons, List.map_cons, Value.sizeItems]
    split
    · rw [List.map_cons, Value.sizeItems]
      exact Nat.add_le_add_left ih _
    · exact Nat.le_trans ih (Nat.le_add_left _ _)

/-- The item at an index, which counts from the end if it is negative. -/
def item? (n : Node) (index : Int) : Option Node :=
  match n.value with
  | .array items => n.child? (.index (Slice.fromEnd items.length index))
  | _ => none

def slice (n : Node) (start stop step : Option Int) : List Node :=
  match n.value with
  | .array items =>
    let stored := items.toArray
    (Slice.indices items.length start stop step).toList.filterMap fun i =>
      if i < 0 then none else stored[i.toNat]?.map fun v => ⟨v, n.location ++ [.index i]⟩
  | _ => []

end Node

end JsonPath
