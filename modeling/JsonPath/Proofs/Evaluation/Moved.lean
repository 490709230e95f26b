import JsonPath.Proofs.Evaluation.Order
import JsonPath.Proofs.Evaluation.Traversal

namespace JsonPath

namespace Node

/-- The same node with a location put in front of its own. -/
def under (l : Location) (n : Node) : Node := ⟨n.value, l ++ n.location⟩

variable (l : Location) (n : Node)

@[simp]
theorem under_value : (n.under l).value = n.value := rfl

@[simp]
theorem under_location : (n.under l).location = l ++ n.location := rfl

@[simp]
theorem under_nil : n.under [] = n := rfl

theorem map_under_nil (ns : List Node) : ns.map (under []) = ns := List.map_id'' under_nil ns

theorem children_under : (n.under l).children = n.children.map (under l) := by
  obtain ⟨v, location⟩ := n
  cases v <;> simp [children, under]

theorem child?_under (s : Step) : (n.under l).child? s = (n.child? s).map (under l) := by
  simp [child?, under, Function.comp_def]

theorem item?_under (index : Int) : (n.under l).item? index = (n.item? index).map (under l) := by
  unfold item?
  rw [under_value]
  split
  · exact child?_under l n _
  · rfl

theorem slice_under (start stop step : Option Int) :
    (n.under l).slice start stop step = (n.slice start stop step).map (under l) := by
  unfold slice
  rw [under_value]
  split
  · simp only [List.map_filterMap]
    congr 1
    funext i
    split
    · rfl
    · simp [under, Function.comp_def]
  · rfl

theorem preorder_under : (n.under l).preorder = n.preorder.map (under l) := by
  induction n using induction with
  | step n ih =>
    rw [preorder_eq, preorder_eq, List.map_cons, children_under, List.flatMap_map, List.map_flatMap]
    congr 1
    exact List.flatMap_congr ih

end Node

namespace Denoted

def under (l : Location) : Denoted → Denoted
  | nothing => nothing
  | value v origin => value v (origin.map (l ++ ·))

variable (l : Location) (d e : Denoted)

theorem ofNodes_under (ns : List Node) : ofNodes (ns.map (Node.under l)) = (ofNodes ns).under l := by
  match ns with
  | [] => rfl
  | [n] => rfl
  | _ :: _ :: _ => rfl

theorem isTrue_under : (d.under l).isTrue = d.isTrue := by
  cases d with
  | nothing => rfl
  | value v origin => cases v <;> rfl

theorem isSamePlace_under : (d.under l).isSamePlace (e.under l) = d.isSamePlace e := by
  cases d with
  | nothing => rfl
  | value v origin =>
    cases e with
    | nothing => cases origin <;> rfl
    | value w origin' => cases origin <;> cases origin' <;> simp [under, isSamePlace]

theorem same_under : (d.under l).same (e.under l) = d.same e := by
  have place := isSamePlace_under l d e
  cases d with
  | nothing => cases e <;> rfl
  | value v origin =>
    cases e with
    | nothing => rfl
    | value w origin' => exact congrArg (· || v.same w) place

theorem levels_under : (d.under l).levels (e.under l) = d.levels e := by
  have place := isSamePlace_under l d e
  cases d with
  | nothing => cases e <;> rfl
  | value v origin =>
    cases e with
    | nothing => rfl
    | value w origin' => exact congrArg (fun b => if b then [0] else v.levels 0 w) place

end Denoted

namespace Passed

def under (l : Location) : Passed → Passed
  | one d => one (d.under l)
  | nodes ns => nodes (ns.map (Node.under l))

variable (l : Location) (a : Passed)

theorem text?_under : (a.under l).text? = a.text? := by
  cases a with
  | nodes ns => rfl
  | one d =>
    cases d with
    | nothing => rfl
    | value v origin => cases v <;> rfl

theorem lengthOf_under : Function.lengthOf (a.under l) = (Function.lengthOf a).under l := by
  cases a with
  | nodes ns => simp [under, Function.lengthOf, Denoted.ofNat, Denoted.under]
  | one d =>
    cases d with
    | nothing => rfl
    | value v origin => cases v <;> rfl

theorem countOf_under : Function.countOf (a.under l) = (Function.countOf a).under l := by
  cases a with
  | nodes ns => simp [under, Function.countOf, Denoted.ofNat, Denoted.under]
  | one d =>
    cases d with
    | nothing => rfl
    | value v origin => cases v <;> rfl

theorem valueOf_under : Function.valueOf (a.under l) = (Function.valueOf a).under l := by
  cases a with
  | nodes ns => exact Denoted.ofNodes_under l ns
  | one d => rfl

end Passed

namespace Eval

section

variable (options : Options) (l : Location)

theorem equal_under (d e : Denoted) : equal options (d.under l) (e.under l) = equal options d e := by
  rw [equal_eq, equal_eq, Denoted.levels_under, Denoted.same_under]

theorem less_under (d e : Denoted) : less (d.under l) (e.under l) = less d e := by
  cases d with
  | nothing => rfl
  | value v origin =>
    cases e with
    | nothing => cases v <;> rfl
    | value w origin' => cases v <;> cases w <;> rfl

theorem compare_under (operator : Comparison) (d e : Denoted) :
    compare options operator (d.under l) (e.under l) = compare options operator d e := by
  cases operator <;> simp only [compare, equal_under, less_under]

theorem matchOf_under (anchored : Bool) (a b : Passed) :
    Function.matchOf options anchored (a.under l) (b.under l) =
      Denoted.under l <$> Function.matchOf options anchored a b := by
  have truth (b : Bool) : (Denoted.ofBool b).under l = .ofBool b := rfl
  rw [matchOf_eq, matchOf_eq, Passed.text?_under, Passed.text?_under]
  split
  · simp only [map_bind, map_pure, truth]
  · simp only [map_pure, truth]

theorem apply_under (f : Function) (as : List Passed) :
    f.apply options (as.map (Passed.under l)) = Denoted.under l <$> f.apply options as := by
  match as with
  | [] => cases f <;> rfl
  | [a] =>
    cases f with
    | length => simp only [List.map, Function.apply, map_pure, Passed.lengthOf_under]
    | count => simp only [List.map, Function.apply, map_pure, Passed.countOf_under]
    | value => simp only [List.map, Function.apply, map_pure, Passed.valueOf_under]
    | _ => rfl
  | [a, b] =>
    cases f with
    | fullMatch => exact matchOf_under options l true a b
    | search => exact matchOf_under options l false a b
    | _ => rfl
  | a :: b :: c :: as => cases f <;> simp only [Function.apply, List.map, List.length, List.length_map] <;> rfl

end

end Eval

end JsonPath
