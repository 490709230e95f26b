import JsonPath.Evaluation
import JsonPath.Query

namespace JsonPath

/-- What a side of a comparison or a call denotes: nothing, or a value, which may come from a place in
the document. -/
inductive Denoted
  | nothing
  | value (v : Value) (origin : Option Location)

namespace Denoted

def ofBool (b : Bool) : Denoted := value (.bool b) none

def ofNat (n : Nat) : Denoted := value (.int n) none

def ofNodes : List Node → Denoted
  | [n] => value n.value (some n.location)
  | _ => nothing

end Denoted

def Value.sameScalar : Value → Value → Bool
  | .null, .null => true
  | .bool a, .bool b => a == b
  | .number a, .number b => a.same b
  | .string a, .string b => a == b
  | _, _ => false

def memberAt? (name : String) (members : List (String × Value)) : Option (Value × Nat) :=
  (members.zipIdx.find? (·.1.1 == name)).map fun (m, position) => (m.2, position)

/-- Which container of the document this is: the node that a side of the comparison denotes, and the
positions of the children on the way down from it. Both sides go down by the same names and indices, so
they come to one container only if they set out from one node. -/
structure Identity where
  node : Location
  way : List Nat := []
  deriving DecidableEq

def Identity.child (i : Identity) (position : Nat) : Identity := { i with way := i.way ++ [position] }

/-- A value met on one side of a comparison. A literal is no container of the document. -/
structure Side where
  value : Value
  identity : Option Identity

namespace Side

def ofOrigin (v : Value) (origin : Option Location) : Side := ⟨v, origin.map fun l => { node := l }⟩

def child (s : Side) (v : Value) (position : Nat) : Side :=
  ⟨v, s.identity.map (·.child position)⟩

end Side

/-- Two values that have to be equal, and how far below the two sides of the comparison they lie. -/
structure Pair where
  left : Side
  right : Side
  depth : Nat

namespace Pair

def identities (p : Pair) : List (Identity × Identity) :=
  match p.left.identity, p.right.identity with
  | some l, some r => [(l, r)]
  | _, _ => []

def isOne (p : Pair) : Bool := p.identities.any fun (l, r) => l = r

def isAmong (compared : List (Identity × Identity)) (p : Pair) : Bool := p.identities.any compared.contains

def child (p : Pair) (v : Value) (position : Nat) (w : Value) (position' : Nat) : Pair :=
  ⟨p.left.child v position, p.right.child w position', p.depth + 1⟩

def ofItems (p : Pair) (vs ws : List Value) : List Pair :=
  (vs.zip ws).zipIdx.map fun ((v, w), i) => p.child v i w i

def ofMembers (p : Pair) (ms ns : List (String × Value)) : List Pair :=
  ms.zipIdx.filterMap fun ((name, v), i) => (memberAt? name ns).map fun (w, j) => p.child v i w j

end Pair

namespace Eval

def sameNames (left right : List (String × Value)) : Bool :=
  left.length == right.length && left.all fun (name, _) => (right.lookup name).isSome

end Eval

namespace Pair

/-- The children of both values in pairs, if they have the same number or the same names. -/
def inside? (p : Pair) : Option (List Pair) :=
  match p.left.value, p.right.value with
  | .array vs, .array ws => if vs.length = ws.length then some (p.ofItems vs ws) else none
  | .object ms, .object ns => if Eval.sameNames ms ns then some (p.ofMembers ms ns) else none
  | _, _ => none

theorem size_ofItems_le (p : Pair) (vs ws : List Value) :
    Value.sizeItems ((p.ofItems vs ws).map (·.left.value)) ≤ Value.sizeItems vs := by
  unfold ofItems
  generalize 0 = start
  induction vs generalizing ws start with
  | nil => simp
  | cons v vs ih =>
    cases ws with
    | nil => simp [Value.sizeItems]
    | cons w ws =>
      have rest := ih ws (start + 1)
      simp only [List.zip_cons_cons, List.zipIdx_cons, List.map_cons, Value.sizeItems]
      exact Nat.add_le_add_left rest _

theorem size_ofMembers_le (p : Pair) (ms ns : List (String × Value)) :
    Value.sizeItems ((p.ofMembers ms ns).map (·.left.value)) ≤ Value.sizeMembers ms := by
  unfold ofMembers
  generalize 0 = start
  induction ms generalizing start with
  | nil => simp [Value.sizeItems]
  | cons m ms ih =>
    obtain ⟨name, v⟩ := m
    have rest := ih (start + 1)
    simp only [List.zipIdx_cons, List.filterMap_cons, Value.sizeMembers]
    cases memberAt? name ns with
    | none => exact Nat.le_trans rest (Nat.le_add_left _ _)
    | some w =>
      simp only [Option.map_some, List.map_cons, Value.sizeItems]
      exact Nat.add_le_add_left rest _

theorem size_inside_lt {p : Pair} {inside : List Pair} (opened : p.inside? = some inside) :
    Value.sizeItems (inside.map (·.left.value)) < p.left.value.size := by
  unfold inside? at opened
  split at opened
  · next vs ws value _ =>
    obtain ⟨-, same⟩ := Option.ite_none_right_eq_some.mp opened
    rw [value, ← Option.some.inj same]
    exact Nat.lt_succ_of_le (p.size_ofItems_le vs ws)
  · next ms ns value _ =>
    obtain ⟨-, same⟩ := Option.ite_none_right_eq_some.mp opened
    rw [value, ← Option.some.inj same]
    exact Nat.lt_succ_of_le (p.size_ofMembers_le ms ns)
  · contradiction

end Pair

namespace Eval

/-- Whether all pairs on a stack are equal. Each is charged and its depth checked before it is compared.
A container is equal to itself, and a pair that has been compared is not looked into again. -/
def equalPairs (options : Options) (compared : List (Identity × Identity)) : List Pair → Eval Bool
  | [] => return true
  | pair :: stack => do
    visit options 1
    checkDepth options pair.depth
    if pair.left.value.kind ≠ pair.right.value.kind then return false
    else if !pair.left.value.isContainer then
      if pair.left.value.sameScalar pair.right.value then equalPairs options compared stack
      else return false
    else if pair.isOne || pair.isAmong compared then equalPairs options compared stack
    else
      match _opened : pair.inside? with
      | some inside => equalPairs options (pair.identities ++ compared) (push stack inside)
      | none => return false
termination_by stack => Value.sizeItems (stack.map (·.left.value))
decreasing_by
  · simpa [Value.sizeItems] using pair.left.value.size_pos
  · simpa [Value.sizeItems] using pair.left.value.size_pos
  · have smaller := Pair.size_inside_lt _opened
    rw [push_eq, List.map_append, Value.sizeItems_append, List.map_reverse, Value.sizeItems_reverse,
      List.map_cons, Value.sizeItems]
    omega

def equal (options : Options) : Denoted → Denoted → Eval Bool
  | .nothing, .nothing => return true
  | .value v origin, .value w origin' =>
    equalPairs options [] [⟨.ofOrigin v origin, .ofOrigin w origin', 0⟩]
  | _, _ => return false

/-- Two numbers or two strings are ordered, strings by their code points. -/
def less : Denoted → Denoted → Bool
  | .value (.number a) _, .value (.number b) _ => a.less b
  | .value (.string a) _, .value (.string b) _ => a < b
  | _, _ => false

def compare (options : Options) (operator : Comparison) (left right : Denoted) : Eval Bool :=
  match operator with
  | .eq => equal options left right
  | .ne => return !(← equal options left right)
  | .lt => return less left right
  | .le => if less left right then return true else equal options left right
  | .gt => return less right left
  | .ge => if less right left then return true else equal options left right
  | .other symbol => throw (.unsupportedComparison symbol)

end Eval

end JsonPath
