import JsonPath.Number

namespace JsonPath

/-- A JSON value. The members of an object keep their order. Names and strings are made of Unicode scalar
values: no text with half of a surrogate pair on its own is modelled. -/
inductive Value
  | null
  | bool (b : Bool)
  | number (n : Number)
  | string (s : String)
  | array (items : List Value)
  | object (members : List (String × Value))
  deriving Inhabited

inductive Kind
  | null | boolean | number | string | array | object
  deriving DecidableEq

namespace Kind

def name : Kind → String
  | null => "null"
  | boolean => "boolean"
  | number => "number"
  | string => "string"
  | array => "array"
  | object => "object"

end Kind

namespace Value

def kind : Value → Kind
  | null => .null
  | bool _ => .boolean
  | number _ => .number
  | string _ => .string
  | array _ => .array
  | object _ => .object

def int (n : Int) : Value := number (.int n)

def isContainer : Value → Bool
  | array _ | object _ => true
  | _ => false

def member? (name : String) : Value → Option Value
  | object members => members.lookup name
  | _ => none

def item? (index : Int) : Value → Option Value
  | array items => if index < 0 then none else items[index.toNat]?
  | _ => none

mutual

def size : Value → Nat
  | array items => sizeItems items + 1
  | object members => sizeMembers members + 1
  | _ => 1

def sizeItems : List Value → Nat
  | [] => 0
  | v :: vs => v.size + sizeItems vs

def sizeMembers : List (String × Value) → Nat
  | [] => 0
  | (_, v) :: ms => v.size + sizeMembers ms

end

theorem size_pos (v : Value) : 0 < v.size := by
  cases v <;> simp [size]

theorem sizeItems_append (vs ws : List Value) : sizeItems (vs ++ ws) = sizeItems vs + sizeItems ws := by
  induction vs with
  | nil => simp [sizeItems]
  | cons v vs ih => rw [List.cons_append, sizeItems, ih, sizeItems, Nat.add_assoc]

theorem sizeItems_reverse (vs : List Value) : sizeItems vs.reverse = sizeItems vs := by
  induction vs with
  | nil => rfl
  | cons v vs ih =>
    rw [List.reverse_cons, sizeItems_append, ih, sizeItems, sizeItems, sizeItems]
    omega

theorem sizeMembers_eq (ms : List (String × Value)) : sizeMembers ms = sizeItems (ms.map Prod.snd) := by
  induction ms with
  | nil => rfl
  | cons m ms ih => rw [sizeMembers, ih, List.map_cons, sizeItems]

end Value

/-- A repeated name keeps its first place and takes the last value. -/
def putMember (name : String) (value : Value) :
    List (String × Value) → List (String × Value)
  | [] => [(name, value)]
  | (n, v) :: rest => if n = name then (n, value) :: rest else (n, v) :: putMember name value rest

end JsonPath
