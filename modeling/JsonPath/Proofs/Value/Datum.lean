import JsonPath.Proofs.Number.Quantity
import JsonPath.Proofs.Value.Document

namespace JsonPath

/-- What a JSON value says: a number whatever its form, and members whatever their order. -/
inductive Datum
  | null
  | bool (b : Bool)
  | number (x? : Option ExtendedRat)
  | string (s : String)
  | array (items : List Datum)
  | object (member? : String → Option Datum)

namespace Value

mutual

def datum : Value → Datum
  | null => .null
  | bool b => .bool b
  | number n => .number n.quantity?
  | string s => .string s
  | array items => .array (datumItems items)
  | object members => .object (datumMember? members)

def datumItems : List Value → List Datum
  | [] => []
  | v :: vs => v.datum :: datumItems vs

def datumMember? : List (String × Value) → String → Option Datum
  | [], _ => none
  | (key, v) :: ms, name => if name = key then some v.datum else datumMember? ms name

end

theorem datumItems_length (vs : List Value) : (datumItems vs).length = vs.length := by
  induction vs with
  | nil => rfl
  | cons v vs ih => rw [datumItems, List.length_cons, List.length_cons, ih]

theorem datumMember?_eq_lookup (ms : List (String × Value)) (name : String) :
    datumMember? ms name = (ms.lookup name).map datum := by
  induction ms with
  | nil => rfl
  | cons m ms ih =>
    obtain ⟨key, v⟩ := m
    rw [datumMember?, List.lookup_cons]
    by_cases here : name = key
    · rw [if_pos here, beq_iff_eq.mpr here]
      rfl
    · rw [if_neg here, beq_eq_false_iff_ne.mpr here]
      exact ih

theorem lookup_isSome_iff {ms : List (String × Value)} {name : String} :
    (ms.lookup name).isSome = true ↔ name ∈ ms.map Prod.fst := by
  rw [Option.isSome_iff_ne_none, ne_eq, List.lookup_eq_none_iff, List.mem_map]
  constructor
  · intro found
    push Not at found
    obtain ⟨m, member, same⟩ := found
    exact ⟨m, member, (beq_iff_eq.mp (by simpa using same)).symm⟩
  · rintro ⟨m, member, rfl⟩ absent
    simpa using absent m member

theorem datumMember?_isSome_iff {ms : List (String × Value)} {name : String} :
    (datumMember? ms name).isSome = true ↔ name ∈ ms.map Prod.fst := by
  rw [datumMember?_eq_lookup, Option.isSome_map, lookup_isSome_iff]

theorem datumMembers_iff {ms ns : List (String × Value)} (distinct : (ms.map Prod.fst).Nodup) :
    ((∀ name, name ∈ ms.map Prod.fst ↔ name ∈ ns.map Prod.fst) ∧
      ∀ m ∈ ms, datumMember? ns m.1 = some m.2.datum) ↔
    ∀ name, datumMember? ms name = datumMember? ns name := by
  have own {m : String × Value} (member : m ∈ ms) : datumMember? ms m.1 = some m.2.datum := by
    rw [datumMember?_eq_lookup, lookup_eq_some_of_mem distinct member, Option.map_some]
  constructor
  · rintro ⟨names, values⟩ name
    by_cases inside : name ∈ ms.map Prod.fst
    · obtain ⟨m, member, rfl⟩ := List.mem_map.mp inside
      rw [own member, values m member]
    · have absent (ls : List (String × Value)) (outside : name ∉ ls.map Prod.fst) :
          datumMember? ls name = none :=
        Option.not_isSome_iff_eq_none.mp (mt datumMember?_isSome_iff.mp outside)
      rw [absent ms inside, absent ns (mt (names name).mpr inside)]
  · intro same
    refine ⟨fun name => ?_, fun m member => ?_⟩
    · rw [← datumMember?_isSome_iff, same, datumMember?_isSome_iff]
    · rw [← same, own member]

def IsNumber : Value → Prop
  | number n => n ≠ .double .nan
  | _ => True

/-- No object has two members of one name, and no number is NaN. -/
structure IsData (v : Value) : Prop where
  names : v.Everywhere NamesDistinct
  numbers : v.Everywhere IsNumber

namespace IsData

theorem scalar {v : Value} (isScalar : v.isContainer = false) (isNumber : v.IsNumber) : v.IsData where
  names := everywhere_scalar isScalar (by cases v <;> trivial)
  numbers := everywhere_scalar isScalar isNumber

theorem object {ms : List (String × Value)} (distinct : (ms.map Prod.fst).Nodup)
    (below : ∀ m ∈ ms, m.2.IsData) : (Value.object ms).IsData where
  names := everywhere_object distinct fun m member => (below m member).names
  numbers := everywhere_object trivial fun m member => (below m member).numbers

theorem items {vs : List Value} (data : (array vs).IsData) : ∀ v ∈ vs, v.IsData :=
  fun v member => ⟨data.names.item v member, data.numbers.item v member⟩

variable {ms : List (String × Value)}

theorem distinct (data : (Value.object ms).IsData) : (ms.map Prod.fst).Nodup := data.names [] _ rfl

theorem members (data : (Value.object ms).IsData) : ∀ m ∈ ms, m.2.IsData := fun m member =>
  ⟨data.names.member data.distinct m member, data.numbers.member data.distinct m member⟩

theorem isNumber {n : Number} (data : (number n).IsData) : n ≠ .double .nan := data.numbers [] _ rfl

end IsData

end Value

end JsonPath
