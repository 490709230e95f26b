import JsonPath.Location
import JsonPath.Proofs.Value.Grammar
import Mathlib.Algebra.Group.Nat.Defs
import Mathlib.Data.List.Nodup

namespace JsonPath

section

variable {name : String} {v : Value} {members : List (String × Value)}

theorem lookup_eq_some_of_mem (distinct : (members.map Prod.fst).Nodup) (member : (name, v) ∈ members) :
    members.lookup name = some v := by
  obtain ⟨before, after, rfl⟩ := List.append_of_mem member
  refine List.lookup_eq_some_iff.mpr ⟨before, after, rfl, fun p earlier => ?_⟩
  rw [List.map_append, List.nodup_append] at distinct
  have differs := distinct.2.2 p.1 (List.mem_map_of_mem earlier) name (by simp)
  simpa using differs.symm

theorem mem_of_lookup_eq_some (found : members.lookup name = some v) : (name, v) ∈ members := by
  obtain ⟨before, after, rfl, -⟩ := List.lookup_eq_some_iff.mp found
  simp

theorem putMember_names :
    (putMember name v members).map Prod.fst =
      if name ∈ members.map Prod.fst then members.map Prod.fst else members.map Prod.fst ++ [name] := by
  induction members with
  | nil => rfl
  | cons member members ih =>
    obtain ⟨n, w⟩ := member
    by_cases same : n = name
    · simp [putMember, same]
    · have other : name ≠ n := Ne.symm same
      simp only [putMember, same, if_false, List.map_cons, ih, List.mem_cons, other, false_or]
      split <;> simp

theorem putMember_nodup (distinct : (members.map Prod.fst).Nodup) :
    ((putMember name v members).map Prod.fst).Nodup := by
  rw [putMember_names]
  split
  · exact distinct
  · next absent =>
    refine List.nodup_append.mpr ⟨distinct, List.nodup_singleton name, ?_⟩
    rintro other member _ inside rfl
    cases List.mem_singleton.mp inside
    exact absent member

theorem mem_putMember {p : String × Value} (member : p ∈ putMember name v members) :
    p ∈ members ∨ p.2 = v := by
  induction members with
  | nil =>
    right
    simp_all [putMember]
  | cons q members ih =>
    obtain ⟨n, w⟩ := q
    simp only [putMember] at member
    split at member
    · rcases List.mem_cons.mp member with rfl | member
      · exact .inr rfl
      · exact .inl (List.mem_cons_of_mem _ member)
    · rcases List.mem_cons.mp member with rfl | member
      · exact .inl (by simp)
      · rcases ih member with member | same
        · exact .inl (by simp [member])
        · exact .inr same

end

namespace Value

/-- What holds of a value and of every value inside it. -/
def Everywhere (P : Value → Prop) (v : Value) : Prop := ∀ l w, v.at? l = some w → P w

section

variable {P : Value → Prop}

theorem everywhere_object {members : List (String × Value)} (here : P (object members))
    (below : ∀ p ∈ members, p.2.Everywhere P) : (object members).Everywhere P := by
  intro l w place
  cases l with
  | nil =>
    cases place
    exact here
  | cons s l =>
    obtain ⟨v, child, deeper⟩ := Option.bind_eq_some_iff.mp place
    cases s with
    | member name => exact below (name, v) (mem_of_lookup_eq_some child) l w deeper
    | index i => contradiction

theorem everywhere_array {items : List Value} (here : P (array items))
    (below : ∀ v ∈ items, v.Everywhere P) : (array items).Everywhere P := by
  intro l w place
  cases l with
  | nil =>
    cases place
    exact here
  | cons s l =>
    obtain ⟨v, child, deeper⟩ := Option.bind_eq_some_iff.mp place
    cases s with
    | member name => contradiction
    | index i =>
      simp only [child?, item?, Option.ite_none_left_eq_some] at child
      exact below v (List.mem_of_getElem? child.2) l w deeper

theorem everywhere_scalar {v : Value} (scalar : v.isContainer = false) (here : P v) :
    v.Everywhere P := by
  intro l w place
  cases l with
  | nil =>
    cases place
    exact here
  | cons s l =>
    obtain ⟨w, child, -⟩ := Option.bind_eq_some_iff.mp place
    cases s <;> cases v <;> simp_all [isContainer, child?, member?, item?]

theorem Everywhere.child {v w : Value} {s : Step} (everywhere : v.Everywhere P)
    (child : v.child? s = some w) : w.Everywhere P := by
  intro l u place
  refine everywhere (s :: l) u ?_
  rw [at?, child]
  exact place

theorem Everywhere.item {vs : List Value} (everywhere : (array vs).Everywhere P) :
    ∀ v ∈ vs, v.Everywhere P := by
  intro v member
  obtain ⟨i, found⟩ := List.mem_iff_getElem?.mp member
  refine everywhere.child (s := .index i) ?_
  simpa [child?, item?] using found

theorem Everywhere.member {ms : List (String × Value)} (distinct : (ms.map Prod.fst).Nodup)
    (everywhere : (object ms).Everywhere P) : ∀ m ∈ ms, m.2.Everywhere P :=
  fun _ member => everywhere.child (s := .member _) (lookup_eq_some_of_mem distinct member)

end

def NamesDistinct : Value → Prop
  | object members => (members.map Prod.fst).Nodup
  | _ => True

/-- A query can name every index of an array. -/
def Indexable : Value → Prop
  | array items => items.length < 2 ^ 53
  | _ => True

/-- A JSON document whose arrays are all indexable. -/
structure IsDocument (document : Value) : Prop where
  names : document.Everywhere NamesDistinct
  lengths : document.Everywhere Indexable

namespace IsDocument

theorem object {members : List (String × Value)} (names : (members.map Prod.fst).Nodup)
    (below : ∀ p ∈ members, p.2.IsDocument) : (Value.object members).IsDocument where
  names := everywhere_object names fun p member => (below p member).names
  lengths := everywhere_object trivial fun p member => (below p member).lengths

theorem array {items : List Value} (length : items.length < 2 ^ 53)
    (below : ∀ v ∈ items, v.IsDocument) : (Value.array items).IsDocument where
  names := everywhere_array trivial fun v member => (below v member).names
  lengths := everywhere_array length fun v member => (below v member).lengths

theorem scalar {v : Value} (isScalar : v.isContainer = false) : v.IsDocument := by
  constructor <;> refine everywhere_scalar isScalar ?_ <;> cases v <;> trivial

end IsDocument

theorem namesDistinct_of_scalar {v : Value} (scalar : v.isContainer = false) :
    v.Everywhere NamesDistinct := by
  refine everywhere_scalar scalar ?_
  cases v <;> trivial

theorem namesDistinct_putMembers {read members : List (String × Value)}
    (names : (members.map Prod.fst).Nodup) (below : ∀ p ∈ members, p.2.Everywhere NamesDistinct)
    (more : ∀ p ∈ read, p.2.Everywhere NamesDistinct) :
    (object (read.foldl (fun acc (name, v) => putMember name v acc) members)).Everywhere NamesDistinct := by
  induction read generalizing members with
  | nil => exact everywhere_object names below
  | cons q read ih =>
    refine ih (putMember_nodup names) (fun p member => ?_) fun p member => more p (by simp [member])
    rcases mem_putMember member with member | same
    · exact below p member
    · exact same ▸ more q (by simp)

def Part.NamesDistinct : Part → Prop
  | .value v => v.Everywhere Value.NamesDistinct
  | .items vs => ∀ v ∈ vs, v.Everywhere Value.NamesDistinct
  | .members ms => ∀ m ∈ ms, m.2.Everywhere Value.NamesDistinct

theorem Writes.namesDistinct {p : Part} {text : List Char} (writes : Writes p text) : p.NamesDistinct := by
  induction writes with
  | string | integer | double => exact namesDistinct_of_scalar rfl
  | literal known => cases known <;> exact namesDistinct_of_scalar rfl
  | emptyArray => exact everywhere_array trivial (by simp)
  | array _ _ items => exact everywhere_array trivial items
  | emptyObject => exact everywhere_object List.nodup_nil (by simp)
  | object _ _ members => exact namesDistinct_putMembers List.nodup_nil (by simp) members
  | lastItem _ _ item => exact List.forall_mem_singleton.mpr item
  | moreItems _ _ _ _ item more => exact List.forall_mem_cons.mpr ⟨item, more⟩
  | lastMember _ _ _ _ _ member => exact List.forall_mem_singleton.mpr member
  | moreMembers _ _ _ _ _ _ _ member more => exact List.forall_mem_cons.mpr ⟨member, more⟩

theorem namesDistinct_of_read_eq_ok {text : String} {v : Value} (run : read text = .ok v) :
    v.Everywhere NamesDistinct := by
  have isText := isText_of_read run
  generalize text.toList = chars at isText
  obtain ⟨_, writes, _⟩ := isText
  exact writes.namesDistinct

end Value

end JsonPath
