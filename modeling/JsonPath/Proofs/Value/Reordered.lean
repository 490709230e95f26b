import JsonPath.Node
import JsonPath.Proofs.Value.Document
import Mathlib.Data.List.Forall2
import Mathlib.Data.List.Perm.Basic

namespace JsonPath

namespace Value

/-- Two values that differ only in the order of the members of their objects. -/
inductive Reordered : Value → Value → Prop
  | refl (v : Value) : Reordered v v
  | array {vs ws : List Value} (items : List.Forall₂ Reordered vs ws) :
      Reordered (.array vs) (.array ws)
  | object {ms ns ns' : List (String × Value)} (distinct : (ms.map Prod.fst).Nodup)
      (names : ms.map Prod.fst = ns.map Prod.fst)
      (values : List.Forall₂ Reordered (ms.map Prod.snd) (ns.map Prod.snd)) (order : ns.Perm ns') :
      Reordered (.object ms) (.object ns')

end Value

def MembersReordered (ms ns : List (String × Value)) : Prop :=
  List.Forall₂ (fun m n => m.1 = n.1 ∧ m.2.Reordered n.2) ms ns

namespace MembersReordered

theorem of_names_values {ms ns : List (String × Value)} (names : ms.map Prod.fst = ns.map Prod.fst)
    (values : List.Forall₂ Value.Reordered (ms.map Prod.snd) (ns.map Prod.snd)) :
    MembersReordered ms ns := by
  induction ms generalizing ns with
  | nil =>
    have empty : ns = [] := by simpa using names.symm
    rw [empty]
    exact .nil
  | cons m ms ih =>
    cases ns with
    | nil => simp at names
    | cons n ns =>
      simp only [List.map_cons, List.cons.injEq] at names
      rw [List.map_cons, List.map_cons, List.forall₂_cons] at values
      exact .cons ⟨names.1, values.1⟩ (ih names.2 values.2)

theorem refl (ms : List (String × Value)) : MembersReordered ms ms :=
  List.forall₂_same.mpr fun m _ => ⟨rfl, .refl m.2⟩

variable {ms ns : List (String × Value)}

theorem names (members : MembersReordered ms ns) : ms.map Prod.fst = ns.map Prod.fst := by
  induction members with
  | nil => rfl
  | cons same _ ih => rw [List.map_cons, List.map_cons, same.1, ih]

theorem lookup (members : MembersReordered ms ns) (name : String) :
    Option.Rel Value.Reordered (ms.lookup name) (ns.lookup name) := by
  induction members with
  | nil => exact .none
  | @cons m n ms ns same _ ih =>
    obtain ⟨nameOf, v⟩ := m
    obtain ⟨nameOf', w⟩ := n
    obtain ⟨rfl, reordered⟩ := same
    rw [List.lookup_cons, List.lookup_cons]
    by_cases here : name == nameOf
    · rw [here]
      exact .some reordered
    · simp only [here]
      exact ih

end MembersReordered

theorem forall₂_getElem? {α β : Type} {R : α → β → Prop} {as : List α} {bs : List β}
    (related : List.Forall₂ R as bs) (i : Nat) : Option.Rel R as[i]? bs[i]? := by
  induction related generalizing i with
  | nil => exact .none
  | cons here _ ih =>
    cases i with
    | zero => exact .some here
    | succ i => exact ih i

theorem lookup_eq_of_perm {ms ns : List (String × Value)} (distinct : (ms.map Prod.fst).Nodup)
    (order : ms.Perm ns) (name : String) : ms.lookup name = ns.lookup name := by
  have distinct' : (ns.map Prod.fst).Nodup := (order.map Prod.fst).nodup_iff.mp distinct
  cases found : ms.lookup name with
  | some v =>
    have member := mem_of_lookup_eq_some found
    exact (lookup_eq_some_of_mem distinct' (order.mem_iff.mp member)).symm
  | none =>
    cases found' : ns.lookup name with
    | none => rfl
    | some w =>
      have member := order.mem_iff.mpr (mem_of_lookup_eq_some found')
      rw [lookup_eq_some_of_mem distinct member] at found
      contradiction

namespace Value

namespace Reordered

theorem array_iff {vs : List Value} {w : Value} :
    Reordered (.array vs) w ↔ ∃ ws, w = .array ws ∧ List.Forall₂ Reordered vs ws := by
  constructor
  · intro reordered
    cases reordered with
    | refl => exact ⟨vs, rfl, List.forall₂_same.mpr fun v _ => .refl v⟩
    | array items => exact ⟨_, rfl, items⟩
  · rintro ⟨ws, rfl, items⟩
    exact .array items

theorem object_cases {ms : List (String × Value)} {w : Value} (reordered : Reordered (.object ms) w) :
    ∃ ns ns', w = .object ns' ∧ MembersReordered ms ns ∧ ns.Perm ns' ∧
      ∀ name, Option.Rel Reordered (ms.lookup name) (ns'.lookup name) := by
  cases reordered with
  | refl =>
    have same := MembersReordered.refl ms
    exact ⟨ms, ms, rfl, same, .refl ms, same.lookup⟩
  | @object _ ns ns' distinct names values order =>
    have members := MembersReordered.of_names_values names values
    refine ⟨ns, ns', rfl, members, order, fun name => ?_⟩
    rw [← lookup_eq_of_perm (names ▸ distinct) order]
    exact members.lookup name

theorem eq_of_scalar {v w : Value} (reordered : Reordered v w) (scalar : v.isContainer = false) :
    w = v := by
  cases reordered with
  | refl => rfl
  | array => contradiction
  | object => contradiction

theorem kind_eq {v w : Value} (reordered : Reordered v w) : v.kind = w.kind := by
  cases reordered <;> rfl

theorem isContainer_eq {v w : Value} (reordered : Reordered v w) : v.isContainer = w.isContainer := by
  cases reordered <;> rfl

theorem child? {v w : Value} (reordered : Reordered v w) (s : Step) :
    Option.Rel Reordered (v.child? s) (w.child? s) := by
  cases v with
  | array vs =>
    obtain ⟨ws, rfl, items⟩ := array_iff.mp reordered
    cases s with
    | member name => exact .none
    | index i =>
      simp only [Value.child?, item?]
      split
      · exact .none
      · exact forall₂_getElem? items i.toNat
  | object ms =>
    obtain ⟨ns, ns', rfl, -, -, lookup⟩ := reordered.object_cases
    cases s with
    | member name => exact lookup name
    | index i => exact .none
  | _ =>
    rw [reordered.eq_of_scalar rfl]
    cases s <;> exact .none

end Reordered

end Value

structure Node.Reordered (n m : Node) : Prop where
  location : n.location = m.location
  value : n.value.Reordered m.value

namespace Node.Reordered

variable {n m : Node} (reordered : n.Reordered m)

include reordered

theorem child? (s : Step) : Option.Rel Node.Reordered (n.child? s) (m.child? s) := by
  have child := reordered.value.child? s
  simp only [Node.child?, reordered.location]
  cases found : n.value.child? s with
  | none =>
    rw [found] at child
    cases found' : m.value.child? s with
    | none => exact .none
    | some w =>
      rw [found'] at child
      contradiction
  | some v =>
    rw [found] at child
    cases found' : m.value.child? s with
    | none =>
      rw [found'] at child
      contradiction
    | some w =>
      rw [found'] at child
      cases child with
      | some same => exact .some ⟨rfl, same⟩

end Node.Reordered

/-- Lists of nodes at the same places, in any order, with values that differ at most in the order of
members. -/
def Node.Permuted (ns ms : List Node) : Prop := ∃ ls, List.Forall₂ Node.Reordered ns ls ∧ ls.Perm ms

namespace Node.Permuted

theorem of_forall₂ {ns ms : List Node} (nodes : List.Forall₂ Node.Reordered ns ms) : Permuted ns ms :=
  ⟨ms, nodes, .refl ms⟩

theorem single {v w : Value} (reordered : v.Reordered w) (location : Location) :
    Permuted [⟨v, location⟩] [⟨w, location⟩] :=
  of_forall₂ (.cons ⟨rfl, reordered⟩ .nil)

theorem of_option {n? m? : Option Node} (same : Option.Rel Node.Reordered n? m?) :
    Permuted n?.toList m?.toList := by
  cases same with
  | some same => exact of_forall₂ (.cons same .nil)
  | none => exact of_forall₂ .nil

variable {ns ms : List Node}

theorem length_eq (permuted : Permuted ns ms) : ns.length = ms.length := by
  obtain ⟨ls, nodes, order⟩ := permuted
  rw [nodes.length_eq, order.length_eq]

theorem isEmpty_eq (permuted : Permuted ns ms) : ns.isEmpty = ms.isEmpty := by
  rw [Bool.eq_iff_iff, List.isEmpty_iff_length_eq_zero, List.isEmpty_iff_length_eq_zero,
    permuted.length_eq]

theorem perm {ms' : List Node} (permuted : Permuted ns ms) (order : ms.Perm ms') : Permuted ns ms' := by
  obtain ⟨ls, nodes, order'⟩ := permuted
  exact ⟨ls, nodes, order'.trans order⟩

theorem append {ns' ms' : List Node} (first : Permuted ns ms) (second : Permuted ns' ms') :
    Permuted (ns ++ ns') (ms ++ ms') := by
  obtain ⟨ls, nodes, order⟩ := first
  obtain ⟨ls', nodes', order'⟩ := second
  exact ⟨ls ++ ls', List.rel_append nodes nodes', order.append order'⟩

theorem singleton {n : Node} (permuted : Permuted [n] ms) : ∃ m, ms = [m] ∧ n.Reordered m := by
  obtain ⟨ls, nodes, order⟩ := permuted
  obtain ⟨m, rest, same, none, rfl⟩ := List.forall₂_cons_left_iff.mp nodes
  rw [List.forall₂_nil_left_iff] at none
  subst none
  exact ⟨m, (List.singleton_perm.mp order).symm, same⟩

theorem flatten {G G' : Node → List Node → Prop} {rs rs' : List (List Node)} (permuted : Permuted ns ms)
    (given : List.Forall₂ G ns rs) (given' : List.Forall₂ G' ms rs')
    (each : ∀ n m r r', n.Reordered m → G n r → G' m r' → Permuted r r') :
    Permuted rs.flatten rs'.flatten := by
  obtain ⟨ls, nodes, order⟩ := permuted
  obtain ⟨ts, given', order'⟩ := List.perm_comp_forall₂ order given'
  refine perm ?_ order'.flatten
  clear order order'
  induction nodes generalizing rs ts with
  | nil =>
    rw [List.forall₂_nil_left_iff] at given given'
    rw [given, given']
    exact of_forall₂ .nil
  | cons same _ ih =>
    obtain ⟨r, rs, here, more, rfl⟩ := List.forall₂_cons_left_iff.mp given
    obtain ⟨t, ts, here', more', rfl⟩ := List.forall₂_cons_left_iff.mp given'
    rw [List.flatten_cons, List.flatten_cons]
    exact (each _ _ r t same here here').append (ih more ts more')

end Node.Permuted

namespace Value.Reordered

variable {v w : Value} (reordered : v.Reordered w) (location : Location)

include reordered

theorem children : Node.Permuted (Node.children ⟨v, location⟩) (Node.children ⟨w, location⟩) := by
  cases v with
  | array vs =>
    obtain ⟨ws, rfl, items⟩ := array_iff.mp reordered
    apply Node.Permuted.of_forall₂
    unfold Node.children
    rw [List.forall₂_map_left_iff, List.forall₂_map_right_iff]
    clear reordered
    generalize 0 = start
    induction items generalizing start with
    | nil => exact .nil
    | cons same _ ih => exact .cons ⟨rfl, same⟩ (ih (start + 1))
  | object ms =>
    obtain ⟨ns, ns', rfl, members, order, -⟩ := reordered.object_cases
    refine ⟨ns.map fun n => ⟨n.2, location ++ [.member n.1]⟩, ?_, order.map _⟩
    unfold Node.children
    rw [List.forall₂_map_left_iff, List.forall₂_map_right_iff]
    refine members.imp fun m n same => ?_
    obtain ⟨name, v⟩ := m
    obtain ⟨name', w⟩ := n
    obtain ⟨rfl, reordered⟩ := same
    exact ⟨rfl, reordered⟩
  | _ =>
    rw [reordered.eq_of_scalar rfl]
    exact .of_forall₂ .nil

theorem item? (index : Int) :
    Option.Rel Node.Reordered (Node.item? ⟨v, location⟩ index) (Node.item? ⟨w, location⟩ index) := by
  cases v with
  | array vs =>
    obtain ⟨ws, rfl, items⟩ := array_iff.mp reordered
    unfold Node.item?
    simp only
    rw [← items.length_eq]
    have same : Node.Reordered ⟨.array vs, location⟩ ⟨.array ws, location⟩ := ⟨rfl, reordered⟩
    exact same.child? _
  | object ms =>
    obtain ⟨-, ns', rfl, -⟩ := reordered.object_cases
    exact .none
  | _ =>
    rw [reordered.eq_of_scalar rfl]
    exact .none

theorem slice (start stop step : Option Int) :
    Node.Permuted (Node.slice ⟨v, location⟩ start stop step)
      (Node.slice ⟨w, location⟩ start stop step) := by
  cases v with
  | array vs =>
    obtain ⟨ws, rfl, items⟩ := array_iff.mp reordered
    apply Node.Permuted.of_forall₂
    unfold Node.slice
    simp only
    rw [← items.length_eq]
    induction (Slice.indices vs.length start stop step).toList with
    | nil => exact .nil
    | cons i is ih =>
      have stored : Option.Rel Reordered vs.toArray[i.toNat]? ws.toArray[i.toNat]? := by
        simpa using forall₂_getElem? items i.toNat
      rw [List.filterMap_cons, List.filterMap_cons]
      by_cases negative : i < 0
      · simpa [negative] using ih
      · simp only [negative, if_false]
        generalize vs.toArray[i.toNat]? = v?, ws.toArray[i.toNat]? = w? at stored
        cases stored with
        | none => exact ih
        | some same => exact .cons ⟨rfl, same⟩ ih
  | object ms =>
    obtain ⟨-, ns', rfl, -⟩ := reordered.object_cases
    exact .of_forall₂ .nil
  | _ =>
    rw [reordered.eq_of_scalar rfl]
    exact .of_forall₂ .nil

end Value.Reordered

namespace Node.Reordered

variable {n m : Node} (reordered : n.Reordered m)

include reordered

theorem children : Node.Permuted n.children m.children := by
  obtain ⟨v, location⟩ := n
  obtain ⟨w, location'⟩ := m
  obtain ⟨rfl, same⟩ := reordered
  exact same.children location

theorem item? (index : Int) : Option.Rel Node.Reordered (n.item? index) (m.item? index) := by
  obtain ⟨v, location⟩ := n
  obtain ⟨w, location'⟩ := m
  obtain ⟨rfl, same⟩ := reordered
  exact same.item? location index

theorem slice (start stop step : Option Int) :
    Node.Permuted (n.slice start stop step) (m.slice start stop step) := by
  obtain ⟨v, location⟩ := n
  obtain ⟨w, location'⟩ := m
  obtain ⟨rfl, same⟩ := reordered
  exact same.slice location start stop step

end Node.Reordered

end JsonPath
