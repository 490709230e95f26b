import JsonPath.Proofs.Evaluation.Descent
import JsonPath.Proofs.Evaluation.Located
import Mathlib.Data.List.Nodup

namespace JsonPath

theorem Value.child?_scalar {v : Value} (scalar : v.isContainer = false) (s : Step) :
    v.child? s = none := by
  cases s <;> cases v <;> simp_all [isContainer, child?, member?, item?]

namespace Node

variable {n m : Node}

def Reaches (n m : Node) : Prop := ∃ l, m.location = n.location ++ l ∧ n.value.at? l = some m.value

theorem mem_children_iff (names : n.value.NamesDistinct) :
    m ∈ n.children ↔ ∃ s v, n.value.child? s = some v ∧ ⟨v, n.location ++ [s]⟩ = m := by
  obtain ⟨v, location⟩ := n
  cases v with
  | object members =>
    constructor
    · intro member
      obtain ⟨⟨name, v⟩, inside, rfl⟩ := List.mem_map.mp member
      exact ⟨.member name, v, lookup_eq_some_of_mem names inside, rfl⟩
    · rintro ⟨s, v, leads, rfl⟩
      cases s with
      | member name => exact List.mem_map.mpr ⟨(name, v), mem_of_lookup_eq_some leads, rfl⟩
      | index i => contradiction
  | array items =>
    constructor
    · intro member
      obtain ⟨⟨v, i⟩, inside, rfl⟩ := List.mem_map.mp member
      refine ⟨.index i, v, ?_, rfl⟩
      simpa [Value.child?, Value.item?] using List.mem_zipIdx_iff_getElem?.mp inside
    · rintro ⟨s, v, leads, rfl⟩
      cases s with
      | member name => contradiction
      | index i =>
        simp only [Value.child?, Value.item?, Option.ite_none_left_eq_some] at leads
        obtain ⟨nonnegative, stored⟩ := leads
        have position : (i.toNat : Int) = i := Int.toNat_of_nonneg (by omega)
        refine List.mem_map.mpr ⟨(v, i.toNat), List.mem_zipIdx_iff_getElem?.mpr stored, ?_⟩
        simp only [position]
  | _ =>
    constructor
    · intro member
      simp [children] at member
    · rintro ⟨s, v, leads, -⟩
      rw [Value.child?_scalar rfl] at leads
      contradiction

theorem children_nodup (names : n.value.NamesDistinct) : (n.children.map location).Nodup := by
  obtain ⟨v, location⟩ := n
  cases v with
  | object members =>
    have steps : ((⟨.object members, location⟩ : Node).children.map Node.location) =
        (members.map Prod.fst).map fun name => location ++ [.member name] := by
      simp [children]
    rw [steps]
    exact List.Nodup.map (fun a b same => by simpa using same) names
  | array items =>
    have steps : ((⟨.array items, location⟩ : Node).children.map Node.location) =
        (items.zipIdx.map Prod.snd).map fun i : Nat => location ++ [.index i] := by
      simp only [children, List.map_map]
      rfl
    rw [steps, List.zipIdx_map_snd]
    exact List.Nodup.map (fun a b same => by simpa [Int.ofNat_inj] using same) List.nodup_range'
  | _ => exact List.nodup_nil

theorem mem_preorder_iff (names : n.value.Everywhere Value.NamesDistinct) :
    m ∈ n.preorder ↔ n.Reaches m := by
  induction n using induction with
  | step n ih =>
    rw [preorder_eq, List.mem_cons, List.mem_flatMap]
    constructor
    · rintro (rfl | ⟨c, member, inside⟩)
      · exact ⟨[], by simp, rfl⟩
      · obtain ⟨s, v, leads, rfl⟩ := (mem_children_iff (names [] _ rfl)).mp member
        obtain ⟨l, deeper, place⟩ := (ih _ member (names.child leads)).mp inside
        refine ⟨s :: l, by simpa using deeper, ?_⟩
        rw [Value.at?, leads]
        exact place
    · rintro ⟨l, deeper, place⟩
      cases l with
      | nil =>
        have here : m = ⟨n.value, n.location⟩ := by
          rw [← List.append_nil n.location, ← deeper, Option.some.inj place]
        exact .inl here
      | cons s l =>
        obtain ⟨v, leads, place⟩ := Option.bind_eq_some_iff.mp place
        have member : ⟨v, n.location ++ [s]⟩ ∈ n.children :=
          (mem_children_iff (names [] _ rfl)).mpr ⟨s, v, leads, rfl⟩
        have inside := (ih _ member (names.child leads)).mpr ⟨l, by simpa using deeper, place⟩
        exact .inr ⟨_, member, inside⟩

theorem flatMap_preorder_nodup {nodes : List Node} {depth : Nat}
    (names : ∀ n ∈ nodes, n.value.Everywhere Value.NamesDistinct)
    (level : ∀ n ∈ nodes, n.location.length = depth) (apart : (nodes.map location).Nodup)
    (each : ∀ n ∈ nodes, (n.preorder.map location).Nodup) :
    ((nodes.flatMap preorder).map location).Nodup := by
  have below {n : Node} (member : n ∈ nodes) {l : Location} (inside : l ∈ n.preorder.map location) :
      ∃ l', l = n.location ++ l' := by
    obtain ⟨m, listed, rfl⟩ := List.mem_map.mp inside
    obtain ⟨l', deeper, -⟩ := (mem_preorder_iff (names n member)).mp listed
    exact ⟨l', deeper⟩
  rw [List.map_flatMap, List.nodup_flatMap]
  refine ⟨each, (List.pairwise_map.mp apart).imp_of_mem ?_⟩
  intro n n' member member' different l inside inside'
  apply different
  obtain ⟨l', rfl⟩ := below member inside
  obtain ⟨l'', same⟩ := below member' inside'
  exact (List.append_inj same ((level n member).trans (level n' member').symm)).1

theorem preorder_nodup (names : n.value.Everywhere Value.NamesDistinct) :
    (n.preorder.map location).Nodup := by
  induction n using induction with
  | step n ih =>
    have child {c : Node} (member : c ∈ n.children) :
        c.value.Everywhere Value.NamesDistinct ∧ c.location.length = n.location.length + 1 := by
      obtain ⟨s, v, leads, rfl⟩ := (mem_children_iff (names [] _ rfl)).mp member
      exact ⟨names.child leads, by simp⟩
    rw [preorder_eq, List.map_cons, List.nodup_cons]
    refine ⟨fun again => ?_, flatMap_preorder_nodup (fun c member => (child member).1)
      (fun c member => (child member).2) (children_nodup (names [] _ rfl))
      fun c member => ih c member (child member).1⟩
    obtain ⟨m, inside, same⟩ := List.mem_map.mp again
    obtain ⟨c, member, listed⟩ := List.mem_flatMap.mp inside
    obtain ⟨l, deeper, -⟩ := (mem_preorder_iff (child member).1).mp listed
    have length := congrArg List.length (deeper.symm.trans same)
    simp only [List.length_append, (child member).2] at length
    omega

theorem flatMap_children_perm (n : Node) : (n.preorder.flatMap children).Perm n.preorder.tail := by
  induction n using induction with
  | step n ih =>
    have each : (n.children.flatMap fun c => c.preorder.flatMap children).Perm
        (n.children.flatMap fun c => c.preorder.tail) := List.Perm.flatMap_left _ ih
    have whole : (n.children.flatMap fun c => [c] ++ c.preorder.tail) = n.children.flatMap preorder := by
      congr 1
      funext c
      rw [preorder_eq, List.tail_cons, List.singleton_append]
    have split := List.flatMap_append_perm n.children (fun c => [c]) fun c => c.preorder.tail
    rw [whole, List.flatMap_singleton'] at split
    rw [preorder_eq, List.tail_cons, List.flatMap_cons, List.flatMap_assoc]
    exact (each.append_left _).trans split

end Node

end JsonPath
