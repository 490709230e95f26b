import JsonPath.Proofs.Evaluation.Returns
import JsonPath.Proofs.Value.Reordered

namespace JsonPath

theorem Eval.eq_same_of_equal {options : Options} {d e : Denoted} {b : Bool} {p p' : Progress}
    (run : equal options d e p = .ok b p') : b = d.same e := by
  have answers : Returns (fun _ => True) (equal options d e) (· = d.same e) :=
    Returns.equal (fun _ => trivial) options d e
  exact answers.of_ok run

namespace Value

theorem sameMembers_eq_all (ms ns : List (String × Value)) :
    sameMembers ms ns = ms.all fun m => (ns.lookup m.1).any m.2.same := by
  induction ms with
  | nil => rfl
  | cons m ms ih =>
    obtain ⟨name, v⟩ := m
    rw [sameMembers, List.all_cons, ih]

theorem sameMembers_perm {ms ms' : List (String × Value)} (order : ms.Perm ms')
    (ns : List (String × Value)) : sameMembers ms ns = sameMembers ms' ns := by
  rw [sameMembers_eq_all, sameMembers_eq_all]
  exact order.all_eq

theorem sameNames_eq {ms ms' ns ns' : List (String × Value)}
    (left : (ms.map Prod.fst).Perm (ms'.map Prod.fst)) (right : ns.length = ns'.length)
    (lookup : ∀ name, (ns.lookup name).isSome = (ns'.lookup name).isSome) :
    Eval.sameNames ms ns = Eval.sameNames ms' ns' := by
  have names (ms ns : List (String × Value)) : Eval.sameNames ms ns =
      ((ms.map Prod.fst).length == ns.length &&
        (ms.map Prod.fst).all fun name => (ns.lookup name).isSome) := by
    simp [Eval.sameNames, List.all_map, Function.comp_def]
  rw [names, names, left.length_eq, right, left.all_eq]
  simp only [lookup]

theorem same_of_scalar {v w w' : Value} (scalar : v.isContainer = false) (right : w.Reordered w') :
    v.same w = v.same w' := by
  cases right with
  | refl => rfl
  | array => cases v <;> first | contradiction | rfl
  | object => cases v <;> first | contradiction | rfl

mutual

theorem Reordered.same_eq : ∀ {v v' w w' : Value}, v.Reordered v' → w.Reordered w' →
    v.same w = v'.same w'
  | .array vs, v', w, w', left, right => by
    obtain ⟨vs', rfl, items⟩ := Reordered.array_iff.mp left
    cases w with
    | array ws =>
      obtain ⟨ws', rfl, items'⟩ := Reordered.array_iff.mp right
      rw [same, same, items.length_eq, items'.length_eq, sameItems_eq items items']
    | object ns =>
      obtain ⟨-, ns', rfl, -⟩ := right.object_cases
      rfl
    | _ =>
      rw [right.eq_of_scalar rfl]
      rfl
  | .object ms, v', w, w', left, right => by
    obtain ⟨ls, ms', rfl, members, order, -⟩ := left.object_cases
    cases w with
    | object ns =>
      obtain ⟨ls', ns', rfl, members', order', lookup⟩ := right.object_cases
      have names : Eval.sameNames ms ns = Eval.sameNames ms' ns' := by
        apply sameNames_eq
        · rw [members.names]
          exact order.map _
        · rw [members'.length_eq, order'.length_eq]
        · intro name
          have related := lookup name
          generalize ns.lookup name = w?, ns'.lookup name = w?' at related
          cases related <;> rfl
      rw [same, same, names, sameMembers_eq members lookup, sameMembers_perm order]
    | array ws =>
      obtain ⟨ws', rfl, -⟩ := Reordered.array_iff.mp right
      rfl
    | _ =>
      rw [right.eq_of_scalar rfl]
      rfl
  | .null, v', w, w', left, right => by
    rw [left.eq_of_scalar rfl]
    exact same_of_scalar rfl right
  | .bool b, v', w, w', left, right => by
    rw [left.eq_of_scalar rfl]
    exact same_of_scalar rfl right
  | .number n, v', w, w', left, right => by
    rw [left.eq_of_scalar rfl]
    exact same_of_scalar rfl right
  | .string s, v', w, w', left, right => by
    rw [left.eq_of_scalar rfl]
    exact same_of_scalar rfl right

theorem sameItems_eq : ∀ {vs vs' ws ws' : List Value}, List.Forall₂ Reordered vs vs' →
    List.Forall₂ Reordered ws ws' → sameItems vs ws = sameItems vs' ws'
  | [], vs', ws, ws', left, right => by
    rw [List.forall₂_nil_left_iff.mp left]
    simp [sameItems]
  | v :: vs, vs', ws, ws', left, right => by
    obtain ⟨v', vs', here, more, rfl⟩ := List.forall₂_cons_left_iff.mp left
    cases right with
    | nil => simp [sameItems]
    | cons here' more' => rw [sameItems, sameItems, here.same_eq here', sameItems_eq more more']

theorem sameMembers_eq : ∀ {ms ms' ns ns' : List (String × Value)}, MembersReordered ms ms' →
    (∀ name, Option.Rel Reordered (ns.lookup name) (ns'.lookup name)) →
    sameMembers ms ns = sameMembers ms' ns'
  | [], ms', ns, ns', left, right => by
    rw [List.forall₂_nil_left_iff.mp left]
    simp [sameMembers]
  | (name, v) :: ms, ms', ns, ns', left, right => by
    obtain ⟨⟨name', v'⟩, ms', ⟨same, here⟩, more, rfl⟩ := List.forall₂_cons_left_iff.mp left
    simp only at same here
    subst same
    have found : (ns.lookup name).any v.same = (ns'.lookup name).any v'.same := by
      have related := right name
      generalize ns.lookup name = w?, ns'.lookup name = w?' at related
      cases related with
      | none => rfl
      | some related => exact here.same_eq related
    rw [sameMembers, sameMembers, found, sameMembers_eq more right]

end

end Value

end JsonPath
