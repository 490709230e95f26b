import JsonPath.Evaluation.Compare
import Mathlib.Data.List.Nodup

namespace JsonPath

namespace Value

mutual

/-- Two values are the same data: numbers in any form, and members in any order. -/
def same : Value → Value → Bool
  | .array vs, .array ws => vs.length == ws.length && sameItems vs ws
  | .object ms, .object ns => Eval.sameNames ms ns && sameMembers ms ns
  | .null, .null => true
  | .bool a, .bool b => a == b
  | .number a, .number b => a.same b
  | .string a, .string b => a == b
  | _, _ => false

def sameItems : List Value → List Value → Bool
  | v :: vs, w :: ws => v.same w && sameItems vs ws
  | _, _ => true

def sameMembers : List (String × Value) → List (String × Value) → Bool
  | [], _ => true
  | (name, v) :: ms, ns => (ns.lookup name).any v.same && sameMembers ms ns

end

mutual

/-- The depths of the pairs that a comparison meets until it is decided: a value before its children, and
these from the last one back. -/
def levels (depth : Nat) : Value → Value → List Nat
  | .array vs, .array ws =>
    depth :: if vs.length = ws.length then levelsOfItems (depth + 1) vs ws else []
  | .object ms, .object ns =>
    depth :: if Eval.sameNames ms ns then levelsOfMembers (depth + 1) ms ns else []
  | _, _ => [depth]

def levelsOfItems (depth : Nat) : List Value → List Value → List Nat
  | v :: vs, w :: ws => levelsOfItems depth vs ws ++ if sameItems vs ws then v.levels depth w else []
  | _, _ => []

def levelsOfMembers (depth : Nat) : List (String × Value) → List (String × Value) → List Nat
  | [], _ => []
  | (name, v) :: ms, ns => levelsOfMembers depth ms ns ++
    if sameMembers ms ns then (ns.lookup name).elim [] (v.levels depth) else []

end

theorem levels_scalar {v : Value} (scalar : v.isContainer = false) (depth : Nat) (w : Value) :
    v.levels depth w = [depth] := by
  cases v with
  | array vs => contradiction
  | object ms => contradiction
  | _ => rw [levels] <;> intros <;> contradiction

theorem same_scalar {v : Value} (scalar : v.isContainer = false) (w : Value) :
    v.same w = v.sameScalar w := by
  cases v with
  | array vs => contradiction
  | object ms => contradiction
  | _ => cases w <;> rfl

theorem levels_kind {v w : Value} (kinds : v.kind ≠ w.kind) (depth : Nat) : v.levels depth w = [depth] := by
  cases v with
  | array vs =>
    cases w with
    | array ws => exact absurd rfl kinds
    | _ => rfl
  | object ms =>
    cases w with
    | object ns => exact absurd rfl kinds
    | _ => rfl
  | _ => exact levels_scalar rfl depth w

theorem same_kind {v w : Value} (kinds : v.kind ≠ w.kind) : v.same w = false := by
  cases v <;> cases w <;> first | rfl | exact absurd rfl kinds

end Value

theorem memberAt?_map (name : String) (ms : List (String × Value)) :
    (memberAt? name ms).map Prod.fst = ms.lookup name := by
  unfold memberAt?
  generalize 0 = start
  induction ms generalizing start with
  | nil => rfl
  | cons m ms ih =>
    obtain ⟨other, v⟩ := m
    rw [List.zipIdx_cons, List.find?_cons, List.lookup_cons]
    by_cases same : other = name
    · simp [same]
    · have differs : (name == other) = false := by simpa using Ne.symm same
      have differs' : (other == name) = false := by simpa using same
      rw [differs, differs']
      exact ih (start + 1)

namespace Pair

def same (p : Pair) : Bool := p.left.value.same p.right.value

def levels (p : Pair) : List Nat := p.left.value.levels p.depth p.right.value

def levelsOfAll : List Pair → List Nat
  | [] => []
  | p :: ps => p.levels ++ if p.same then levelsOfAll ps else []

theorem levelsOfAll_singleton (p : Pair) : levelsOfAll [p] = p.levels := by
  simp [levelsOfAll]

theorem levelsOfAll_append (ps qs : List Pair) :
    levelsOfAll (ps ++ qs) = levelsOfAll ps ++ if ps.all same then levelsOfAll qs else [] := by
  induction ps with
  | nil => rfl
  | cons p ps ih =>
    rw [List.cons_append, levelsOfAll, levelsOfAll, ih, List.all_cons]
    cases p.same <;> simp

theorem ofItems_spec (p : Pair) (vs ws : List Value) :
    (p.ofItems vs ws).all same = Value.sameItems vs ws ∧
      levelsOfAll (p.ofItems vs ws).reverse = Value.levelsOfItems (p.depth + 1) vs ws := by
  unfold ofItems
  generalize 0 = start
  induction vs generalizing ws start with
  | nil => exact ⟨rfl, rfl⟩
  | cons v vs ih =>
    cases ws with
    | nil => exact ⟨rfl, rfl⟩
    | cons w ws =>
      obtain ⟨rest, restLevels⟩ := ih ws (start + 1)
      rw [List.zip_cons_cons, List.zipIdx_cons, List.map_cons, List.all_cons, List.reverse_cons,
        levelsOfAll_append, List.all_reverse, rest, restLevels, Value.sameItems, Value.levelsOfItems]
      exact ⟨rfl, by rw [levelsOfAll_singleton]; rfl⟩

theorem ofMembers_spec (p : Pair) {ms ns : List (String × Value)}
    (known : ∀ m ∈ ms, (ns.lookup m.1).isSome) :
    (p.ofMembers ms ns).all same = Value.sameMembers ms ns ∧
      levelsOfAll (p.ofMembers ms ns).reverse = Value.levelsOfMembers (p.depth + 1) ms ns := by
  unfold ofMembers
  generalize 0 = start
  induction ms generalizing start with
  | nil => exact ⟨rfl, rfl⟩
  | cons m ms ih =>
    obtain ⟨name, v⟩ := m
    obtain ⟨here, more⟩ := List.forall_mem_cons.mp known
    obtain ⟨rest, restLevels⟩ := ih more (start + 1)
    have lookup := memberAt?_map name ns
    cases found : memberAt? name ns with
    | none =>
      rw [found] at lookup
      rw [← lookup] at here
      contradiction
    | some w =>
      rw [found, Option.map_some] at lookup
      rw [List.zipIdx_cons, List.filterMap_cons]
      simp only [found, Option.map_some]
      rw [List.all_cons, List.reverse_cons, levelsOfAll_append, List.all_reverse, rest, restLevels,
        Value.sameMembers, Value.levelsOfMembers, ← lookup]
      exact ⟨rfl, by rw [levelsOfAll_singleton]; rfl⟩

theorem inside?_spec {p : Pair} (kinds : p.left.value.kind = p.right.value.kind)
    (container : p.left.value.isContainer) :
    match p.inside? with
    | some inside => p.same = inside.all same ∧ p.levels = p.depth :: levelsOfAll inside.reverse
    | none => p.same = false ∧ p.levels = [p.depth] := by
  obtain ⟨⟨v, i⟩, ⟨w, j⟩, depth⟩ := p
  cases v with
  | array vs =>
    cases w with
    | array ws =>
      obtain ⟨items, itemLevels⟩ := ofItems_spec ⟨⟨.array vs, i⟩, ⟨.array ws, j⟩, depth⟩ vs ws
      by_cases lengths : vs.length = ws.length
      · simp [inside?, same, levels, Value.same, Value.levels, lengths, items, itemLevels]
      · simp [inside?, same, levels, Value.same, Value.levels, lengths]
    | _ => contradiction
  | object ms =>
    cases w with
    | object ns =>
      cases names : Eval.sameNames ms ns with
      | true =>
        have known : ∀ m ∈ ms, (ns.lookup m.1).isSome := by
          rw [Eval.sameNames, Bool.and_eq_true, List.all_eq_true] at names
          exact names.2
        obtain ⟨members, memberLevels⟩ :=
          ofMembers_spec ⟨⟨.object ms, i⟩, ⟨.object ns, j⟩, depth⟩ known
        simp [inside?, same, levels, Value.same, Value.levels, names, members, memberLevels]
      | false => simp [inside?, same, levels, Value.same, Value.levels, names]
    | _ => contradiction
  | _ => contradiction

end Pair

namespace Pair

theorem identities_unique {p : Pair} {i k : Identity × Identity} (member : i ∈ p.identities)
    (member' : k ∈ p.identities) : i = k := by
  unfold identities at member member'
  split at member
  · next l r left right =>
    rw [left, right] at member'
    rw [List.mem_singleton.mp member, List.mem_singleton.mp member']
  · contradiction

theorem mem_identities_child {p : Pair} {v w : Value} {a b : Nat} {k : Identity × Identity} :
    k ∈ (p.child v a w b).identities ↔ ∃ i ∈ p.identities, k = (i.1.child a, i.2.child b) := by
  obtain ⟨⟨v', i⟩, ⟨w', j⟩, depth⟩ := p
  cases i <;> cases j <;> simp [child, Side.child, identities]

theorem inside?_children {p : Pair} {inside : List Pair} (opened : p.inside? = some inside) :
    ∃ cs : List ((Value × Nat) × Value × Nat), (cs.map (·.1.2)).Nodup ∧
      inside = cs.map fun c => p.child c.1.1 c.1.2 c.2.1 c.2.2 := by
  unfold inside? at opened
  split at opened
  · next vs ws _ _ =>
    obtain ⟨-, same⟩ := Option.ite_none_right_eq_some.mp opened
    refine ⟨(vs.zip ws).zipIdx.map fun c => ((c.1.1, c.2), c.1.2, c.2), ?_, ?_⟩
    · rw [List.map_map]
      change ((vs.zip ws).zipIdx.map Prod.snd).Nodup
      rw [List.zipIdx_map_snd]
      exact List.nodup_range'
    · rw [← Option.some.inj same, List.map_map]
      rfl
  · next ms ns _ _ =>
    obtain ⟨-, same⟩ := Option.ite_none_right_eq_some.mp opened
    refine ⟨ms.zipIdx.filterMap fun c => (memberAt? c.1.1 ns).map fun d => ((c.1.2, c.2), d), ?_, ?_⟩
    · have positions : (ms.zipIdx.map Prod.snd).Nodup := by
        rw [List.zipIdx_map_snd]
        exact List.nodup_range'
      rw [List.Nodup, List.pairwise_map]
      refine (List.pairwise_map.mp positions).filterMap _ ?_
      intro c c' different d found d' found'
      obtain ⟨_, -, rfl⟩ := Option.map_eq_some_iff.mp found
      obtain ⟨_, -, rfl⟩ := Option.map_eq_some_iff.mp found'
      exact different
    · rw [← Option.some.inj same, List.map_filterMap]
      simp [ofMembers, Function.comp_def]
  · contradiction

end Pair

namespace Eval

def Separate (way way' : List Nat) : Prop := ¬ way <+: way' ∧ ¬ way' <+: way

theorem Separate.child {way way' : List Nat} (separate : Separate way way') (i : Nat) :
    Separate (way ++ [i]) way' := by
  constructor
  · intro longer
    exact separate.1 ((List.prefix_append way [i]).trans longer)
  · intro shorter
    rcases List.prefix_concat_iff.mp shorter with whole | shorter
    · exact separate.1 (whole ▸ List.prefix_append way [i])
    · exact separate.2 shorter

theorem Separate.siblings (way : List Nat) {i j : Nat} (different : i ≠ j) :
    Separate (way ++ [i]) (way ++ [j]) := by
  simp [Separate, different, different.symm]

/-- What a comparison keeps: the two containers of a pair lie below different nodes, so they are never one
and the same; and none of the pairs on the stack has been compared or is inside another. -/
structure Comparing (compared : List (Identity × Identity)) (stack : List Pair) : Prop where
  apart : ∀ p ∈ stack, p.left.value.isContainer → p.left.value.kind = p.right.value.kind →
    ∀ i ∈ p.identities, i.1.node ≠ i.2.node
  fresh : ∀ p ∈ stack, ∀ i ∈ p.identities, ∀ k ∈ compared, ¬ i.1.way <+: k.1.way
  separate : stack.Pairwise fun p q =>
    ∀ i ∈ p.identities, ∀ k ∈ q.identities, Separate i.1.way k.1.way

namespace Comparing

variable {compared : List (Identity × Identity)} {p : Pair} {stack : List Pair}

theorem next (comparing : Comparing compared (p :: stack)) : Comparing compared stack :=
  ⟨fun q member => comparing.apart q (List.mem_cons_of_mem p member),
    fun q member => comparing.fresh q (List.mem_cons_of_mem p member), comparing.separate.of_cons⟩

theorem isOne_eq (comparing : Comparing compared (p :: stack)) (container : p.left.value.isContainer)
    (kinds : p.left.value.kind = p.right.value.kind) : p.isOne = false := by
  rw [Pair.isOne, List.any_eq_false]
  intro i member
  have different := comparing.apart p List.mem_cons_self container kinds i member
  simpa using fun same => different (congrArg Identity.node same)

theorem isAmong_eq (comparing : Comparing compared (p :: stack)) : p.isAmong compared = false := by
  rw [Pair.isAmong, List.any_eq_false]
  intro i member
  have fresh := comparing.fresh p List.mem_cons_self i member
  simpa using fun known => fresh i known (List.prefix_refl _)

theorem opened (comparing : Comparing compared (p :: stack)) (container : p.left.value.isContainer)
    (kinds : p.left.value.kind = p.right.value.kind) {inside : List Pair}
    (opened : p.inside? = some inside) :
    Comparing (p.identities ++ compared) (inside.reverse ++ stack) := by
  obtain ⟨cs, positions, rfl⟩ := Pair.inside?_children opened
  have below {q : Pair} (member : q ∈ (cs.map fun c => p.child c.1.1 c.1.2 c.2.1 c.2.2).reverse)
      {k : Identity × Identity} (inside : k ∈ q.identities) :
      ∃ i ∈ p.identities, ∃ a b, k = (i.1.child a, i.2.child b) := by
    obtain ⟨c, -, rfl⟩ := List.mem_map.mp (List.mem_reverse.mp member)
    obtain ⟨i, known, rfl⟩ := Pair.mem_identities_child.mp inside
    exact ⟨i, known, _, _, rfl⟩
  have later := (List.pairwise_cons.mp comparing.separate).1
  constructor
  · intro q member isContainer sameKind k inside
    rcases List.mem_append.mp member with member | member
    · obtain ⟨i, known, a, b, rfl⟩ := below member inside
      exact comparing.apart p List.mem_cons_self container kinds i known
    · exact comparing.next.apart q member isContainer sameKind k inside
  · intro q member k inside k' known'
    rcases List.mem_append.mp member with member | member
    · obtain ⟨i, known, a, b, rfl⟩ := below member inside
      intro shorter
      rcases List.mem_append.mp known' with known' | known'
      · rw [Pair.identities_unique known' known] at shorter
        have length := shorter.length_le
        simp only [Identity.child, List.length_append, List.length_singleton] at length
        omega
      · have fresh := comparing.fresh p List.mem_cons_self i known k' known'
        exact fresh ((List.prefix_append _ [a]).trans shorter)
    · rcases List.mem_append.mp known' with known' | known'
      · exact (later q member k' known' k inside).2
      · exact comparing.next.fresh q member k inside k' known'
  · rw [List.pairwise_append]
    refine ⟨?_, comparing.next.separate, ?_⟩
    · rw [List.pairwise_reverse, List.pairwise_map]
      apply (List.pairwise_map.mp positions).imp
      intro c c' different k inside k' inside'
      obtain ⟨i, known, rfl⟩ := Pair.mem_identities_child.mp inside
      obtain ⟨i', known', rfl⟩ := Pair.mem_identities_child.mp inside'
      rw [Pair.identities_unique known known']
      exact .siblings _ (Ne.symm different)
    · intro q member r member' k inside k' inside'
      obtain ⟨i, known, a, b, rfl⟩ := below member inside
      exact (later r member' i known k' inside').child a

end Comparing

variable (options : Options)

def chargeLevels : List Nat → Eval Unit
  | [] => pure ()
  | depth :: depths => do
    visit options 1
    checkDepth options depth
    chargeLevels depths

/-- Charges the pairs that a comparison meets and gives its answer. -/
def settle (stack : List Pair) : Eval Bool := do
  chargeLevels options (Pair.levelsOfAll stack)
  return stack.all Pair.same

theorem settle_of_same {p : Pair} (same : p.same = true) (alone : p.levels = [p.depth])
    (stack : List Pair) : settle options (p :: stack) = (do
      visit options 1
      checkDepth options p.depth
      settle options stack) := by
  simp [settle, Pair.levelsOfAll, same, alone, chargeLevels]

theorem settle_of_not_same {p : Pair} (differs : p.same = false) (alone : p.levels = [p.depth])
    (stack : List Pair) : settle options (p :: stack) = (do
      visit options 1
      checkDepth options p.depth
      return false) := by
  simp [settle, Pair.levelsOfAll, differs, alone, chargeLevels]

theorem settle_of_inside {p : Pair} {inside : List Pair} (same : p.same = inside.all Pair.same)
    (levels : p.levels = p.depth :: Pair.levelsOfAll inside.reverse) (stack : List Pair) :
    settle options (p :: stack) = (do
      visit options 1
      checkDepth options p.depth
      settle options (inside.reverse ++ stack)) := by
  simp [settle, Pair.levelsOfAll, Pair.levelsOfAll_append, same, levels, chargeLevels]

/-- The identities of containers change nothing: no pair is one and the same container, and none comes
twice. -/
theorem equalPairs_eq_settle {compared : List (Identity × Identity)} {stack : List Pair}
    (comparing : Comparing compared stack) : equalPairs options compared stack = settle options stack := by
  induction compared, stack using equalPairs.induct with
  | case1 compared =>
    rw [equalPairs]
    rfl
  | case2 compared p stack ihNext ihInside =>
    rw [equalPairs]
    by_cases kinds : p.left.value.kind = p.right.value.kind
    · rw [if_neg (not_not.mpr kinds)]
      cases container : p.left.value.isContainer with
      | false =>
        have alone : p.levels = [p.depth] := Value.levels_scalar container _ _
        have answer : p.same = p.left.value.sameScalar p.right.value := Value.same_scalar container _
        cases same : p.left.value.sameScalar p.right.value with
        | true =>
          rw [settle_of_same options (answer.trans same) alone, ← ihNext comparing.next]
          simp
        | false =>
          rw [settle_of_not_same options (answer.trans same) alone]
          simp
      | true =>
        have spec := Pair.inside?_spec kinds container
        have new : (p.isOne || p.isAmong compared) = false := by
          rw [comparing.isOne_eq container kinds, comparing.isAmong_eq, Bool.or_false]
        cases opened : p.inside? with
        | none =>
          rw [opened] at spec
          rw [settle_of_not_same options spec.1 spec.2]
          simp [new]
        | some inside =>
          rw [opened] at spec
          rw [settle_of_inside options spec.1 spec.2, ← push_eq, ← ihInside inside opened]
          · simp [new]
          · rw [push_eq]
            exact comparing.opened container kinds opened
    · have alone : p.levels = [p.depth] := Value.levels_kind kinds _
      rw [settle_of_not_same options (Value.same_kind kinds) alone, if_pos kinds]

end Eval

namespace Denoted

def isSamePlace : Denoted → Denoted → Bool
  | value v (some l), value w (some r) => v.isContainer && v.kind = w.kind && l = r
  | _, _ => false

def same : Denoted → Denoted → Bool
  | nothing, nothing => true
  | value v origin, value w origin' => (value v origin).isSamePlace (value w origin') || v.same w
  | _, _ => false

def levels : Denoted → Denoted → List Nat
  | value v origin, value w origin' =>
    if (value v origin).isSamePlace (value w origin') then [0] else v.levels 0 w
  | _, _ => []

theorem isSamePlace_iff {v w : Value} {origin origin' : Option Location} :
    (value v origin).isSamePlace (value w origin') = true ↔
      v.isContainer ∧ v.kind = w.kind ∧ ∃ l, origin = some l ∧ origin' = some l := by
  cases origin with
  | none => simp [isSamePlace]
  | some l =>
    cases origin' with
    | none => simp [isSamePlace]
    | some l' =>
      rw [isSamePlace, Bool.and_eq_true, Bool.and_eq_true, decide_eq_true_eq, decide_eq_true_eq, and_assoc]
      simp only [Option.some.injEq, exists_eq_left', eq_comm]

end Denoted

namespace Eval

theorem Comparing.start {v w : Value} {origin origin' : Option Location}
    (elsewhere : (Denoted.value v origin).isSamePlace (.value w origin') = false) :
    Comparing [] [⟨.ofOrigin v origin, .ofOrigin w origin', 0⟩] := by
  refine ⟨?_, by simp, List.pairwise_singleton _ _⟩
  intro p member container kinds i known same
  cases List.mem_singleton.mp member
  cases origin with
  | none => simp [Pair.identities, Side.ofOrigin] at known
  | some l =>
    cases origin' with
    | none => simp [Pair.identities, Side.ofOrigin] at known
    | some l' =>
      cases List.mem_singleton.mp known
      obtain rfl : l = l' := same
      have here : (Denoted.value v (some l)).isSamePlace (.value w (some l)) = true :=
        Denoted.isSamePlace_iff.mpr ⟨container, kinds, l, rfl, rfl⟩
      rw [elsewhere] at here
      contradiction

/-- A comparison of two sides charges the pairs that it meets, and answers whether the sides are the
same. -/
theorem equal_eq (options : Options) (d e : Denoted) : equal options d e = (do
    chargeLevels options (d.levels e)
    return d.same e) := by
  cases d with
  | nothing => cases e <;> rfl
  | value v origin =>
    cases e with
    | nothing => rfl
    | value w origin' =>
      rw [equal, Denoted.levels, Denoted.same]
      cases place : (Denoted.value v origin).isSamePlace (.value w origin') with
      | true =>
        obtain ⟨container, kinds, l, rfl, rfl⟩ := Denoted.isSamePlace_iff.mp place
        have isOne : (Pair.mk (.ofOrigin v (some l)) (.ofOrigin w (some l)) 0).isOne = true := by
          simp [Pair.isOne, Pair.identities, Side.ofOrigin]
        rw [equalPairs, isOne]
        simp [Side.ofOrigin, kinds, container, chargeLevels, equalPairs]
      | false =>
        have comparing := Comparing.start place
        rw [equalPairs_eq_settle options comparing, settle, Pair.levelsOfAll_singleton]
        simp [Pair.levels, Pair.same, Side.ofOrigin]

end Eval

end JsonPath
