import JsonPath.Pattern.Safety
import JsonPath.Proofs.Pattern.Acceptance
import Mathlib.Data.List.Nodup

namespace JsonPath

def Quantifier.MayRepeat (q : Quantifier) : Prop := ∀ high ∈ q.high?, 1 < high

theorem Quantifier.repeats_iff {q : Quantifier} : q.repeats ↔ q.MayRepeat := by
  unfold repeats MayRepeat
  cases q.high? <;> simp

namespace Pattern

def parts : Pattern → List Pattern
  | group p => group p :: p.parts
  | quantified p q => quantified p q :: p.parts
  | sequence p ps => sequence p ps :: (p.parts ++ ps.parts)
  | alternatives p ps => alternatives p ps :: (p.parts ++ ps.parts)
  | p => [p]

def HasQuantified (p : Pattern) : Prop := ∃ atom q, quantified atom q ∈ p.parts

def RepeatsGroup (p body : Pattern) : Prop :=
  ∃ q : Quantifier, q.MayRepeat ∧ quantified (group body) q ∈ p.parts

theorem hasQuantifier_iff {p : Pattern} : p.hasQuantifier ↔ p.HasQuantified := by
  unfold HasQuantified
  induction p with
  | group p ih => simpa [hasQuantifier, parts] using ih
  | quantified p q ih => exact iff_of_true rfl ⟨p, q, List.mem_cons_self⟩
  | sequence p ps ih ih' => simp [hasQuantifier, parts, ih, ih', exists_or]
  | alternatives p ps ih ih' => simp [hasQuantifier, parts, ih, ih', exists_or]
  | _ => simp [hasQuantifier, parts]

theorem repeatsGroup_group {p body : Pattern} : (group p).RepeatsGroup body ↔ p.RepeatsGroup body := by
  simp [RepeatsGroup, parts]

theorem repeatsGroup_quantified {p body : Pattern} {q : Quantifier} :
    (quantified p q).RepeatsGroup body ↔ q.MayRepeat ∧ p = group body ∨ p.RepeatsGroup body := by
  simp only [RepeatsGroup, parts, List.mem_cons, quantified.injEq, and_or_left, exists_or]
  refine or_congr ⟨?_, ?_⟩ Iff.rfl
  · rintro ⟨q', repeats, rfl, rfl⟩
    exact ⟨repeats, rfl⟩
  · rintro ⟨repeats, rfl⟩
    exact ⟨q, repeats, rfl, rfl⟩

theorem repeatsGroup_sequence {p ps body : Pattern} :
    (sequence p ps).RepeatsGroup body ↔ p.RepeatsGroup body ∨ ps.RepeatsGroup body := by
  simp [RepeatsGroup, parts, and_or_left, exists_or]

theorem repeatsGroup_alternatives {p ps body : Pattern} :
    (alternatives p ps).RepeatsGroup body ↔ p.RepeatsGroup body ∨ ps.RepeatsGroup body := by
  simp [RepeatsGroup, parts, and_or_left, exists_or]

def branches : Pattern → List Pattern
  | alternatives p ps => p :: ps.branches
  | p => [p]

/-- What a branch begins with: a character that has no quantifier, or nothing at all. Parentheses in
front are opened as long as they hold a single branch. -/
inductive Front : Pattern → Option Char → Prop
  | nothing : Front .empty none
  | char (c : Char) (escaped : Bool) : Front (.char c escaped) (some c)
  | group {p : Pattern} {first? : Option Char} (inside : Front p first?) : Front (.group p) first?
  | sequence {p : Pattern} {first? : Option Char} (first : Front p first?) (ps : Pattern) :
      Front (.sequence p ps) first?

/-- Two branches begin alike as far as their fronts tell: with one character, or one of them with nothing. -/
def Meet (p p' : Pattern) : Prop :=
  Front p none ∨ Front p' none ∨ ∃ c, Front p (some c) ∧ Front p' (some c)

def BranchesMeet (p : Pattern) : Prop := ∃ b b', [b, b'].Sublist p.branches ∧ Meet b b'

theorem front_iff {p : Pattern} {first? : Option Char} :
    Front p first? ↔ p.head = first?.elim .nothing .char := by
  constructor
  · intro front
    induction front with
    | nothing => rfl
    | char c escaped => rfl
    | group inside ih => exact ih
    | sequence first ps ih => exact ih
  · intro same
    induction p with
    | empty =>
      cases first? with
      | none => exact .nothing
      | some c => contradiction
    | char d escaped =>
      cases first? with
      | none => contradiction
      | some c =>
        cases same
        exact .char d escaped
    | group p ih => exact .group (ih same)
    | sequence p ps ih => exact .sequence (ih same) ps
    | _ => cases first? <;> contradiction

theorem heads_eq (p : Pattern) : p.heads = p.branches.map head := by
  fun_induction heads p with
  | case1 p ps ih => rw [branches, List.map_cons, ih]
  | case2 p single =>
    rw [branches]
    · rfl
    · exact single

theorem exists_pair_of_mem {α : Type} {xs : List α} {x : α} (several : 1 < xs.length) (member : x ∈ xs) :
    ∃ y, [x, y].Sublist xs ∨ [y, x].Sublist xs := by
  obtain ⟨before, after, rfl⟩ := List.append_of_mem member
  cases after with
  | cons y after =>
    exact ⟨y, .inl ((List.prefix_append [x, y] after).sublist.trans (List.sublist_append_right before _))⟩
  | nil =>
    cases before with
    | nil => exact absurd several (by simp)
    | cons y before =>
      have last : [x].Sublist (before ++ [x]) := List.sublist_append_right before [x]
      exact ⟨y, .inr (last.cons_cons y)⟩

theorem headsOverlap_iff {hs : List Head} : headsOverlap hs ↔
    ∃ g h, [g, h].Sublist hs ∧ (g = .nothing ∨ h = .nothing ∨ g ≠ .unknown ∧ g = h) := by
  unfold headsOverlap
  simp only [Bool.and_eq_true, decide_eq_true_eq, Bool.or_eq_true, List.contains_iff_mem,
    Bool.not_eq_true', decide_eq_false_iff_not]
  constructor
  · rintro ⟨several, empty | repeated⟩
    · obtain ⟨h, pair | pair⟩ := exists_pair_of_mem several empty
      · exact ⟨_, h, pair, .inl rfl⟩
      · exact ⟨h, _, pair, .inr (.inl rfl)⟩
    · simp only [List.nodup_iff_sublist, not_forall, Classical.not_not] at repeated
      obtain ⟨h, pair⟩ := repeated
      have known : h ≠ .unknown := by
        have member := pair.subset List.mem_cons_self
        simpa using (List.mem_filter.mp member).2
      exact ⟨h, h, pair.trans List.filter_sublist, .inr (.inr ⟨known, rfl⟩)⟩
  · rintro ⟨g, h, pair, meet⟩
    refine ⟨pair.length_le, ?_⟩
    rcases meet with rfl | rfl | ⟨known, rfl⟩
    · exact .inl (pair.subset (by simp))
    · exact .inl (pair.subset (by simp))
    · right
      simp only [List.nodup_iff_sublist, not_forall, Classical.not_not]
      have kept := pair.filter (· ≠ Head.unknown)
      exact ⟨g, by simpa [known] using kept⟩

theorem headsOverlap_heads_iff {p : Pattern} : headsOverlap p.heads ↔ p.BranchesMeet := by
  rw [headsOverlap_iff, heads_eq]
  constructor
  · rintro ⟨g, h, pair, meet⟩
    obtain ⟨bs, below, same⟩ := List.sublist_map_iff.mp pair
    have length : bs.length = 2 := by simpa using congrArg List.length same.symm
    obtain ⟨b, b', rfl⟩ := List.length_eq_two.mp length
    obtain ⟨rfl, rfl⟩ : g = b.head ∧ h = b'.head := by simpa using same
    refine ⟨b, b', below, ?_⟩
    rcases meet with empty | empty | ⟨known, same⟩
    · exact .inl (front_iff.mpr empty)
    · exact .inr (.inl (front_iff.mpr empty))
    · cases front : b.head with
      | nothing => exact .inl (front_iff.mpr front)
      | unknown => contradiction
      | char c => exact .inr (.inr ⟨c, front_iff.mpr front, front_iff.mpr (same.symm.trans front)⟩)
  · rintro ⟨b, b', below, meet⟩
    refine ⟨b.head, b'.head, below.map head, ?_⟩
    rcases meet with empty | empty | ⟨c, first, second⟩
    · exact .inl (front_iff.mp empty)
    · exact .inr (.inl (front_iff.mp empty))
    · rw [front_iff.mp first, front_iff.mp second]
      exact .inr (.inr ⟨by simp, rfl⟩)

theorem isUnsafe_quantifiedGroup {p : Pattern} {q : Quantifier} : (quantified (group p) q).isUnsafe ↔
    p.isUnsafe ∨ q.MayRepeat ∧ (p.HasQuantified ∨ p.BranchesMeet) := by
  rw [isUnsafe, Bool.or_eq_true, Bool.and_eq_true, Bool.or_eq_true, Quantifier.repeats_iff, hasQuantifier_iff,
    headsOverlap_heads_iff]

/-- A pattern is unsafe if and only if a group that may repeat holds a quantifier or branches that meet. -/
theorem isUnsafe_iff {p : Pattern} :
    p.isUnsafe ↔ ∃ body, p.RepeatsGroup body ∧ (body.HasQuantified ∨ body.BranchesMeet) := by
  fun_induction isUnsafe p with
  | case1 p ih => simpa [repeatsGroup_group] using ih
  | case2 p q ih =>
    refine isUnsafe_quantifiedGroup.trans ?_
    rw [ih]
    simp only [repeatsGroup_quantified, repeatsGroup_group, group.injEq, or_and_right, exists_or, and_assoc,
      exists_and_left, exists_eq_left']
    exact or_comm
  | case3 p q other ih =>
    have single (body : Pattern) : p ≠ group body := fun same => other body same
    simpa [repeatsGroup_quantified, single] using ih
  | case4 p ps ih ih' =>
    rw [Bool.or_eq_true, ih, ih']
    simp only [repeatsGroup_sequence, or_and_right, exists_or]
  | case5 p ps ih ih' =>
    rw [Bool.or_eq_true, ih, ih']
    simp only [repeatsGroup_alternatives, or_and_right, exists_or]
  | case6 p => cases p <;> simp_all [RepeatsGroup, parts]

end Pattern

end JsonPath
