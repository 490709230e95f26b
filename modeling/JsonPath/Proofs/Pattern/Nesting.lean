import JsonPath.Proofs.Pattern.Safety

namespace JsonPath

namespace Pattern

/-- A group that may repeat holds an atom with a quantifier. -/
def NestsRepetition (p : Pattern) : Prop := ∃ body, p.RepeatsGroup body ∧ body.HasQuantified

def GroupsUnbranched (p : Pattern) : Prop :=
  ∀ body, group body ∈ p.parts → ∀ first rest, alternatives first rest ∉ body.parts

theorem mem_parts_self (p : Pattern) : p ∈ p.parts := by
  cases p <;> exact List.mem_cons_self

theorem parts_subset {p p' : Pattern} (part : p' ∈ p.parts) : p'.parts ⊆ p.parts := by
  induction p with
  | group p ih | quantified p q ih =>
    rcases List.mem_cons.mp part with rfl | part
    · exact List.Subset.refl _
    · exact List.subset_cons_of_subset _ (ih part)
  | sequence p ps ih ih' | alternatives p ps ih ih' =>
    rcases List.mem_cons.mp part with rfl | part
    · exact List.Subset.refl _
    · rcases List.mem_append.mp part with part | part
      · exact List.subset_cons_of_subset _ (List.subset_append_of_subset_left _ (ih part))
      · exact List.subset_cons_of_subset _ (List.subset_append_of_subset_right _ (ih' part))
  | _ =>
    rw [List.mem_singleton.mp part]
    exact List.Subset.refl _

theorem RepeatsGroup.group_mem {p body : Pattern} (repeated : p.RepeatsGroup body) :
    group body ∈ p.parts := by
  obtain ⟨q, -, part⟩ := repeated
  exact parts_subset part (List.mem_cons_of_mem _ (mem_parts_self _))

theorem not_branchesMeet {p : Pattern} (single : ∀ first rest, p ≠ alternatives first rest) :
    ¬ p.BranchesMeet := by
  rintro ⟨b, b', pair, -⟩
  have alone : p.branches = [p] := by
    rw [branches]
    exact single
  have length := pair.length_le
  rw [alone] at length
  exact absurd length (by simp)

theorem isUnsafe_iff_nestsRepetition {p : Pattern} (unbranched : p.GroupsUnbranched) :
    p.isUnsafe ↔ p.NestsRepetition := by
  rw [isUnsafe_iff]
  constructor
  · rintro ⟨body, repeated, nested | meet⟩
    · exact ⟨body, repeated, nested⟩
    · refine absurd meet (not_branchesMeet fun first rest same => ?_)
      apply unbranched body repeated.group_mem first rest
      rw [← same]
      exact mem_parts_self body
  · rintro ⟨body, repeated, nested⟩
    exact ⟨body, repeated, .inl nested⟩

theorem isUnsafe_of_nestsRepetition {p : Pattern} (nested : p.NestsRepetition) : p.isUnsafe := by
  obtain ⟨body, repeated, inside⟩ := nested
  exact isUnsafe_iff.mpr ⟨body, repeated, .inl inside⟩

theorem Derives.quantifiedGroup {p : Pattern} {q : Quantifier} {s t : List Char}
    (inside : Derives .regexp p s) (quantifier : QuantifierText q t) :
    Derives .regexp (.quantified (.group p) q) ('(' :: (s ++ [')']) ++ t) :=
  .lastBranch (.somePieces (.lastPiece (.quantified (.group inside) quantifier)))

theorem digits_zeros (n : Nat) : Digits 0 (List.replicate (n + 1) '0') where
  nonempty := List.replicate_succ_ne_nil
  digits := by
    intro d member
    rw [List.eq_of_mem_replicate member]
    rfl
  value := by
    rw [Numeral.digitsValue]
    induction n + 1 with
    | zero => rfl
    | succ n ih => exact ih

/-- A pattern is read, and where no group holds several branches it is unsafe exactly if it has a
repetition within a repetition. With branches it is unsafe at least then. -/
theorem nestedRepetition_detected {source : String} {p : Pattern} (derived : Derives .regexp p source.toList)
    (ordered : p.InOrder) (carets : p.CaretsNegate)
    (short : ∀ ds, BoundRun source.toList ds → ds.length ≤ maxIntegerDigits) :
    read source = .ok p ∧ (p.GroupsUnbranched → (p.isUnsafe ↔ p.NestsRepetition)) ∧
      (p.NestsRepetition → p.isUnsafe) :=
  ⟨(read_eq_ok_iff short).mpr ⟨derived, ordered, carets⟩, isUnsafe_iff_nestsRepetition,
    isUnsafe_of_nestsRepetition⟩

theorem nestedRepetition_detected_counted :
    let source := "x((ab?c)\x7b2,\x7d)\x7b0,1\x7d"
    let inner := quantified (group (.sequence (.char 'a' false)
      (.sequence (.quantified (.char 'b' false) .optional) (.char 'c' false)))) (.atLeast 2)
    let p := Pattern.sequence (.char 'x' false) (.quantified (.group inner) (.between 0 1))
    Derives .regexp p source.toList ∧ p.InOrder ∧ p.CaretsNegate ∧
    (∀ ds, BoundRun source.toList ds → ds.length ≤ maxIntegerDigits) ∧
    read source = .ok p ∧ p.GroupsUnbranched ∧ p.NestsRepetition ∧ p.isUnsafe := by
  intro source inner p
  obtain ⟨derived, ordered, carets⟩ := (read_sound source).1 p (by decide)
  have short : ∀ ds, BoundRun source.toList ds → ds.length ≤ maxIntegerDigits :=
    fun ds run => run.length_le.trans (by decide)
  obtain ⟨run, exactly, -⟩ := nestedRepetition_detected derived ordered carets short
  have unbranched : p.GroupsUnbranched := by
    simp [GroupsUnbranched, p, inner, parts]
  have isUnsafe : p.isUnsafe := by decide
  exact ⟨derived, ordered, carets, short, run, unbranched, (exactly unbranched).mp isUnsafe, isUnsafe⟩

/-- The grammar derives `[^]` as the class of a circumflex, but a pattern with it is not read, whatever
it repeats. A bound of too many digits is refused in the same way. -/
theorem nestedRepetition_lone_caret :
    let atom := ['a'] ++ '\x7b' :: (List.replicate 4301 '0' ++ ['\x7d'])
    let zeros := String.ofList ('(' :: (atom ++ [')']) ++ ['+'])
    (∃ p, Derives .regexp p "(([^])+)+".toList ∧ p.InOrder ∧ p.GroupsUnbranched ∧ p.NestsRepetition ∧
      ∀ p', read "(([^])+)+" ≠ .ok p') ∧
    ∃ p, Derives .regexp p zeros.toList ∧ p.InOrder ∧ p.GroupsUnbranched ∧ p.NestsRepetition ∧
      ∀ p', read zeros ≠ .ok p' := by
  intro atom zeros
  constructor
  · have caret : IsClassChar '^' := .inr (.inr (by decide))
    have body : ClassBody [.char '^' false] ['^'] := .member (.char (.plain caret)) .none
    have inside : Derives .regexp (.set false [.char '^' false]) "[^]".toList :=
      .lastBranch (.somePieces (.lastPiece (.unquantified (.set body))))
    refine ⟨_, (inside.quantifiedGroup .plus).quantifiedGroup .plus, ?_, ?_, ?_, ?_⟩
    · simp [InOrder, Each, ClassItem.InOrder, Quantifier.InOrder]
    · simp [GroupsUnbranched, parts]
    · exact isUnsafe_iff_nestsRepetition (by simp [GroupsUnbranched, parts]) |>.mp rfl
    · intro p' run
      have refused : read "(([^])+)+" = .error (.invalid .emptyClass 4) := by decide
      rw [refused] at run
      contradiction
  · have count : Digits 0 (List.replicate 4301 '0') := digits_zeros 4300
    have letter : IsNormalChar 'a' := isNormalChar_iff.mpr (by decide)
    have inside := Derives.lastBranch (.somePieces (.lastPiece (.quantified (.char letter) (.exactly count))))
    have formed : (quantified (group (.quantified (.char 'a' false) (.exactly 0))) .plus).InOrder := by
      simp [InOrder, Each, Quantifier.InOrder]
    refine ⟨_, ?_, formed, ?_, ?_, ?_⟩
    · rw [show zeros.toList = _ from String.toList_ofList]
      exact inside.quantifiedGroup .plus
    · simp [GroupsUnbranched, parts]
    · exact isUnsafe_iff_nestsRepetition (by simp [GroupsUnbranched, parts]) |>.mp rfl
    · intro p' run
      have refused : read zeros = .error (.integerTooLong 4301) := by
        rw [read, Cursor.ofString, String.toList_ofList]
        decide +kernel
      rw [refused] at run
      contradiction

end Pattern

end JsonPath
