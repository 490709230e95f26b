import JsonPath.Proofs.Pattern.Completeness

namespace JsonPath

namespace Pattern

/-- No class is `[^]`, the one of a circumflex alone. -/
def NoLoneCaret : Pattern → Prop :=
  Each (fun negated items => ¬ (negated = false ∧ items = [.char '^' false])) fun _ => True

theorem each_mono {classes classes' : Bool → List ClassItem → Prop} {counts : Quantifier → Prop}
    {p : Pattern} (weaker : ∀ negated items, classes negated items → classes' negated items)
    (each : p.Each classes counts) : p.Each classes' counts := by
  induction p with
  | set negated items => exact weaker negated items each
  | group p ih => exact ih each
  | quantified p q ih => exact ⟨ih each.1, each.2⟩
  | sequence p ps ih ih' => exact ⟨ih each.1, ih' each.2⟩
  | alternatives p ps ih ih' => exact ⟨ih each.1, ih' each.2⟩
  | _ => trivial

theorem CaretsNegate.noLoneCaret {p : Pattern} (carets : p.CaretsNegate) : p.NoLoneCaret := by
  refine each_mono (fun negated items negates => ?_) carets
  rintro ⟨rfl, rfl⟩
  exact negates rfl _ rfl ⟨rfl, rfl⟩

theorem ClassBody.of_caret {items : List ClassItem} {t : List Char} (body : ClassBody items ('^' :: t))
    (ordered : ∀ item ∈ items, item.InOrder) (other : items ≠ [.char '^' false]) :
    ∃ items', ClassBody items' t ∧ ∀ item ∈ items', item.InOrder := by
  generalize whole : '^' :: t = text at body
  cases body with
  | hyphen => simp at whole
  | @member item items s u first rest =>
    cases first with
    | category escape =>
      obtain ⟨v, rfl⟩ := escape.backslash
      simp at whole
    | char char =>
      cases char with
      | escaped => simp at whole
      | plain =>
        cases whole
        cases rest with
        | none => contradiction
        | hyphen => exact ⟨_, .hyphen .none, by simp [ClassItem.InOrder]⟩
        | more first rest =>
          have body := ClassBody.member first rest
          exact ⟨_, body, fun item member => ordered item (List.mem_cons_of_mem _ member)⟩
    | range lower upper =>
      cases lower with
      | escaped => simp at whole
      | plain =>
        cases whole
        refine ⟨_, .hyphen (.more (.char upper) rest), ?_⟩
        have others := fun item member => ordered item (List.mem_cons_of_mem _ member)
        simpa [ClassItem.InOrder] using others

/-- A text with a derivation without `[^]` has one in which a circumflex right after an opening bracket is
the sign of a complement. -/
theorem Derives.caretsNegate {rule : Rule} {p : Pattern} {s : List Char} (derived : Derives rule p s)
    (ordered : p.InOrder) (caret : p.NoLoneCaret) :
    ∃ p', Derives rule p' s ∧ p'.InOrder ∧ p'.CaretsNegate := by
  induction derived with
  | lastBranch last ih =>
    obtain ⟨p', derived, formed⟩ := ih ordered caret
    exact ⟨p', .lastBranch derived, formed⟩
  | moreBranches first more ih ih' =>
    obtain ⟨p', derived, ordered', carets⟩ := ih ordered.1 caret.1
    obtain ⟨q', derived', ordered'', carets'⟩ := ih' ordered.2 caret.2
    exact ⟨_, .moreBranches derived derived', ⟨ordered', ordered''⟩, carets, carets'⟩
  | somePieces pieces ih =>
    obtain ⟨p', derived, formed⟩ := ih ordered caret
    exact ⟨p', .somePieces derived, formed⟩
  | lastPiece last ih =>
    obtain ⟨p', derived, formed⟩ := ih ordered caret
    exact ⟨p', .lastPiece derived, formed⟩
  | morePieces first more ih ih' =>
    obtain ⟨p', derived, ordered', carets⟩ := ih ordered.1 caret.1
    obtain ⟨q', derived', ordered'', carets'⟩ := ih' ordered.2 caret.2
    exact ⟨_, .morePieces derived derived', ⟨ordered', ordered''⟩, carets, carets'⟩
  | unquantified atom ih =>
    obtain ⟨p', derived, formed⟩ := ih ordered caret
    exact ⟨p', .unquantified derived, formed⟩
  | quantified atom quantifier ih =>
    obtain ⟨p', derived, ordered', carets⟩ := ih ordered.1 caret.1
    exact ⟨_, .quantified derived quantifier, ⟨ordered', ordered.2⟩, carets, trivial⟩
  | group inside ih =>
    obtain ⟨p', derived, formed⟩ := ih ordered caret
    exact ⟨_, .group derived, formed⟩
  | @set items s body =>
    by_cases starts : s.head? = some '^'
    · obtain ⟨t, rfl⟩ := List.head?_eq_some_iff.mp starts
      obtain ⟨items', body', ordered'⟩ := body.of_caret ordered fun lone => caret ⟨rfl, lone⟩
      exact ⟨_, .complement body', ordered', by simp [CaretsNegate, Each]⟩
    · refine ⟨_, .set body, ordered, fun _ item head first => ?_⟩
      exact starts (body.head?_startsWithCaret_iff.mp ⟨item, head, first⟩)
  | complement body => exact ⟨_, .complement body, ordered, by simp [CaretsNegate, Each]⟩
  | noPiece => exact ⟨_, .noPiece, trivial, trivial⟩
  | char normal => exact ⟨_, .char normal, trivial, trivial⟩
  | dot => exact ⟨_, .dot, trivial, trivial⟩
  | escape escape => exact ⟨_, .escape escape, trivial, trivial⟩
  | category escape => exact ⟨_, .category escape, trivial, trivial⟩

theorem BoundRun.length_le {source ds : List Char} (run : BoundRun source ds) :
    ds.length ≤ source.length := by
  obtain ⟨before, rest, rfl, -⟩ := run
  simp only [List.length_append]
  omega

section

variable {source : String} (short : ∀ ds, BoundRun source.toList ds → ds.length ≤ maxIntegerDigits)

include short

theorem read_eq_ok_iff {p : Pattern} :
    read source = .ok p ↔ Derives .regexp p source.toList ∧ p.InOrder ∧ p.CaretsNegate := by
  obtain ⟨sound, overlong⟩ := read_sound source
  constructor
  · exact sound p
  · rintro ⟨derived, formed⟩
    rcases read_complete derived formed with run | ⟨digits, run⟩
    · exact run
    · obtain ⟨ds, run, long⟩ := overlong digits run
      exact absurd (short ds run) (Nat.not_le_of_lt long)

/-- Exactly the texts that the grammar derives in order and without `[^]` are read, each as the tree of a
derivation in which a circumflex right after an opening bracket is the sign of a complement. All other
texts are invalid. A bound on the recursion into parentheses is left aside. -/
theorem read_eq_ok_iff_derives :
    (∀ p, read source = .ok p → Derives .regexp p source.toList ∧ p.InOrder ∧ p.CaretsNegate) ∧
    ((∃ p, read source = .ok p) ↔ ∃ p, Derives .regexp p source.toList ∧ p.InOrder ∧ p.NoLoneCaret) ∧
    ((∀ p, read source ≠ .ok p) → ∃ cause offset, read source = .error (.invalid cause offset)) := by
  refine ⟨fun p => (read_eq_ok_iff short).mp, ⟨?_, ?_⟩, ?_⟩
  · rintro ⟨p, run⟩
    obtain ⟨derived, ordered, carets⟩ := (read_eq_ok_iff short).mp run
    exact ⟨p, derived, ordered, carets.noLoneCaret⟩
  · rintro ⟨p, derived, ordered, caret⟩
    obtain ⟨p', derived', formed⟩ := derived.caretsNegate ordered caret
    exact ⟨p', (read_eq_ok_iff short).mpr ⟨derived', formed⟩⟩
  · intro refused
    cases run : read source with
    | ok p => exact absurd run (refused p)
    | error e =>
      cases e with
      | invalid cause offset => exact ⟨cause, offset, rfl⟩
      | integerTooLong digits =>
        obtain ⟨ds, run, long⟩ := (read_sound source).2 digits run
        exact absurd (short ds run) (Nat.not_le_of_lt long)

end

theorem read_eq_ok_iff_derives_class :
    let source := "(a\x7b2,10\x7d|[^-z])*\\p\x7bLu\x7d"
    (∀ ds, BoundRun source.toList ds → ds.length ≤ maxIntegerDigits) ∧
    (∀ p, read source = .ok p → Derives .regexp p source.toList ∧ p.InOrder ∧ p.CaretsNegate) ∧
    ((∃ p, read source = .ok p) ↔ ∃ p, Derives .regexp p source.toList ∧ p.InOrder ∧ p.NoLoneCaret) ∧
    ((∀ p, read source ≠ .ok p) → ∃ cause offset, read source = .error (.invalid cause offset)) := by
  intro source
  have short : ∀ ds, BoundRun source.toList ds → ds.length ≤ maxIntegerDigits :=
    fun ds run => run.length_le.trans (by decide)
  exact ⟨short, read_eq_ok_iff_derives short⟩

/-- The grammar derives `[^]` as the class of a circumflex, and it is not read. -/
theorem read_lone_caret : (∀ ds, BoundRun "[^]".toList ds → ds.length ≤ maxIntegerDigits) ∧
    (∃ p, Derives .regexp p "[^]".toList ∧ p.InOrder) ∧ ∀ p, read "[^]" ≠ .ok p := by
  refine ⟨fun ds run => run.length_le.trans (by decide), ?_, ?_⟩
  · have body : ClassBody [.char '^' false] ['^'] := .member (.char (.plain (by unfold IsClassChar; decide))) .none
    refine ⟨.set false [.char '^' false], ?_, by simp [InOrder, Each, ClassItem.InOrder]⟩
    exact .lastBranch (.somePieces (.lastPiece (.unquantified (.set body))))
  · intro p run
    have refused : read "[^]" = .error (.invalid .emptyClass 2) := by decide
    rw [refused] at run
    contradiction

end Pattern

end JsonPath
