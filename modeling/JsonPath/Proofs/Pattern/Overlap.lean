import JsonPath.Proofs.Pattern.Language
import JsonPath.Proofs.Pattern.Nesting

namespace JsonPath

namespace Pattern

/-- Some character begins a text of each of two branches. -/
def Overlap (p p' : Pattern) : Prop := ∃ c w w', c :: w ∈ p.language ∧ c :: w' ∈ p'.language

theorem Front.begins {p : Pattern} {c : Char} (front : Front p (some c)) {w : List Char}
    (member : w ∈ p.language) : ∃ rest, w = c :: rest := by
  generalize same : some c = first? at front
  induction front generalizing w with
  | nothing => contradiction
  | char d escaped =>
    cases same
    exact ⟨[], member⟩
  | group inside ih => exact ih member same
  | sequence first ps ih =>
    obtain ⟨u, inFirst, v, -, rfl⟩ := member
    obtain ⟨rest, rfl⟩ := ih inFirst same
    exact ⟨rest ++ v, rfl⟩

theorem Overlap.meet {p p' : Pattern} {first? first?' : Option Char} (overlap : Overlap p p')
    (front : Front p first?) (front' : Front p' first?') : Meet p p' := by
  cases first? with
  | none => exact .inl front
  | some d =>
    cases first?' with
    | none => exact .inr (.inl front')
    | some d' =>
      obtain ⟨c, w, w', member, member'⟩ := overlap
      obtain ⟨rest, begins⟩ := front.begins member
      obtain ⟨rest', begins'⟩ := front'.begins member'
      obtain ⟨rfl, -⟩ := List.cons.inj begins
      obtain ⟨rfl, -⟩ := List.cons.inj begins'
      exact .inr (.inr ⟨c, front, front'⟩)

/-- A pattern that repeats branches with a first character in common is read. It is unsafe if both branches
have fronts, and in any case exactly if some group that may repeat holds a quantifier or branches that
meet. -/
theorem repeatedOverlap_flagged {source : String} {p body b b' : Pattern}
    (derived : Derives .regexp p source.toList) (ordered : p.InOrder) (carets : p.CaretsNegate)
    (short : ∀ ds, BoundRun source.toList ds → ds.length ≤ maxIntegerDigits)
    (repeated : p.RepeatsGroup body) (pair : [b, b'].Sublist body.branches) (overlap : Overlap b b') :
    read source = .ok p ∧
    ((∃ first?, Front b first?) → (∃ first?, Front b' first?) → p.isUnsafe) ∧
    (p.isUnsafe ↔ ∃ body', p.RepeatsGroup body' ∧ (body'.HasQuantified ∨ body'.BranchesMeet)) := by
  refine ⟨(read_eq_ok_iff short).mpr ⟨derived, ordered, carets⟩, ?_, isUnsafe_iff⟩
  rintro ⟨first?, front⟩ ⟨first?', front'⟩
  have meet : body.BranchesMeet := ⟨b, b', pair, overlap.meet front front'⟩
  exact isUnsafe_iff.mpr ⟨body, repeated, .inr meet⟩

theorem repeatedOverlap_flagged_counted :
    let source := "x(b|ac|(a).)\x7b0,2\x7d"
    let b := Pattern.sequence (.char 'a' false) (.char 'c' false)
    let b' := Pattern.sequence (.group (.char 'a' false)) .dot
    let body := alternatives (.char 'b' false) (.alternatives b b')
    let p := Pattern.sequence (.char 'x' false) (.quantified (.group body) (.between 0 2))
    Derives .regexp p source.toList ∧ p.InOrder ∧ p.CaretsNegate ∧
    (∀ ds, BoundRun source.toList ds → ds.length ≤ maxIntegerDigits) ∧
    p.RepeatsGroup body ∧ [b, b'].Sublist body.branches ∧ Overlap b b' ∧
    (∃ first?, Front b first?) ∧ (∃ first?, Front b' first?) ∧ read source = .ok p ∧ p.isUnsafe ∧
    (p.isUnsafe ↔ ∃ body', p.RepeatsGroup body' ∧ (body'.HasQuantified ∨ body'.BranchesMeet)) := by
  intro source b b' body p
  obtain ⟨derived, ordered, carets⟩ := (read_sound source).1 p (by decide)
  have short : ∀ ds, BoundRun source.toList ds → ds.length ≤ maxIntegerDigits :=
    fun ds run => run.length_le.trans (by decide)
  have repeated : p.RepeatsGroup body := ⟨.between 0 2, by simp [Quantifier.MayRepeat, Quantifier.high?],
    by simp [p, parts]⟩
  have pair : [b, b'].Sublist body.branches := List.sublist_cons_self _ _
  have overlap : Overlap b b' := by
    refine ⟨'a', ['c'], ['d'], ⟨['a'], rfl, ['c'], rfl, rfl⟩, ['a'], rfl, ['d'], ?_, rfl⟩
    exact ⟨'d', by decide, rfl⟩
  have front : ∃ first?, Front b first? := ⟨_, .sequence (.char 'a' false) _⟩
  have front' : ∃ first?, Front b' first? := ⟨_, .sequence (.group (.char 'a' false)) _⟩
  obtain ⟨run, flagged, exactly⟩ :=
    repeatedOverlap_flagged derived ordered carets short repeated pair overlap
  exact ⟨derived, ordered, carets, short, repeated, pair, overlap, front, front', run, flagged front front',
    exactly⟩

/-- A class is not compared with a character in it. -/
theorem repeatedOverlap_class : ∃ p body b b', Derives .regexp p "([ab]|a)+".toList ∧ p.InOrder ∧
    p.CaretsNegate ∧ (∀ ds, BoundRun "([ab]|a)+".toList ds → ds.length ≤ maxIntegerDigits) ∧
    p.RepeatsGroup body ∧ [b, b'].Sublist body.branches ∧ Overlap b b' ∧ read "([ab]|a)+" = .ok p ∧
    ¬ p.isUnsafe := by
  let b := Pattern.set false [.char 'a' false, .char 'b' false]
  let b' := Pattern.char 'a' false
  let p := quantified (group (alternatives b b')) .plus
  have run : read "([ab]|a)+" = .ok p := by decide
  obtain ⟨derived, ordered, carets⟩ := (read_sound "([ab]|a)+").1 p run
  have short : ∀ ds, BoundRun "([ab]|a)+".toList ds → ds.length ≤ maxIntegerDigits :=
    fun ds run => run.length_le.trans (by decide)
  have repeated : p.RepeatsGroup (alternatives b b') :=
    ⟨.plus, by simp [Quantifier.MayRepeat, Quantifier.high?], List.mem_cons_self⟩
  have overlap : Overlap b b' := ⟨'a', [], [], ⟨'a', ⟨_, List.mem_cons_self, rfl⟩, rfl⟩, rfl⟩
  exact ⟨p, _, b, b', derived, ordered, carets, short, repeated, List.Sublist.refl _, overlap, run,
    by decide⟩

theorem hasQuantified_group {p : Pattern} : (group p).HasQuantified ↔ p.HasQuantified := by
  rw [← hasQuantifier_iff, ← hasQuantifier_iff, hasQuantifier]

theorem isUnsafe_doubledGroup {p : Pattern} {q : Quantifier} :
    (quantified (group (group p)) q).isUnsafe ↔ p.isUnsafe ∨ q.MayRepeat ∧ p.HasQuantified := by
  have alone : ¬ (group p).BranchesMeet := not_branchesMeet (by simp)
  rw [isUnsafe_quantifiedGroup, hasQuantified_group, isUnsafe, or_iff_left alone]

theorem hasQuantified_of_isUnsafe {p : Pattern} (isUnsafe : p.isUnsafe) : p.HasQuantified := by
  obtain ⟨body, ⟨q, -, part⟩, -⟩ := isUnsafe_iff.mp isUnsafe
  exact ⟨_, q, part⟩

section

variable {s t : String} {p : Pattern} {q : Quantifier} (derived : Derives .regexp p s.toList)
  (ordered : p.InOrder) (carets : p.CaretsNegate) (quantifier : QuantifierText q t.toList)
  (inOrder : q.InOrder)
  (short : ∀ ds, BoundRun ("(" ++ s ++ ")" ++ t).toList ds → ds.length ≤ maxIntegerDigits)

include derived ordered carets quantifier inOrder short

theorem read_quantifiedGroup : read ("(" ++ s ++ ")" ++ t) = .ok (.quantified (.group p) q) := by
  refine (read_eq_ok_iff short).mpr ⟨?_, ⟨ordered, inOrder⟩, carets, trivial⟩
  simpa using derived.quantifiedGroup quantifier

/-- A second pair of parentheses in a group with a quantifier never makes the pattern unsafe. It makes it
safe exactly if the group may repeat and holds branches that meet but no quantifier. -/
theorem doubledGroup_flagged
    (short' : ∀ ds, BoundRun ("((" ++ s ++ "))" ++ t).toList ds → ds.length ≤ maxIntegerDigits) :
    ∃ once twice, read ("(" ++ s ++ ")" ++ t) = .ok once ∧ read ("((" ++ s ++ "))" ++ t) = .ok twice ∧
      (twice.isUnsafe → once.isUnsafe) ∧
      (once.isUnsafe ∧ ¬ twice.isUnsafe ↔ q.MayRepeat ∧ p.BranchesMeet ∧ ¬ p.HasQuantified) := by
  have grouped : Derives .regexp (.group p) ("(" ++ s ++ ")").toList := by
    simpa using Derives.lastBranch (.somePieces (.lastPiece (.unquantified (.group derived))))
  have same : "((" ++ s ++ "))" ++ t = "(" ++ ("(" ++ s ++ ")") ++ ")" ++ t := by
    simp [← String.toList_inj]
  rw [same] at short' ⊢
  have once := read_quantifiedGroup derived ordered carets quantifier inOrder short
  have twice := read_quantifiedGroup grouped ordered carets quantifier inOrder short'
  refine ⟨_, _, once, twice, ?_, ?_⟩
  · rw [isUnsafe_doubledGroup, isUnsafe_quantifiedGroup]
    rintro (nested | ⟨repeats, inside⟩)
    · exact .inl nested
    · exact .inr ⟨repeats, .inl inside⟩
  · rw [isUnsafe_doubledGroup, isUnsafe_quantifiedGroup]
    constructor
    · rintro ⟨nested | ⟨repeats, inside | meet⟩, isSafe⟩
      · exact absurd (.inl nested) isSafe
      · exact absurd (.inr ⟨repeats, inside⟩) isSafe
      · exact ⟨repeats, meet, fun inside => isSafe (.inr ⟨repeats, inside⟩)⟩
    · rintro ⟨repeats, meet, plain⟩
      refine ⟨.inr ⟨repeats, .inr meet⟩, ?_⟩
      rintro (nested | ⟨-, inside⟩)
      · exact plain (hasQuantified_of_isUnsafe nested)
      · exact plain inside

end

theorem doubledGroup_flagged_branches :
    let s := "b|[ac]d"
    let t := "\x7b2,\x7d"
    let p := alternatives (.char 'b' false)
      (.sequence (.set false [.char 'a' false, .char 'c' false]) (.char 'd' false))
    Derives .regexp p s.toList ∧ p.InOrder ∧ p.CaretsNegate ∧ QuantifierText (.atLeast 2) t.toList ∧
    (Quantifier.atLeast 2).InOrder ∧
    (∀ ds, BoundRun ("(" ++ s ++ ")" ++ t).toList ds → ds.length ≤ maxIntegerDigits) ∧
    (∀ ds, BoundRun ("((" ++ s ++ "))" ++ t).toList ds → ds.length ≤ maxIntegerDigits) ∧
    ∃ once twice, read ("(" ++ s ++ ")" ++ t) = .ok once ∧ read ("((" ++ s ++ "))" ++ t) = .ok twice ∧
      (twice.isUnsafe → once.isUnsafe) ∧
      (once.isUnsafe ∧ ¬ twice.isUnsafe ↔
        (Quantifier.atLeast 2).MayRepeat ∧ p.BranchesMeet ∧ ¬ p.HasQuantified) := by
  intro s t p
  obtain ⟨derived, ordered, carets⟩ := (read_sound s).1 p (by decide)
  have low : Digits 2 ['2'] := ⟨List.cons_ne_nil _ _, List.forall_mem_singleton.mpr rfl, rfl⟩
  have quantifier : QuantifierText (.atLeast 2) t.toList := by
    rw [show t.toList = ['\x7b', '2', ',', '\x7d'] from String.toList_ofList]
    exact .atLeast low
  have short : ∀ ds, BoundRun ("(" ++ s ++ ")" ++ t).toList ds → ds.length ≤ maxIntegerDigits :=
    fun ds run => run.length_le.trans (by decide)
  have short' : ∀ ds, BoundRun ("((" ++ s ++ "))" ++ t).toList ds → ds.length ≤ maxIntegerDigits :=
    fun ds run => run.length_le.trans (by decide)
  exact ⟨derived, ordered, carets, quantifier, trivial, short, short',
    doubledGroup_flagged derived ordered carets quantifier trivial short short'⟩

/-- Another pair of parentheses hides that two branches begin with one character. -/
theorem doubledGroup_hidden : ∃ once twice, Derives .regexp (alternatives (.char 'a' false)
      (.sequence (.char 'a' false) (.char 'a' false))) "a|aa".toList ∧
    read "(a|aa)+" = .ok once ∧ read "((a|aa))+" = .ok twice ∧ once.isUnsafe ∧ ¬ twice.isUnsafe := by
  let p := alternatives (.char 'a' false) (.sequence (.char 'a' false) (.char 'a' false))
  have inside : read "a|aa" = .ok p := by decide
  have once : read "(a|aa)+" = .ok (.quantified (.group p) .plus) := by decide
  have twice : read "((a|aa))+" = .ok (.quantified (.group (.group p)) .plus) := by decide
  exact ⟨_, _, ((read_sound "a|aa").1 p inside).1, once, twice, by decide, by decide⟩

/-- Of any pattern, whatever it was read from: a character known as its head begins each of its texts. If
the heads of all branches are known characters and do not overlap, no two branches have texts with a
first character in common. -/
theorem heads_separate (p : Pattern) :
    (∀ c, p.head = .char c → ∀ w ∈ p.language, ∃ rest, w = c :: rest) ∧
    ((∀ h ∈ p.heads, ∃ c, h = .char c) → ¬ headsOverlap p.heads →
      p.branches.Pairwise fun b b' => ¬ Overlap b b') := by
  constructor
  · intro c known w member
    have front : Front p (some c) := front_iff.mpr known
    exact front.begins member
  · intro known apart
    have front (b : Pattern) (branch : b ∈ p.branches) : ∃ c, Front b (some c) := by
      have head : b.head ∈ p.heads := by
        rw [heads_eq]
        exact List.mem_map_of_mem branch
      obtain ⟨c, same⟩ := known b.head head
      exact ⟨c, front_iff.mpr same⟩
    rw [List.pairwise_iff_forall_sublist]
    intro b b' pair overlap
    obtain ⟨c, first⟩ := front b (pair.subset (by simp))
    obtain ⟨c', first'⟩ := front b' (pair.subset (by simp))
    apply apart
    exact headsOverlap_heads_iff.mpr ⟨b, b', pair, overlap.meet first first'⟩

theorem heads_separate_grouped :
    let source := "(ab*|((d)[^e])|\\n)+"
    let b := Pattern.sequence (.char 'a' false) (.quantified (.char 'b' false) .star)
    let b' := Pattern.group (.sequence (.group (.char 'd' false)) (.set true [.char 'e' false]))
    let body := alternatives b (.alternatives b' (.char '\n' true))
    read source = .ok (quantified (group body) .plus) ∧
    (∀ h ∈ body.heads, ∃ c, h = .char c) ∧ ¬ headsOverlap body.heads ∧
    (∀ w ∈ b'.language, ∃ rest, w = 'd' :: rest) ∧
    body.branches.Pairwise fun b b' => ¬ Overlap b b' := by
  intro source b b' body
  have known : ∀ h ∈ body.heads, ∃ c, h = .char c := by
    simp [body, b, b', heads, head]
  have apart : ¬ headsOverlap body.heads := by decide
  exact ⟨by decide, known, apart, (heads_separate b').1 'd' rfl, (heads_separate body).2 known apart⟩

end Pattern

end JsonPath
