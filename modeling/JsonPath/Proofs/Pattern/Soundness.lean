import JsonPath.Proofs.Outcome
import JsonPath.Proofs.Pattern.Derivation

namespace JsonPath

namespace Pattern

/-- Texts behind which a piece may come: pieces, bars and parentheses that are still open. -/
inductive Opened : List Char → Prop
  | start : Opened []
  | piece {before s : List Char} {p : Pattern} (opened : Opened before) (piece : Derives .piece p s) :
      Opened (before ++ s)
  | bar {before : List Char} (opened : Opened before) : Opened (before ++ ['|'])
  | group {before : List Char} (opened : Opened before) : Opened (before ++ ['('])

/-- Texts behind which a bound of a range quantifier may come. -/
inductive AtBound : List Char → Prop
  | low {before s : List Char} {a : Pattern} (opened : Opened before) (atom : Derives .atom a s) :
      AtBound (before ++ s ++ ['\x7b'])
  | high {before s ds : List Char} {a : Pattern} {n : Nat} (opened : Opened before)
      (atom : Derives .atom a s) (low : Digits n ds) : AtBound (before ++ s ++ '\x7b' :: (ds ++ [',']))

def BoundRun (source ds : List Char) : Prop :=
  ∃ before rest, source = before ++ ds ++ rest ∧ AtBound before ∧ ∀ d ∈ ds, Numeral.isDigit d

theorem Opened.pieces {rule : Rule} {p : Pattern} {s : List Char} (derived : Derives rule p s)
    (pieces : rule = .pieces) {before : List Char} (opened : Opened before) : Opened (before ++ s) := by
  induction derived generalizing before with
  | lastPiece last => exact .piece opened last
  | morePieces first rest _ ih =>
    rw [← List.append_assoc]
    exact ih rfl (.piece opened first)
  | _ => contradiction

theorem Opened.branch {p : Pattern} {before s : List Char} (opened : Opened before)
    (derived : Derives .branch p s) : Opened (before ++ s) := by
  cases derived with
  | noPiece => rwa [List.append_nil]
  | somePieces pieces => exact .pieces pieces rfl opened

def WellFormed (p : Pattern) : Prop := p.InOrder ∧ p.CaretsNegate

namespace Reader

/-- What a reader makes of a text, where `before` has been read already: the characters that it reads are
related to what they mean, and it stops at a bound only if that has too many digits. -/
def Reads {α : Type} (before text : List Char) (D : α → List Char → Prop) :
    Except ReadError (α × Cursor) → Prop
  | .ok (a, after) => ∃ s, text = s ++ after.rest ∧ D a s
  | .error (.integerTooLong _) => ∃ ds, BoundRun (before ++ text) ds ∧ maxIntegerDigits < ds.length
  | .error (.invalid _ _) => True

namespace Reads

variable {α β : Type} {before text : List Char} {D : α → List Char → Prop} {E : β → List Char → Prop}

theorem ok {a : α} {s rest : List Char} {offset : Nat} (related : D a s) :
    Reads before (s ++ rest) D (.ok (a, ⟨offset, rest⟩)) := ⟨s, rfl, related⟩

theorem one {a : α} {d : Char} {rest : List Char} {offset : Nat} (related : D a [d]) :
    Reads before (d :: rest) D (.ok (a, ⟨offset, rest⟩)) := ok related

theorem stay {a : α} {c : Cursor} (related : D a []) : Reads before c.rest D (.ok (a, c)) :=
  ⟨[], rfl, related⟩

theorem fail {cause : Cause} {c : Cursor} : Reads before text D (Reader.fail cause c) := trivial

theorem imp_of_prefix {D' : α → List Char → Prop} {r : Except ReadError (α × Cursor)}
    (reads : Reads before text D r) (weaker : ∀ a s, s <+: text → D a s → D' a s) :
    Reads before text D' r := by
  cases r with
  | ok r =>
    obtain ⟨s, rfl, related⟩ := reads
    exact ⟨s, rfl, weaker r.1 s (List.prefix_append s _) related⟩
  | error e => cases e <;> exact reads

theorem imp {D' : α → List Char → Prop} {r : Except ReadError (α × Cursor)} (reads : Reads before text D r)
    (weaker : ∀ a s, D a s → D' a s) : Reads before text D' r :=
  reads.imp_of_prefix fun a s _ => weaker a s

theorem past {s : List Char} {r : Except ReadError (α × Cursor)}
    (reads : Reads (before ++ s) text (fun a t => D a (s ++ t)) r) : Reads before (s ++ text) D r := by
  cases r with
  | ok r =>
    obtain ⟨t, same, related⟩ := reads
    exact ⟨s ++ t, by rw [same, List.append_assoc], related⟩
  | error e =>
    cases e with
    | invalid cause offset => trivial
    | integerTooLong digits =>
      obtain ⟨ds, run, long⟩ := reads
      exact ⟨ds, by rwa [← List.append_assoc], long⟩

theorem step {d : Char} {r : Except ReadError (α × Cursor)}
    (reads : Reads (before ++ [d]) text (fun a t => D a (d :: t)) r) : Reads before (d :: text) D r :=
  past reads

theorem bind {x : Except ReadError (α × Cursor)} {f : α × Cursor → Except ReadError (β × Cursor)}
    (first : Reads before text D x) (next : ∀ a after s, text = s ++ after.rest → D a s →
      Reads (before ++ s) after.rest (fun b t => E b (s ++ t)) (f (a, after))) :
    Reads before text E (x >>= f) := by
  cases x with
  | ok r =>
    obtain ⟨s, rfl, related⟩ := first
    exact past (next r.1 r.2 s rfl related)
  | error e => cases e <;> exact first

end Reads

section

variable {before : List Char} {c : Cursor}

def OptionalDigits : Option Nat → List Char → Prop
  | none, s => s = []
  | some n, s => Digits n s

theorem reads_number? (bound : AtBound before) : Reads before c.rest OptionalDigits (number? c) := by
  unfold number?
  rw [List.span_eq_takeWhile_dropWhile]
  have digits : ∀ d ∈ c.rest.takeWhile Numeral.isDigit, Numeral.isDigit d :=
    fun d member => List.mem_takeWhile_imp member
  have whole : c.rest = c.rest.takeWhile Numeral.isDigit ++ c.rest.dropWhile Numeral.isDigit :=
    List.takeWhile_append_dropWhile.symm
  generalize c.rest.takeWhile Numeral.isDigit = ds, c.rest.dropWhile Numeral.isDigit = rest at *
  simp only [List.isEmpty_iff]
  split
  · exact .stay rfl
  · next nonempty =>
    rw [whole]
    unfold toNat
    split
    · next long => exact ⟨ds, ⟨before, rest, by rw [List.append_assoc], bound, digits⟩, long⟩
    · have count : OptionalDigits (some (Numeral.digitsValue ds)) ds := ⟨nonempty, digits, rfl⟩
      exact Reads.ok count

theorem reads_closeQuantifier (q : Quantifier) :
    Reads before c.rest (fun q? s => q? = some q ∧ q.InOrder ∧ s = ['\x7d']) (closeQuantifier q c) := by
  unfold closeQuantifier
  split
  · next rest same =>
    rw [same]
    cases q with
    | between low high =>
      simp only
      split
      · exact .fail
      · next ordered => exact .one ⟨rfl, Nat.le_of_not_lt ordered, rfl⟩
    | _ => exact .one ⟨rfl, trivial, rfl⟩
  · exact .fail

def OptionalQuantifier : Option Quantifier → List Char → Prop
  | none, s => s = []
  | some q, s => QuantifierText q s ∧ q.InOrder

theorem reads_quantifier {s : List Char} {a : Pattern} (opened : Opened before) (atom : Derives .atom a s) :
    Reads (before ++ s) c.rest OptionalQuantifier (quantifier c) := by
  unfold quantifier
  split
  case h_5 => exact .stay rfl
  case h_1 rest same =>
    rw [same]
    exact .one ⟨.star, trivial⟩
  case h_2 rest same =>
    rw [same]
    exact .one ⟨.plus, trivial⟩
  case h_3 rest same =>
    rw [same]
    exact .one ⟨.optional, trivial⟩
  case h_4 rest same =>
    rw [same]
    apply Reads.step
    apply (reads_number? (.low opened atom)).bind
    intro low? c ds _ low
    cases low? with
    | none => exact .fail
    | some m =>
      simp only
      split
      · next rest same =>
        rw [same]
        apply Reads.step
        have bound : AtBound (before ++ s ++ ['\x7b'] ++ ds ++ [',']) := by
          have high := AtBound.high opened atom low
          simpa using high
        apply (reads_number? bound).bind
        intro high? c es _ high
        cases high? with
        | none =>
          cases high
          apply (reads_closeQuantifier _).imp
          rintro q? t ⟨rfl, ordered, rfl⟩
          exact ⟨.atLeast low, ordered⟩
        | some n =>
          apply (reads_closeQuantifier _).imp
          rintro q? t ⟨rfl, ordered, rfl⟩
          exact ⟨.between low high, ordered⟩
      · apply (reads_closeQuantifier _).imp
        rintro q? t ⟨rfl, ordered, rfl⟩
        exact ⟨.exactly low, ordered⟩

inductive EscapeText : Escape → List Char → Prop
  | char {d c : Char} (escape : SingleCharEscape d c) : EscapeText (.char c true) [d]
  | category {negated : Bool} {name : String} {s : List Char}
      (escape : CategoryEscape negated name ('\\' :: s)) : EscapeText (.category negated name) s

theorem reads_categoryName : Reads before c.rest
    (fun name s => name ∈ categoryNames ∧ s = '\x7b' :: (name.toList ++ ['\x7d'])) (categoryName c) := by
  unfold categoryName
  split
  · next rest same =>
    rw [same, List.span_eq_takeWhile_dropWhile]
    have whole : rest = rest.takeWhile (· ≠ '\x7d') ++ rest.dropWhile (· ≠ '\x7d') :=
      List.takeWhile_append_dropWhile.symm
    have stops := List.head?_dropWhile_not (fun d => decide (d ≠ '\x7d')) rest
    generalize rest.takeWhile (· ≠ '\x7d') = name, rest.dropWhile (· ≠ '\x7d') = after at *
    subst whole
    cases after with
    | nil => exact .fail
    | cons d after =>
      have closes : d = '\x7d' := by simpa using stops
      subst closes
      simp only [List.isEmpty_cons, Bool.false_eq_true, if_false]
      split
      · next known =>
        apply Reads.step
        rw [List.append_cons name]
        apply Reads.ok
        exact ⟨List.contains_iff_mem.mp known, by simp⟩
      · exact .fail
  · exact .fail

theorem reads_escape : Reads before c.rest EscapeText (escape c) := by
  unfold escape
  split
  · exact .fail
  · next d rest same =>
    rw [same]
    simp only
    split
    · next control found => exact .one (.char (singleCharEscape_iff.mpr (.inl found)))
    · next none =>
      split
      · next escapable => exact .one (.char (singleCharEscape_iff.mpr (.inr ⟨none, escapable, rfl⟩)))
      · split
        · next letter =>
          apply Reads.step
          apply reads_categoryName.bind
          rintro name after _ _ ⟨known, rfl⟩
          apply Reads.stay
          rw [List.append_nil]
          rcases letter with rfl | rfl
          · exact .category (.category known)
          · exact .category (.complement known)
        · exact .fail

inductive ClassAtom : Escape → List Char → Prop
  | char {c : Char} {escaped : Bool} {s : List Char} (char : ClassChar c escaped s) :
      ClassAtom (.char c escaped) s
  | category {negated : Bool} {name : String} {s : List Char} (escape : CategoryEscape negated name s) :
      ClassAtom (.category negated name) s

theorem ClassAtom.member {e : Escape} {s : List Char} (text : ClassAtom e s) :
    ClassMember e.item s ∧ e.item.InOrder := by
  cases text with
  | char char => exact ⟨.char char, trivial⟩
  | category escape => exact ⟨.category escape, trivial⟩

theorem reads_classCharacter : Reads before c.rest ClassAtom (classCharacter c) := by
  unfold classCharacter
  split
  · exact .fail
  · next d rest same =>
    rw [same]
    split
    · next backslash =>
      subst backslash
      apply Reads.step
      apply reads_escape.imp
      intro e s text
      cases text with
      | char escape => exact .char (.escaped escape)
      | category escape => exact .category escape
    · next backslash =>
      split
      · exact .fail
      · next special => exact .one (.char (.plain (isClassChar_iff.mpr ⟨backslash, special⟩)))

theorem reads_range {low high : Escape} {s t : List Char} (lower : ClassAtom low s)
    (upper : ClassAtom high t) :
    Reads before c.rest (fun item u => ClassMember item (s ++ '-' :: t ++ u) ∧ item.InOrder) (do
      let item ← range low high c
      return (item, c)) := by
  unfold range
  cases lower with
  | category => exact .fail
  | char lower =>
    cases upper with
    | category => exact .fail
    | char upper =>
      simp only
      split
      · exact .fail
      · next ordered =>
        refine .stay ⟨?_, Char.not_lt.mp ordered⟩
        rw [List.append_nil]
        exact .range lower upper

theorem reads_classItem : Reads before c.rest (fun item s => ClassMember item s ∧ item.InOrder)
    (classItem c) := by
  unfold classItem
  apply reads_classCharacter.bind
  intro low c s _ lower
  simp only
  have alone : Reads (before ++ s) c.rest (fun item t => ClassMember item (s ++ t) ∧ item.InOrder)
      (.ok (low.item, c)) := by
    apply Reads.stay
    rw [List.append_nil]
    exact lower.member
  split
  · next d rest same =>
    split
    · exact alone
    · rw [same]
      apply Reads.step
      apply reads_classCharacter.bind
      intro high c t _ upper
      apply (reads_range lower upper).imp
      intro item u member
      simpa using member
  · exact alone

theorem reads_classItems (fuel : Nat) : Reads before c.rest
    (fun items s => ∃ t, s = t ++ [']'] ∧ ClassMembers items t ∧ ∀ item ∈ items, item.InOrder)
    (classItems fuel c) := by
  induction fuel generalizing before c with
  | zero => exact .fail
  | succ fuel ih =>
    unfold classItems
    split
    · exact .fail
    · next rest same =>
      rw [same]
      exact .one ⟨[], rfl, .none, by simp⟩
    · next rest same =>
      rw [same]
      apply Reads.step
      exact .one ⟨['-'], rfl, .hyphen, by simp [ClassItem.InOrder]⟩
    · exact .fail
    · apply reads_classItem.bind
      rintro item c s _ ⟨member, ordered⟩
      apply ih.bind
      rintro items c _ _ ⟨t, rfl, members, allOrdered⟩
      refine .stay ⟨s ++ t, by simp, .more member members, ?_⟩
      simpa using ⟨ordered, allOrdered⟩

def ClassText (negated : Bool) (u : List Char) (p : Pattern) (s : List Char) : Prop :=
  ∃ items t, p = Pattern.set negated items ∧ s = t ++ [']'] ∧ ClassBody items (u ++ t) ∧
    ∀ item ∈ items, item.InOrder

theorem reads_members (negated : Bool) {hyphen : List ClassItem} {u : List Char}
    (first : hyphen = [.char '-' false] ∧ u = ['-'] ∨ hyphen = [] ∧ u = [] ∧ c.rest.head? ≠ some '-') :
    Reads before c.rest (ClassText negated u) (do
      let (items, after) ← classItems (c.rest.length + 1) c
      if (hyphen ++ items).isEmpty then fail .emptyClass c
      else return (Pattern.set negated (hyphen ++ items), after)) := by
  apply (reads_classItems _).bind
  rintro items after s same ⟨t, rfl, members, ordered⟩
  simp only [List.isEmpty_iff]
  split
  · exact .fail
  · next nonempty =>
    refine .stay ⟨hyphen ++ items, t, rfl, by simp, ?_⟩
    rcases first with ⟨rfl, rfl⟩ | ⟨rfl, rfl, noHyphen⟩
    · exact ⟨.hyphen members, by simpa [ClassItem.InOrder] using ordered⟩
    · refine ⟨?_, ordered⟩
      rw [List.nil_append, List.nil_append]
      cases members with
      | none => exact absurd rfl nonempty
      | hyphen =>
        rw [same] at noHyphen
        exact absurd rfl noHyphen
      | more member members => exact .member member members

theorem reads_characterClass : Reads before c.rest
    (fun p s => Derives .atom p ('[' :: s) ∧ p.WellFormed) (characterClass c) := by
  unfold characterClass
  split
  next negated c' sign =>
  split
  next hyphen c'' first =>
  have body : Reads (before ++ if negated then ['^'] else []) c'.rest (ClassText negated []) (do
      let (items, after) ← classItems (c''.rest.length + 1) c''
      if (hyphen ++ items).isEmpty then fail .emptyClass c''
      else return (Pattern.set negated (hyphen ++ items), after)) := by
    split at first
    · next rest same =>
      cases first
      rw [same]
      apply Reads.step
      apply (reads_members negated (.inl ⟨rfl, rfl⟩)).imp
      rintro p s ⟨items, t, rfl, rfl, body, ordered⟩
      exact ⟨items, '-' :: t, rfl, rfl, body, ordered⟩
    · next other =>
      cases first
      have noHyphen : c'.rest.head? ≠ some '-' := by
        intro head
        obtain ⟨rest, same⟩ := List.head?_eq_some_iff.mp head
        exact other rest same
      exact reads_members negated (.inr ⟨rfl, rfl, noHyphen⟩)
  split at sign
  · next rest same =>
    cases sign
    rw [same]
    apply Reads.step
    apply body.imp
    rintro p s ⟨items, t, rfl, rfl, body, ordered⟩
    exact ⟨.complement body, ordered, by simp [CaretsNegate, Each]⟩
  · next other =>
    cases sign
    rw [if_neg Bool.false_ne_true, List.append_nil] at body
    apply body.imp_of_prefix
    rintro p _ whole ⟨items, t, rfl, rfl, body, ordered⟩
    refine ⟨.set body, ordered, fun _ item head caret => ?_⟩
    have starts := body.head?_startsWithCaret_iff.mp ⟨item, head, caret⟩
    obtain ⟨s, rfl⟩ := List.head?_eq_some_iff.mp starts
    obtain ⟨rest, same⟩ := whole
    exact other _ same.symm

end

def Derived (rule : Rule) (p : Pattern) (s : List Char) : Prop := Derives rule p s ∧ p.WellFormed

section

variable {inner : Cursor → Except ReadError (Pattern × Cursor)} {limit : Nat}
  (inside : ∀ {before : List Char} {c : Cursor}, c.rest.length ≤ limit → Opened before →
    Reads before c.rest (Derived .regexp) (inner c))

include inside

theorem reads_atom {before : List Char} {c : Cursor} (small : c.rest.length ≤ limit + 1)
    (opened : Opened before) (more : c.rest ≠ []) :
    Reads before c.rest (Derived .atom) (atom inner c) := by
  unfold atom
  split
  · next none => exact absurd none more
  · next d rest same =>
    rw [same] at small ⊢
    have left : rest.length ≤ limit := Nat.le_of_succ_le_succ small
    simp only
    split
    · next parenthesis =>
      subst parenthesis
      apply Reads.step
      apply (inside left opened.group).bind
      rintro p c s _ ⟨derived, formed⟩
      simp only
      split
      · next rest same =>
        rw [same]
        exact .one ⟨.group derived, formed⟩
      · exact .fail
    · split
      · next dot =>
        subst dot
        exact .one ⟨.dot, trivial, trivial⟩
      · split
        · next bracket =>
          subst bracket
          exact Reads.step reads_characterClass
        · split
          · next backslash =>
            subst backslash
            apply Reads.step
            apply reads_escape.bind
            intro e c s _ text
            cases text with
            | char escape => exact .stay ⟨.escape escape, trivial, trivial⟩
            | category escape =>
              apply Reads.stay
              rw [List.append_nil]
              exact ⟨.category escape, trivial, trivial⟩
          · split
            · exact .fail
            · next normal =>
              have normal : IsNormalChar d := isNormalChar_iff.mpr (by simpa using normal)
              exact .one ⟨.char normal, trivial, trivial⟩

theorem reads_piece {before : List Char} {c : Cursor} (small : c.rest.length ≤ limit + 1)
    (opened : Opened before) (more : c.rest ≠ []) :
    Reads before c.rest (Derived .piece) (piece inner c) := by
  apply (reads_atom inside small opened more).bind
  rintro a c s _ ⟨derived, formed⟩
  apply (reads_quantifier opened derived).bind
  intro q? c t _ quantifier
  cases q? with
  | none =>
    cases quantifier
    apply Reads.stay
    rw [List.append_nil, List.append_nil]
    exact ⟨.unquantified derived, formed⟩
  | some q =>
    obtain ⟨text, ordered⟩ := quantifier
    apply Reads.stay
    rw [List.append_nil]
    exact ⟨.quantified derived text, ⟨formed.1, ordered⟩, formed.2, trivial⟩

theorem reads_pieces {fuel : Nat} {before : List Char} {c : Cursor} (small : c.rest.length ≤ limit + 1)
    (fueled : c.rest.length ≤ fuel) (opened : Opened before) (more : endsBranch c.rest = false) :
    Reads before c.rest (Derived .pieces) (branch inner fuel c) := by
  induction fuel generalizing before c with
  | zero =>
    have none : c.rest = [] := List.eq_nil_of_length_eq_zero (Nat.le_zero.mp fueled)
    rw [none] at more
    contradiction
  | succ fuel ih =>
    have nonempty : c.rest ≠ [] := by
      intro none
      rw [none] at more
      contradiction
    unfold branch
    rw [more, if_neg Bool.false_ne_true]
    apply (reads_piece inside small opened nonempty).bind
    rintro p c' s same ⟨derived, formed⟩
    simp only
    have shorter : c'.rest.length < c.rest.length := by
      have lengths := congrArg List.length same
      have positive := List.length_pos_iff.mpr derived.piece_startsPiece.ne_nil
      rw [List.length_append] at lengths
      omega
    split
    · apply Reads.stay
      rw [List.append_nil]
      exact ⟨.lastPiece derived, formed⟩
    · next more =>
      apply (ih (by omega) (by omega) (.piece opened derived) (by simpa using more)).bind
      rintro ps c'' t _ ⟨derived', formed'⟩
      apply Reads.stay
      rw [List.append_nil]
      exact ⟨.morePieces derived derived', ⟨formed.1, formed'.1⟩, formed.2, formed'.2⟩

theorem reads_branch {fuel : Nat} {before : List Char} {c : Cursor} (small : c.rest.length ≤ limit + 1)
    (fueled : c.rest.length ≤ fuel) (opened : Opened before) :
    Reads before c.rest (Derived .branch) (branch inner fuel c) := by
  cases ends : endsBranch c.rest with
  | true =>
    have none : branch inner fuel c = .ok (.empty, c) := by
      cases fuel with
      | zero => rfl
      | succ fuel => rw [branch, ends, if_pos rfl]
    rw [none]
    exact .stay ⟨.noPiece, trivial, trivial⟩
  | false =>
    apply (reads_pieces inside small fueled opened ends).imp
    rintro p s ⟨derived, formed⟩
    exact ⟨.somePieces derived, formed⟩

theorem reads_branches {fuel count : Nat} {before : List Char} {c : Cursor}
    (small : c.rest.length ≤ limit + 1) (fueled : c.rest.length ≤ fuel) (opened : Opened before) :
    Reads before c.rest (Derived .regexp) (branches inner fuel count c) := by
  induction count generalizing before c with
  | zero =>
    apply (reads_branch inside small fueled opened).imp
    rintro p s ⟨derived, formed⟩
    exact ⟨.lastBranch derived, formed⟩
  | succ count ih =>
    apply (reads_branch inside small fueled opened).bind
    rintro p c' s same ⟨derived, formed⟩
    simp only
    split
    · next rest same' =>
      have lengths := congrArg List.length same
      rw [same', List.length_append, List.length_cons] at lengths
      rw [same']
      apply Reads.step
      have opened' := (opened.branch derived).bar
      apply (ih (by simp only; omega) (by simp only; omega) opened').bind
      rintro ps c'' t _ ⟨derived', formed'⟩
      apply Reads.stay
      rw [List.append_nil]
      exact ⟨.moreBranches derived derived', ⟨formed.1, formed'.1⟩, formed.2, formed'.2⟩
    · apply Reads.stay
      rw [List.append_nil]
      exact ⟨.lastBranch derived, formed⟩

end

theorem reads_pattern {fuel : Nat} {before : List Char} {c : Cursor} (fueled : c.rest.length ≤ fuel)
    (opened : Opened before) : Reads before c.rest (Derived .regexp) (pattern fuel c) := by
  induction fuel generalizing before c with
  | zero => exact .stay ⟨.lastBranch .noPiece, trivial, trivial⟩
  | succ fuel ih => exact reads_branches ih fueled fueled opened

end Reader

/-- A text that is read is derived from the rules as what it is read as, and one with a bound that has too
many digits is the only other that is not invalid. -/
theorem read_sound (source : String) :
    (∀ p, read source = .ok p → Derives .regexp p source.toList ∧ p.WellFormed) ∧
    ∀ digits, read source = .error (.integerTooLong digits) →
      ∃ ds, BoundRun source.toList ds ∧ maxIntegerDigits < ds.length := by
  have reads : Reader.Reads [] source.toList (Reader.Derived .regexp)
      (Reader.pattern (source.toList.length + 1) (Cursor.ofString source)) :=
    Reader.reads_pattern (c := Cursor.ofString source) (Nat.le_succ _) .start
  unfold read
  simp only
  rw [show (Cursor.ofString source).rest = source.toList from rfl]
  cases run : Reader.pattern (source.toList.length + 1) (Cursor.ofString source) with
  | error e =>
    rw [run] at reads
    constructor
    · intro p returned
      contradiction
    · rintro digits failed
      cases failed
      exact reads
  | ok r =>
    obtain ⟨q, c⟩ := r
    rw [run] at reads
    obtain ⟨s, whole, derived, formed⟩ := reads
    simp only [bind, Except.bind]
    cases left : c.rest with
    | nil =>
      rw [left, List.append_nil] at whole
      rw [whole]
      constructor
      · intro p returned
        cases returned
        exact ⟨derived, formed⟩
      · intro digits failed
        contradiction
    | cons d rest =>
      constructor
      · intro p returned
        contradiction
      · intro digits failed
        simp [Reader.fail] at failed

end Pattern

end JsonPath
