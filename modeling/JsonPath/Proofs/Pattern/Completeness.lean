import JsonPath.Proofs.Number.Decimal
import JsonPath.Proofs.Pattern.Soundness

namespace JsonPath

namespace Pattern

namespace Reader

def Answers {α : Type} (a : α) (rest : List Char) : Except ReadError (α × Cursor) → Prop
  | .ok (b, after) => b = a ∧ after.rest = rest
  | .error (.integerTooLong _) => True
  | .error (.invalid _ _) => False

namespace Answers

variable {α β : Type} {a : α} {b : β} {rest left : List Char}

theorem ok {after : Cursor} (same : after.rest = rest) : Answers a rest (.ok (a, after)) := ⟨rfl, same⟩

theorem bind {x : Except ReadError (α × Cursor)} {f : α × Cursor → Except ReadError (β × Cursor)}
    (first : Answers a rest x) (next : ∀ after : Cursor, after.rest = rest → Answers b left (f (a, after))) :
    Answers b left (x >>= f) := by
  cases x with
  | ok r =>
    obtain ⟨a', after⟩ := r
    obtain ⟨rfl, same⟩ := first
    exact next after same
  | error e =>
    cases e with
    | invalid cause offset => exact first
    | integerTooLong digits => exact trivial

end Answers

section

variable {c : Cursor} {rest : List Char}

theorem number?_eq_none (stops : ∀ d ∈ c.rest.head?, Numeral.isDigit d = false) :
    number? c = .ok (none, c) := by
  have none : ([] ++ c.rest).span Numeral.isDigit = ([], c.rest) :=
    Numeral.span_digits (fun _ member => absurd member List.not_mem_nil) stops
  rw [number?, show c.rest.span Numeral.isDigit = _ from none]
  rfl

theorem stops_of_cons {d : Char} (other : Numeral.isDigit d = false) (rest : List Char) :
    ∀ e ∈ (d :: rest).head?, Numeral.isDigit e = false := by
  intro e head
  cases head
  exact other

theorem answers_number? {n : Nat} {ds : List Char} (count : Digits n ds)
    (stops : ∀ d ∈ rest.head?, Numeral.isDigit d = false) (text : c.rest = ds ++ rest) :
    Answers (some n) rest (number? c) := by
  unfold number?
  rw [text, Numeral.span_digits count.digits stops]
  simp only [List.isEmpty_iff, count.nonempty, if_false]
  unfold toNat
  split
  · trivial
  · rw [count.value]
    exact ⟨rfl, rfl⟩

theorem answers_closeQuantifier {q : Quantifier} (ordered : q.InOrder) (text : c.rest = '\x7d' :: rest) :
    Answers (some q) rest (closeQuantifier q c) := by
  unfold closeQuantifier
  rw [text]
  cases q with
  | between low high =>
    have inOrder : ¬ high < low := Nat.not_lt.mpr ordered
    simp only [inOrder, if_false]
    exact .ok rfl
  | _ => exact .ok rfl

theorem answers_quantifier {q : Quantifier} {s : List Char} (quantifier : QuantifierText q s)
    (ordered : q.InOrder) (text : c.rest = s ++ rest) : Answers (some q) rest (Reader.quantifier c) := by
  have brace (rest : List Char) := stops_of_cons (d := '\x7d') (by decide) rest
  have comma (rest : List Char) := stops_of_cons (d := ',') (by decide) rest
  unfold Reader.quantifier
  rw [text]
  cases quantifier with
  | star => exact .ok rfl
  | plus => exact .ok rfl
  | optional => exact .ok rfl
  | @exactly n ds count =>
    apply (answers_number? count (brace rest) (by simp)).bind
    intro c same
    simp only [same]
    exact answers_closeQuantifier ordered same
  | @atLeast n ds low =>
    apply (answers_number? low (comma ('\x7d' :: rest)) (by simp)).bind
    intro c same
    simp only [same]
    rw [number?_eq_none (by exact brace rest)]
    change Answers _ rest (closeQuantifier (.atLeast n) ⟨c.offset + 1, '\x7d' :: rest⟩)
    exact answers_closeQuantifier ordered rfl
  | @between m n ds es low high =>
    apply (answers_number? low (comma (es ++ '\x7d' :: rest)) (by simp)).bind
    intro c same
    simp only [same]
    apply (answers_number? high (brace rest) rfl).bind
    intro c same
    exact answers_closeQuantifier ordered same

theorem quantifier_eq_none (plain : ∀ d ∈ c.rest.head?, d ∉ ['*', '+', '?', '\x7b']) :
    quantifier c = .ok (none, c) := by
  unfold quantifier
  split
  case h_5 => rfl
  all_goals
    next rest same =>
    rw [same] at plain
    exact absurd (plain _ rfl) (by simp)

theorem answers_categoryName {name : String} (known : name ∈ categoryNames)
    (text : c.rest = '\x7b' :: (name.toList ++ '\x7d' :: rest)) : Answers name rest (categoryName c) := by
  unfold categoryName
  rw [text]
  simp only [span_categoryName known]
  simp [known, Answers]

theorem answers_escape {e : Escape} {s : List Char} (escape : EscapeText e s) (text : c.rest = s ++ rest) :
    Answers e rest (Reader.escape c) := by
  unfold Reader.escape
  rw [text]
  cases escape with
  | @char d c escape =>
    rcases singleCharEscape_iff.mp escape with control | ⟨none, escapable, rfl⟩
    · simp only [List.singleton_append, control]
      exact .ok rfl
    · simp only [List.singleton_append, none, escapable, if_true]
      exact .ok rfl
  | @category negated name s escape =>
    cases escape with
    | category known =>
      rw [show 'p' :: '\x7b' :: (name.toList ++ ['\x7d']) ++ rest =
        'p' :: '\x7b' :: (name.toList ++ '\x7d' :: rest) by simp]
      apply Answers.bind (answers_categoryName known rfl)
      intro c same
      exact .ok same
    | complement known =>
      rw [show 'P' :: '\x7b' :: (name.toList ++ ['\x7d']) ++ rest =
        'P' :: '\x7b' :: (name.toList ++ '\x7d' :: rest) by simp]
      apply Answers.bind (answers_categoryName known rfl)
      intro c same
      exact .ok same

theorem answers_classCharacter {e : Escape} {s : List Char} (atom : ClassAtom e s)
    (text : c.rest = s ++ rest) : Answers e rest (classCharacter c) := by
  unfold classCharacter
  rw [text]
  cases atom with
  | char char =>
    cases char with
    | plain allowed =>
      obtain ⟨backslash, special⟩ := isClassChar_iff.mp allowed
      simp only [List.singleton_append, backslash, special, if_false]
      exact .ok rfl
    | @escaped d c' escape =>
      change Answers _ rest (Reader.escape ⟨c.offset + 1, [d] ++ rest⟩)
      exact answers_escape (.char escape) rfl
  | category escape =>
    obtain ⟨t, rfl⟩ := escape.backslash
    change Answers _ rest (Reader.escape ⟨c.offset + 1, t ++ rest⟩)
    exact answers_escape (.category escape) rfl

def EndsMember (rest : List Char) : Prop := ∀ t, rest = '-' :: t → ∃ u, t = ']' :: u

theorem endsMember_of_members {items : List ClassItem} {t : List Char}
    (members : ClassMembers items t) (rest : List Char) : EndsMember (t ++ ']' :: rest) := by
  intro v same
  cases members with
  | none => cases same
  | hyphen =>
    cases same
    exact ⟨rest, rfl⟩
  | more next _ =>
    obtain ⟨e, w, rfl, -, other⟩ := next.head
    cases same
    exact absurd rfl other

theorem answers_classItem_alone {e : Escape} {s : List Char} (atom : ClassAtom e s)
    (ends : EndsMember rest) (text : c.rest = s ++ rest) : Answers e.item rest (classItem c) := by
  apply (answers_classCharacter atom text).bind
  intro c same
  simp only
  split
  · next d t text =>
    obtain ⟨u, closed⟩ := ends (d :: t) (same.symm.trans text)
    cases closed
    exact .ok same
  · exact .ok same

theorem answers_classItem {item : ClassItem} {s : List Char} (member : ClassMember item s)
    (ordered : item.InOrder) (ends : EndsMember rest) (text : c.rest = s ++ rest) :
    Answers item rest (classItem c) := by
  cases member with
  | char char => exact answers_classItem_alone (.char char) ends text
  | category escape => exact answers_classItem_alone (.category escape) ends text
  | @range low high lowEscaped highEscaped s t lower upper =>
    rw [List.append_assoc] at text
    apply (answers_classCharacter (.char lower) text).bind
    intro c same
    have inOrder : ¬ high < low := Char.not_lt.mpr ordered
    obtain ⟨d, u, rfl, inside, -⟩ := upper.head
    simp only
    rw [same, List.cons_append, List.cons_append]
    simp only [inside, if_false]
    apply Answers.bind (answers_classCharacter (.char upper) rfl)
    intro c same
    simp only [range, inOrder, if_false]
    exact .ok same

theorem answers_classItems {items : List ClassItem} {s : List Char} (members : ClassMembers items s)
    (ordered : ∀ item ∈ items, item.InOrder) {fuel : Nat} (fueled : s.length < fuel)
    (text : c.rest = s ++ ']' :: rest) : Answers items rest (classItems fuel c) := by
  induction members generalizing fuel c with
  | none =>
    cases fuel with
    | zero => contradiction
    | succ fuel =>
      rw [classItems, text]
      exact .ok rfl
  | hyphen =>
    cases fuel with
    | zero => contradiction
    | succ fuel =>
      rw [classItems, text]
      exact .ok rfl
  | @more item items s t first members ih =>
    cases fuel with
    | zero => contradiction
    | succ fuel =>
      obtain ⟨d, u, rfl, bracket, hyphen⟩ := first.head
      rw [List.append_assoc] at text
      have here := answers_classItem first (ordered item List.mem_cons_self) (endsMember_of_members members rest) text
      have after : Answers (item :: items) rest (classItem c >>= fun first =>
          classItems fuel first.2 >>= fun others => pure (first.1 :: others.1, others.2)) := by
        apply here.bind
        intro c same
        have smaller : t.length < fuel := by
          rw [List.length_append, List.length_cons] at fueled
          omega
        apply (ih (fun item member => ordered item (List.mem_cons_of_mem _ member)) smaller same).bind
        intro c same
        exact .ok same
      unfold classItems
      split
      case h_5 => exact after
      all_goals
        next same =>
        rw [text] at same
        simp [bracket, hyphen] at same

theorem answers_members (negated : Bool) {hyphen items : List ClassItem} {t : List Char}
    (members : ClassMembers items t) (ordered : ∀ item ∈ items, item.InOrder)
    (nonempty : hyphen ++ items ≠ []) (text : c.rest = t ++ ']' :: rest) :
    Answers (Pattern.set negated (hyphen ++ items)) rest (do
      let (items, after) ← classItems (c.rest.length + 1) c
      if (hyphen ++ items).isEmpty then fail .emptyClass c
      else return (Pattern.set negated (hyphen ++ items), after)) := by
  have fueled : t.length < c.rest.length + 1 := by
    rw [text, List.length_append]
    omega
  apply (answers_classItems members ordered fueled text).bind
  intro c same
  simp only [List.isEmpty_iff, nonempty, if_false]
  exact .ok same

theorem answers_characterClass {negated : Bool} {items : List ClassItem} {s : List Char}
    (body : ClassBody items s) (ordered : ∀ item ∈ items, item.InOrder)
    (carets : negated = false → ∀ item ∈ items.head?, ¬ item.StartsWithCaret)
    (text : c.rest = (if negated then ['^'] else []) ++ s ++ ']' :: rest) :
    Answers (Pattern.set negated items) rest (characterClass c) := by
  unfold characterClass
  split
  next negated' c' sign =>
  split
  next hyphen c'' first =>
  have signed : negated' = negated ∧ c'.rest = s ++ ']' :: rest := by
    cases negated with
    | true =>
      rw [text] at sign
      cases sign
      exact ⟨rfl, rfl⟩
    | false =>
      have plain : s.head? ≠ some '^' := by
        intro caret
        obtain ⟨item, head, starts⟩ := body.head?_startsWithCaret_iff.mpr caret
        exact carets rfl item head starts
      split at sign
      · next rest' same =>
        rw [text] at same
        cases s with
        | nil => simp at same
        | cons d s =>
          simp at same plain
          exact absurd same.1 plain
      · cases sign
        exact ⟨rfl, text⟩
  obtain ⟨rfl, unsigned⟩ := signed
  cases body with
  | @hyphen items t members =>
    split at first
    · next u same =>
      cases first
      have left : u = t ++ ']' :: rest := by simpa [unsigned] using same.symm
      exact answers_members negated' members
        (fun item member => ordered item (List.mem_cons_of_mem _ member)) (by simp) left
    · next other => exact absurd unsigned (other _)
  | @member item items s t head members =>
    split at first
    · next u same =>
      obtain ⟨d, v, rfl, -, hyphen⟩ := head.head
      rw [unsigned] at same
      simp [hyphen] at same
    · cases first
      have whole : ClassMembers (item :: items) (s ++ t) := .more head members
      exact answers_members negated' whole ordered (List.cons_ne_nil item items) unsigned

end

section

variable {c : Cursor} {rest : List Char}

/-- What a reader makes of a text that a rule derives, by what may come behind that. The fuel is for each
character. -/
def Complete (p : Pattern) (s : List Char) : Rule → Prop
  | .regexp => ∀ ⦃limit fuel count : Nat⦄ ⦃c : Cursor⦄ ⦃rest : List Char⦄, s.length ≤ limit →
      s.length < fuel → s.length < count → (∀ d ∈ rest.head?, d = ')') → c.rest = s ++ rest →
      Answers p rest (branches (pattern limit) fuel count c)
  | .branch => ∀ ⦃limit fuel : Nat⦄ ⦃c : Cursor⦄ ⦃rest : List Char⦄, s.length ≤ limit → s.length < fuel →
      endsBranch rest → c.rest = s ++ rest → Answers p rest (branch (pattern limit) fuel c)
  | .pieces => ∀ ⦃limit fuel : Nat⦄ ⦃c : Cursor⦄ ⦃rest : List Char⦄, s.length ≤ limit → s.length < fuel →
      endsBranch rest → c.rest = s ++ rest → Answers p rest (branch (pattern limit) fuel c)
  | .piece => ∀ ⦃limit : Nat⦄ ⦃c : Cursor⦄ ⦃rest : List Char⦄, s.length ≤ limit →
      (∀ d ∈ rest.head?, d ∉ ['*', '+', '?', '\x7b']) → c.rest = s ++ rest →
      Answers p rest (piece (pattern limit) c)
  | .atom => ∀ ⦃limit : Nat⦄ ⦃c : Cursor⦄ ⦃rest : List Char⦄, s.length ≤ limit → c.rest = s ++ rest →
      Answers p rest (atom (pattern limit) c)

namespace Complete

variable {p ps : Pattern} {s t : List Char}

theorem lastBranch (last : Complete p s .branch) : Complete p s .regexp := by
  intro limit fuel count c rest small fueled counted closes text
  have here := last small fueled (endsBranch_of_closes closes) text
  cases count with
  | zero => exact here
  | succ count =>
    apply here.bind
    intro c same
    simp only
    split
    · next t bar =>
      rw [same] at bar
      have closes := closes '|' (by simp [bar])
      contradiction
    · exact .ok same

theorem moreBranches (first : Complete p s .branch) (more : Complete ps t .regexp) :
    Complete (.alternatives p ps) (s ++ '|' :: t) .regexp := by
  intro limit fuel count c rest small fueled counted closes text
  rw [List.length_append, List.length_cons] at small fueled counted
  rw [List.append_assoc] at text
  cases count with
  | zero => omega
  | succ count =>
    have here : Answers p ('|' :: t ++ rest) (branch (pattern limit) fuel c) :=
      first (by omega) (by omega) rfl text
    apply here.bind
    intro c same
    simp only [same, List.cons_append]
    apply Answers.bind (more (by omega) (by omega) (by omega) closes rfl)
    intro c same
    exact .ok same

theorem noPiece : Complete .empty [] .branch := by
  intro limit fuel c rest _ fueled ends text
  cases fuel with
  | zero => contradiction
  | succ fuel =>
    unfold branch
    rw [text, List.nil_append, ends, if_pos rfl]
    exact .ok text

theorem lastPiece (last : Complete p s .piece) (starts : StartsPiece s) : Complete p s .pieces := by
  intro limit fuel c rest small fueled ends text
  cases fuel with
  | zero => contradiction
  | succ fuel =>
    unfold branch
    rw [text, starts.not_endsBranch, if_neg Bool.false_ne_true]
    apply (last small (plain_of_endsBranch ends) text).bind
    intro c same
    simp only
    rw [same, ends, if_pos rfl]
    exact .ok same

theorem morePieces (first : Complete p s .piece) (more : Complete ps t .pieces) (starts : StartsPiece s)
    (starts' : StartsPiece t) : Complete (.sequence p ps) (s ++ t) .pieces := by
  intro limit fuel c rest small fueled ends text
  have positive := List.length_pos_iff.mpr starts.ne_nil
  rw [List.length_append] at small fueled
  rw [List.append_assoc] at text
  cases fuel with
  | zero => contradiction
  | succ fuel =>
    unfold branch
    rw [text, starts.not_endsBranch, if_neg Bool.false_ne_true]
    apply (first (by omega) (starts'.plain rest) text).bind
    intro c same
    simp only
    rw [same, starts'.not_endsBranch, if_neg Bool.false_ne_true]
    apply (more (by omega) (by omega) ends same).bind
    intro c same
    exact .ok same

theorem unquantified (atom : Complete p s .atom) : Complete p s .piece := by
  intro limit c rest small plain text
  apply (atom small text).bind
  intro c same
  rw [← same] at plain
  simp only
  rw [quantifier_eq_none plain]
  exact .ok same

theorem quantified {q : Quantifier} (atom : Complete p s .atom) (quantifier : QuantifierText q t)
    (ordered : q.InOrder) : Complete (.quantified p q) (s ++ t) .piece := by
  intro limit c rest small plain text
  rw [List.length_append] at small
  rw [List.append_assoc] at text
  apply (atom (by omega) text).bind
  intro c same
  apply (answers_quantifier quantifier ordered same).bind
  intro c same
  exact .ok same

theorem char {d : Char} (normal : IsNormalChar d) : Complete (.char d false) [d] .atom := by
  intro limit c rest _ text
  have ordinary := isNormalChar_iff.mp normal
  unfold atom
  rw [text]
  have others : ¬ d = '(' ∧ ¬ d = '.' ∧ ¬ d = '[' ∧ ¬ d = '\\' := by
    refine ⟨?_, ?_, ?_, ?_⟩ <;> rintro rfl <;> contradiction
  simp only [List.singleton_append, others, ordinary, if_false, Bool.false_eq_true]
  exact .ok rfl

theorem dot : Complete .dot ['.'] .atom := by
  intro limit c rest _ text
  unfold atom
  rw [text]
  exact .ok rfl

theorem escape {d e : Char} (escape : SingleCharEscape d e) :
    Complete (.char e true) ['\\', d] .atom := by
  intro limit c rest _ text
  unfold atom
  rw [text]
  simp only [List.cons_append, Char.reduceEq, if_false, if_true]
  apply Answers.bind (answers_escape (.char escape) rfl)
  intro c same
  exact .ok same

theorem category {negated : Bool} {name : String} (escape : CategoryEscape negated name s) :
    Complete (.category negated name) s .atom := by
  intro limit c rest _ text
  obtain ⟨t, rfl⟩ := escape.backslash
  unfold atom
  rw [text]
  simp only [List.cons_append, Char.reduceEq, if_false, if_true]
  apply Answers.bind (answers_escape (.category escape) rfl)
  intro c same
  exact .ok same

theorem set {items : List ClassItem} (negated : Bool) (body : ClassBody items s)
    (formed : (Pattern.set negated items).WellFormed) :
    Complete (.set negated items) ('[' :: ((if negated then ['^'] else []) ++ s ++ [']'])) .atom := by
  intro limit c rest _ text
  unfold atom
  rw [text]
  simp only [List.cons_append, Char.reduceEq, if_false, if_true]
  exact answers_characterClass body formed.1 formed.2 (by simp)

theorem group (inside : Complete p s .regexp) : Complete (.group p) ('(' :: (s ++ [')'])) .atom := by
  intro limit c rest small text
  rw [List.length_cons, List.length_append, List.length_singleton] at small
  cases limit with
  | zero => contradiction
  | succ limit =>
    unfold atom
    rw [text]
    simp only [List.cons_append, if_true, List.append_assoc]
    have here : Answers p (')' :: rest) (pattern (limit + 1) ⟨c.offset + 1, s ++ ')' :: rest⟩) :=
      inside (by omega) (by omega) (by omega) (closes_of_cons rest) rfl
    apply here.bind
    intro c same
    simp only [same]
    exact .ok rfl

end Complete

theorem complete {rule : Rule} {p : Pattern} {s : List Char} (derived : Derives rule p s)
    (formed : p.WellFormed) : Complete p s rule := by
  induction derived with
  | lastBranch last ih => exact Complete.lastBranch (ih formed)
  | moreBranches first more ih ih' =>
    obtain ⟨⟨ordered, ordered'⟩, carets, carets'⟩ := formed
    exact Complete.moreBranches (ih ⟨ordered, carets⟩) (ih' ⟨ordered', carets'⟩)
  | noPiece => exact Complete.noPiece
  | somePieces pieces ih => exact ih formed
  | lastPiece last ih => exact Complete.lastPiece (ih formed) last.piece_startsPiece
  | morePieces first more ih ih' =>
    obtain ⟨⟨ordered, ordered'⟩, carets, carets'⟩ := formed
    exact Complete.morePieces (ih ⟨ordered, carets⟩) (ih' ⟨ordered', carets'⟩) first.piece_startsPiece
      more.pieces_startsPiece
  | unquantified atom ih => exact Complete.unquantified (ih formed)
  | quantified atom quantifier ih =>
    obtain ⟨⟨ordered, inOrder⟩, carets, -⟩ := formed
    exact Complete.quantified (ih ⟨ordered, carets⟩) quantifier inOrder
  | char normal => exact Complete.char normal
  | dot => exact Complete.dot
  | escape escape => exact Complete.escape escape
  | category escape => exact Complete.category escape
  | set body => exact Complete.set false body formed
  | complement body => exact Complete.set true body formed
  | group inside ih => exact Complete.group (ih formed)

end

end Reader

theorem read_complete {source : String} {p : Pattern} (derived : Derives .regexp p source.toList)
    (formed : p.WellFormed) :
    read source = .ok p ∨ ∃ digits, read source = .error (.integerTooLong digits) := by
  have answers : Reader.Answers p [] (Reader.pattern (source.toList.length + 1) (Cursor.ofString source)) :=
    Reader.complete derived formed (Nat.le_refl _) (Nat.lt_succ_self _) (Nat.lt_succ_self _) (by simp)
      (List.append_nil _).symm
  unfold read
  simp only
  rw [show (Cursor.ofString source).rest = source.toList from rfl]
  cases run : Reader.pattern (source.toList.length + 1) (Cursor.ofString source) with
  | ok r =>
    obtain ⟨q, c⟩ := r
    rw [run] at answers
    obtain ⟨rfl, left⟩ := answers
    simp only [bind, Except.bind, left]
    exact .inl rfl
  | error e =>
    rw [run] at answers
    cases e with
    | invalid cause offset => exact answers.elim
    | integerTooLong digits => exact .inr ⟨digits, rfl⟩

end Pattern

end JsonPath
