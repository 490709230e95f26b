import JsonPath.Proofs.Number.Decimal
import JsonPath.Proofs.Pattern.Derivation
import JsonPath.Proofs.Pattern.Regex

namespace JsonPath

def ClassItem.bare : ClassItem → ClassItem
  | char c _ => .char c false
  | range low _ high _ => .range low false high false
  | category negated name => .category negated name

namespace Pattern

def regex : Pattern → Regex
  | empty => .empty
  | char c _ => .set false [.char c false]
  | dot => .set true [.char '\n' false, .char '\r' false]
  | set negated items => .set negated (items.map ClassItem.bare)
  | category negated name => .set false [.category negated name]
  | group p => p.regex
  | quantified p q => .repeated p.regex q.low q.high?
  | sequence p ps => .sequence p.regex ps.regex
  | alternatives p ps => .alternatives p.regex ps.regex

theorem holds_bare (item : ClassItem) (c : Char) : item.bare.holds c = item.holds c := by
  cases item <;> rfl

theorem regex_language (p : Pattern) : p.regex.language = p.language := by
  induction p with
  | empty => rfl
  | char d escaped =>
    rw [language, ← letter_eq]
    exact letter_congr fun c => by simp [ClassItem.holds]
  | dot => exact letter_congr fun c => by simp [ClassItem.holds]
  | set negated items =>
    cases negated with
    | true => exact letter_congr fun c => by simp [holds_bare]
    | false => exact letter_congr fun c => by simp [holds_bare]
  | category negated name => exact letter_congr fun c => by cases negated <;> simp [ClassItem.holds]
  | group p ih => exact ih
  | quantified p q ih => rw [regex, language, Regex.language, ih]
  | sequence p ps ih ih' => rw [regex, language, Regex.language, ih, ih']
  | alternatives p ps ih ih' => rw [regex, language, Regex.language, ih, ih']

theorem SingleCharEscape.escapedChar {d c : Char} (escape : SingleCharEscape d c) :
    (escapedChar c).toList = ['\\', d] := by
  cases escape with
  | itself listed =>
    have other : d ≠ '\n' ∧ d ≠ '\r' ∧ d ≠ '\t' := by
      simp only [← Char.toNat_inj, ne_eq] at *
      simp at *
      omega
    unfold JsonPath.escapedChar
    simp [other]
  | _ => rfl

theorem SingleCharEscape.read {d c : Char} (escape : SingleCharEscape d c) (rest : List Char) :
    Regex.escape (d :: rest) = some (.char c false, rest) := by
  cases escape with
  | itself listed =>
    have escapable : d ∈ "()*+-.?[\\]^\x7b|\x7d".toList :=
      List.contains_iff_mem.mp (isEscapable_iff.mpr listed)
    simp only [String.reduceToList, List.mem_cons, List.not_mem_nil, or_false] at escapable
    rcases escapable with rfl | rfl | rfl | rfl | rfl | rfl | rfl | rfl | rfl | rfl | rfl | rfl | rfl | rfl
    all_goals rfl
  | _ => rfl

theorem CategoryEscape.known {negated : Bool} {name : String} {s : List Char}
    (escape : CategoryEscape negated name s) : name ∈ categoryNames := by
  cases escape <;> assumption

theorem read_category {name : String} (known : name ∈ categoryNames) (negated : Bool) (rest : List Char) :
    Regex.category negated (name.toList ++ '\x7d' :: rest) = some (.category negated name, rest) := by
  rw [Regex.category, span_categoryName known]
  simp [known]

theorem read_categoryText {name : String} (known : name ∈ categoryNames) (negated : Bool)
    (rest : List Char) : ∃ t, (Pattern.category negated name).text.toList = '\\' :: t ∧
      Regex.escape (t ++ rest) = some (.category negated name, rest) := by
  have read := read_category known negated rest
  cases negated with
  | true => exact ⟨'P' :: '\x7b' :: (name.toList ++ ['\x7d']), by simp [text], by simpa [Regex.escape] using read⟩
  | false => exact ⟨'p' :: '\x7b' :: (name.toList ++ ['\x7d']), by simp [text], by simpa [Regex.escape] using read⟩

def InClass (c : Char) (escaped : Bool) : Prop := (c = '-' ∧ escaped = false) ∨ ∃ s, ClassChar c escaped s

namespace InClass

variable {c : Char} {escaped : Bool} (inside : InClass c escaped)

include inside

theorem head : ∃ d t, (ClassItem.charText c escaped).toList = d :: t ∧
    d ≠ ']' ∧ d ≠ '-' ∧ d ≠ '^' := by
  rcases inside with ⟨rfl, rfl⟩ | ⟨s, char⟩
  · exact ⟨'\\', ['-'], rfl, by decide⟩
  · cases char with
    | @escaped d c escape =>
      rw [ClassItem.charText, Bool.true_or, Bool.true_or, if_pos rfl, escape.escapedChar]
      exact ⟨'\\', [d], rfl, by decide⟩
    | plain allowed =>
      obtain ⟨-, special⟩ := isClassChar_iff.mp allowed
      by_cases caret : c = '^'
      · subst caret
        exact ⟨'\\', ['^'], rfl, by decide⟩
      · have hyphen : c ≠ '-' := fun same => special (.inr (.inr same))
        have bracket : c ≠ ']' := fun same => special (.inr (.inl same))
        exact ⟨c, [], by simp [ClassItem.charText, caret, hyphen], bracket, hyphen, caret⟩

theorem read (rest : List Char) :
    Regex.classCharacter ((ClassItem.charText c escaped).toList ++ rest) = some (.char c false, rest) := by
  rcases inside with ⟨rfl, rfl⟩ | ⟨s, char⟩
  · rfl
  · cases char with
    | @escaped d c escape =>
      rw [ClassItem.charText, Bool.true_or, Bool.true_or, if_pos rfl, escape.escapedChar]
      exact escape.read rest
    | plain allowed =>
      obtain ⟨backslash, special⟩ := isClassChar_iff.mp allowed
      by_cases caret : c = '^'
      · subst caret
        rfl
      · have hyphen : c ≠ '-' := fun same => special (.inr (.inr same))
        have plain : (ClassItem.charText c false).toList = [c] := by simp [ClassItem.charText, caret, hyphen]
        rw [plain, List.singleton_append, Regex.classCharacter, if_neg backslash, if_neg special]

end InClass

def Member (item : ClassItem) : Prop := item = .char '-' false ∨ ∃ s, ClassMember item s

theorem ClassMembers.forall_member {items : List ClassItem} {s : List Char} (members : ClassMembers items s) :
    ∀ item ∈ items, Member item := by
  induction members with
  | none => simp
  | hyphen => simp [Member]
  | @more item items s t first _ ih =>
    intro item' member
    rcases List.mem_cons.mp member with rfl | member
    · exact .inr ⟨s, first⟩
    · exact ih item' member

theorem ClassBody.forall_member {items : List ClassItem} {s : List Char} (body : ClassBody items s) :
    ∀ item ∈ items, Member item := by
  intro item member
  cases body with
  | hyphen members =>
    rcases List.mem_cons.mp member with rfl | member
    · exact .inl rfl
    · exact members.forall_member item member
  | @member first items s t here members =>
    rcases List.mem_cons.mp member with rfl | member
    · exact .inr ⟨s, here⟩
    · exact members.forall_member item member

namespace Member

variable {item : ClassItem} (member : Member item)

include member

theorem head : ∃ d t, item.text.toList = d :: t ∧ d ≠ ']' ∧ d ≠ '-' ∧ d ≠ '^' := by
  rcases member with rfl | ⟨s, written⟩
  · exact ⟨'\\', ['-'], rfl, by decide⟩
  · cases written with
    | char char => exact InClass.head (.inr ⟨_, char⟩)
    | range lower upper =>
      obtain ⟨d, t, text, others⟩ := InClass.head (.inr ⟨_, lower⟩)
      exact ⟨d, _, by rw [ClassItem.text, String.toList_append, String.toList_append, text]; rfl, others⟩
    | category escape =>
      obtain ⟨t, text, -⟩ := read_categoryText escape.known _ []
      exact ⟨'\\', t, text, by decide⟩

theorem read (ordered : item.InOrder) {rest : List Char} (ends : rest.head? ≠ some '-') :
    Regex.classItem (item.text.toList ++ rest) = some (item.bare, rest) := by
  have alone {e : ClassItem} {text : List Char} (here : Regex.classCharacter text = some (e, rest)) :
      Regex.classItem text = some (e, rest) := by
    unfold Regex.classItem
    rw [here]
    simp only [Option.bind_eq_bind, Option.bind_some]
    split
    · next rest' => exact absurd rfl ends
    · rfl
  rcases member with rfl | ⟨s, written⟩
  · exact alone (InClass.read (.inl ⟨rfl, rfl⟩) rest)
  · cases written with
    | char char => exact alone (InClass.read (.inr ⟨s, char⟩) rest)
    | @range low high lowEscaped highEscaped s t lower upper =>
      have first := InClass.read (.inr ⟨s, lower⟩)
      have second := InClass.read (.inr ⟨t, upper⟩) rest
      have inOrder : low ≤ high := ordered
      rw [ClassItem.text, String.toList_append, String.toList_append, List.append_assoc, List.append_assoc]
      unfold Regex.classItem
      rw [first]
      simp [second, inOrder, ClassItem.bare]
    | @category negated name s escape =>
      obtain ⟨t, text, read⟩ := read_categoryText escape.known negated rest
      rw [show (ClassItem.category negated name).text.toList = '\\' :: t from text]
      exact alone read

end Member

def membersText (items : List ClassItem) : List Char := items.flatMap fun item => item.text.toList

theorem membersText_cons (item : ClassItem) (items : List ClassItem) :
    membersText (item :: items) = item.text.toList ++ membersText items := rfl

theorem membersText_ends {items : List ClassItem} (members : ∀ item ∈ items, Member item)
    (rest : List Char) : (membersText items ++ ']' :: rest).head? ≠ some '-' := by
  cases items with
  | nil => simp [membersText]
  | cons item items =>
    obtain ⟨d, t, text, -, hyphen, -⟩ := (members item List.mem_cons_self).head
    simp [membersText_cons, text, hyphen]

theorem membersText_plain {items : List ClassItem} (nonempty : items ≠ [])
    (members : ∀ item ∈ items, Member item) (rest : List Char) :
    (membersText items ++ rest).head? ≠ some '^' := by
  cases items with
  | nil => contradiction
  | cons item items =>
    obtain ⟨d, t, text, -, -, caret⟩ := (members item List.mem_cons_self).head
    simp [membersText_cons, text, caret]

theorem read_classItems {items : List ClassItem} (members : ∀ item ∈ items, Member item)
    (ordered : ∀ item ∈ items, item.InOrder) {fuel : Nat} (fueled : (membersText items).length < fuel)
    (rest : List Char) : Regex.classItems fuel (membersText items ++ ']' :: rest) =
      some (items.map ClassItem.bare, rest) := by
  induction items generalizing fuel with
  | nil =>
    cases fuel with
    | zero => contradiction
    | succ fuel => rfl
  | cons item items ih =>
    cases fuel with
    | zero => contradiction
    | succ fuel =>
      obtain ⟨member, members⟩ := List.forall_mem_cons.mp members
      obtain ⟨inOrder, ordered⟩ := List.forall_mem_cons.mp ordered
      have here := member.read inOrder (membersText_ends members rest)
      obtain ⟨d, t, text, bracket, -⟩ := member.head
      rw [membersText_cons, List.length_append, text, List.length_cons] at fueled
      have enough : (membersText items).length < fuel := by omega
      have more := ih members ordered enough
      rw [membersText_cons, List.append_assoc]
      unfold Regex.classItems
      split
      · next none => contradiction
      · next same =>
        rw [text] at same
        simp [bracket] at same
      · next same other =>
        cases same
        rw [here]
        simp only [Option.bind_eq_bind, Option.bind_some, more, List.map_cons]

theorem read_characterClass {items : List ClassItem} (nonempty : items ≠ [])
    (members : ∀ item ∈ items, Member item) (ordered : ∀ item ∈ items, item.InOrder) (negated : Bool)
    (rest : List Char) : Regex.characterClass negated (membersText items ++ ']' :: rest) =
      some (.set negated (items.map ClassItem.bare), rest) := by
  cases items with
  | nil => contradiction
  | cons item items =>
    obtain ⟨member, members⟩ := List.forall_mem_cons.mp members
    obtain ⟨inOrder, ordered⟩ := List.forall_mem_cons.mp ordered
    have here := member.read inOrder (membersText_ends members rest)
    have fueled : (membersText items).length < (membersText items ++ ']' :: rest).length + 1 := by
      rw [List.length_append]
      omega
    have more := read_classItems members ordered fueled rest
    rw [membersText_cons, List.append_assoc]
    unfold Regex.characterClass
    rw [here]
    simp only [Option.bind_eq_bind, Option.bind_some, more, List.map_cons]

theorem digitsValue_toDigits (n : Nat) : Numeral.digitsValue (Nat.toDigits 10 n) = n :=
  Nat.ofDigitChars_ten_toDigits

theorem read_quantifier (q : Quantifier) (rest : List Char) :
    Regex.quantifier (q.text.toList ++ rest) = some (some (q.low, q.high?), rest) := by
  have brace : Numeral.Ends ('\x7d' :: rest) := by simp [Numeral.Ends, Numeral.isDigit]
  cases q with
  | star => rfl
  | plus => rfl
  | optional => rfl
  | exactly n =>
    have text : (Quantifier.exactly n).text.toList ++ rest =
        '\x7b' :: (Nat.toDigits 10 n ++ '\x7d' :: rest) := by
      simp [Quantifier.text]
    rw [text, Regex.quantifier, Numeral.span_toDigits n brace]
    simp [Nat.toDigits_ne_nil, digitsValue_toDigits, Quantifier.low, Quantifier.high?]
  | atLeast n =>
    have comma : Numeral.Ends (',' :: '\x7d' :: rest) := by simp [Numeral.Ends, Numeral.isDigit]
    have text : (Quantifier.atLeast n).text.toList ++ rest =
        '\x7b' :: (Nat.toDigits 10 n ++ ',' :: '\x7d' :: rest) := by
      simp [Quantifier.text]
    rw [text, Regex.quantifier, Numeral.span_toDigits n comma]
    simp [Nat.toDigits_ne_nil, digitsValue_toDigits, Quantifier.low, Quantifier.high?,
      List.span_eq_takeWhile_dropWhile, Numeral.isDigit]
  | between m n =>
    have comma : Numeral.Ends (',' :: (Nat.toDigits 10 n ++ '\x7d' :: rest)) := by
      simp [Numeral.Ends, Numeral.isDigit]
    have text : (Quantifier.between m n).text.toList ++ rest =
        '\x7b' :: (Nat.toDigits 10 m ++ ',' :: (Nat.toDigits 10 n ++ '\x7d' :: rest)) := by
      simp [Quantifier.text]
    have second := Numeral.span_toDigits n brace
    rw [List.span_eq_takeWhile_dropWhile, Prod.mk.injEq] at second
    rw [text, Regex.quantifier, Numeral.span_toDigits m comma]
    simp [Nat.toDigits_ne_nil, digitsValue_toDigits, Quantifier.low, Quantifier.high?, second]

theorem quantifier_eq_none {rest : List Char} (plain : ∀ d ∈ rest.head?, d ∉ ['*', '+', '?', '\x7b']) :
    Regex.quantifier rest = some (none, rest) := by
  unfold Regex.quantifier
  split
  case h_5 => rfl
  all_goals exact absurd (plain _ rfl) (by simp)

theorem toList_text_set (negated : Bool) (items : List ClassItem) :
    (Pattern.set negated items).text.toList =
      '[' :: ((if negated then ['^'] else []) ++ membersText items ++ [']']) := by
  cases negated <;> simp [text, membersText, List.flatMap_map]

theorem toList_text_group (p : Pattern) :
    (Pattern.group p).text.toList = '(' :: '?' :: ':' :: (p.text.toList ++ [')']) := by
  simp [text]

theorem IsNormalChar.text {c : Char} (normal : IsNormalChar c) :
    (c = '^' ∨ c = '$') ∧ (Pattern.char c false).text.toList = ['\\', c] ∨
      Regex.isSyntax c = false ∧ (Pattern.char c false).text.toList = [c] := by
  by_cases anchor : c = '^' ∨ c = '$'
  · refine .inl ⟨anchor, ?_⟩
    rcases anchor with rfl | rfl <;> rfl
  · have plain := isNormalChar_iff.mp normal
    have others : c ≠ '^' ∧ c ≠ '$' := not_or.mp anchor
    refine .inr ⟨?_, by simp [Pattern.text, others]⟩
    simp only [Reader.isSpecial, Regex.isSyntax, String.reduceToList] at plain ⊢
    simp_all

theorem Derives.startsPiece_text {rule : Rule} {p : Pattern} {s : List Char} (derived : Derives rule p s)
    (nonempty : rule = .atom ∨ rule = .piece ∨ rule = .pieces) : StartsPiece p.text.toList := by
  induction derived with
  | @char c normal =>
    rcases normal.text with ⟨-, text⟩ | ⟨-, text⟩
    · rw [text]
      exact ⟨'\\', [c], rfl, by decide⟩
    · rw [text]
      exact (Derives.char normal).atom_startsPiece
  | dot => exact ⟨'[', _, rfl, by decide⟩
  | @escape d c escape =>
    rw [text, Bool.true_or, Bool.true_or, if_pos rfl, escape.escapedChar]
    exact ⟨'\\', [d], rfl, by decide⟩
  | @category negated name s escape =>
    obtain ⟨t, text, -⟩ := read_categoryText escape.known negated []
    exact ⟨'\\', t, text, by decide⟩
  | set body => exact ⟨'[', _, toList_text_set false _, by decide⟩
  | complement body => exact ⟨'[', _, toList_text_set true _, by decide⟩
  | group inside => exact ⟨'(', _, toList_text_group _, by decide⟩
  | unquantified atom ih => exact ih (.inl rfl)
  | quantified atom quantifier ih =>
    obtain ⟨d, t, same, others⟩ := ih (.inl rfl)
    exact ⟨d, _, by rw [text, String.toList_append, same]; rfl, others⟩
  | lastPiece last ih => exact ih (.inr (.inl rfl))
  | morePieces first more ih =>
    obtain ⟨d, t, same, others⟩ := ih (.inr (.inl rfl))
    exact ⟨d, _, by rw [text, String.toList_append, same]; rfl, others⟩
  | _ => simp at nonempty

/-- What a matching engine makes of the text of a pattern that a rule derives, by what may come behind
that. The fuel is for each character. -/
def Translates (p : Pattern) : Rule → Prop
  | .regexp => ∀ ⦃limit fuel count : Nat⦄ ⦃rest : List Char⦄, p.text.toList.length ≤ limit →
      p.text.toList.length < fuel → p.text.toList.length < count → (∀ d ∈ rest.head?, d = ')') →
      Regex.branches (Regex.pattern limit) fuel count (p.text.toList ++ rest) = some (p.regex, rest)
  | .branch => ∀ ⦃limit fuel : Nat⦄ ⦃rest : List Char⦄, p.text.toList.length ≤ limit →
      p.text.toList.length < fuel → Reader.endsBranch rest →
      Regex.branch (Regex.pattern limit) fuel (p.text.toList ++ rest) = some (p.regex, rest)
  | .pieces => ∀ ⦃limit fuel : Nat⦄ ⦃rest : List Char⦄, p.text.toList.length ≤ limit →
      p.text.toList.length < fuel → Reader.endsBranch rest →
      Regex.branch (Regex.pattern limit) fuel (p.text.toList ++ rest) = some (p.regex, rest)
  | .piece => ∀ ⦃limit : Nat⦄ ⦃rest : List Char⦄, p.text.toList.length ≤ limit →
      (∀ d ∈ rest.head?, d ∉ ['*', '+', '?', '\x7b']) →
      Regex.piece (Regex.pattern limit) (p.text.toList ++ rest) = some (p.regex, rest)
  | .atom => ∀ ⦃limit : Nat⦄ ⦃rest : List Char⦄, p.text.toList.length ≤ limit →
      Regex.atom (Regex.pattern limit) (p.text.toList ++ rest) = some (p.regex, rest)

theorem atom_bracket (inner : List Char → Option (Regex × List Char)) {cs : List Char}
    (plain : cs.head? ≠ some '^') : Regex.atom inner ('[' :: cs) = Regex.characterClass false cs := by
  unfold Regex.atom
  split
  · next same => cases same
  · next same =>
    cases same
    exact absurd rfl plain
  · next same =>
    cases same
    rfl
  · next same => cases same
  · next other _ same =>
    cases same
    exact (other rfl).elim
  · contradiction

theorem ClassBody.ne_nil {items : List ClassItem} {s : List Char} (body : ClassBody items s) :
    items ≠ [] := by
  cases body <;> exact List.cons_ne_nil _ _

namespace Translates

variable {p ps : Pattern}

theorem lastBranch (last : Translates p .branch) : Translates p .regexp := by
  intro limit fuel count rest small fueled counted closes
  cases count with
  | zero => contradiction
  | succ count =>
    rw [Regex.branches, last small fueled (endsBranch_of_closes closes)]
    simp only [Option.bind_eq_bind, Option.bind_some]
    split
    · next t => exact absurd (closes '|' rfl) (by decide)
    · rfl

theorem moreBranches (first : Translates p .branch) (more : Translates ps .regexp) :
    Translates (.alternatives p ps) .regexp := by
  intro limit fuel count rest small fueled counted closes
  have whole : (Pattern.alternatives p ps).text.toList = p.text.toList ++ '|' :: ps.text.toList := by
    simp [text]
  rw [whole, List.length_append, List.length_cons] at small fueled counted
  cases count with
  | zero => contradiction
  | succ count =>
    rw [whole, List.append_assoc, List.cons_append, Regex.branches, first (by omega) (by omega) rfl]
    simp only [Option.bind_eq_bind, Option.bind_some]
    rw [more (by omega) (by omega) (by omega) closes]
    rfl

theorem noPiece : Translates .empty .branch := by
  intro limit fuel rest _ fueled ends
  cases fuel with
  | zero => contradiction
  | succ fuel =>
    rw [Regex.branch, if_pos (by exact ends)]
    rfl

theorem lastPiece (last : Translates p .piece) (starts : StartsPiece p.text.toList) :
    Translates p .pieces := by
  intro limit fuel rest small fueled ends
  cases fuel with
  | zero => contradiction
  | succ fuel =>
    rw [Regex.branch, starts.not_endsBranch, if_neg Bool.false_ne_true,
      last small (plain_of_endsBranch ends)]
    simp only [Option.bind_eq_bind, Option.bind_some]
    rw [ends, if_pos rfl]

theorem morePieces (first : Translates p .piece) (more : Translates ps .pieces)
    (starts : StartsPiece p.text.toList) (starts' : StartsPiece ps.text.toList) :
    Translates (.sequence p ps) .pieces := by
  intro limit fuel rest small fueled ends
  have positive := List.length_pos_iff.mpr starts.ne_nil
  rw [text, String.toList_append] at small fueled ⊢
  rw [List.length_append] at small fueled
  cases fuel with
  | zero => contradiction
  | succ fuel =>
    rw [List.append_assoc, Regex.branch, starts.not_endsBranch, if_neg Bool.false_ne_true,
      first (by omega) (starts'.plain rest)]
    simp only [Option.bind_eq_bind, Option.bind_some]
    rw [starts'.not_endsBranch, if_neg Bool.false_ne_true, more (by omega) (by omega) ends]
    rfl

theorem unquantified (atom : Translates p .atom) : Translates p .piece := by
  intro limit rest small plain
  rw [Regex.piece, atom small]
  simp [quantifier_eq_none plain]

theorem quantified (atom : Translates p .atom) (q : Quantifier) : Translates (.quantified p q) .piece := by
  intro limit rest small plain
  rw [text, String.toList_append] at small ⊢
  rw [List.length_append] at small
  rw [List.append_assoc, Regex.piece, atom (by omega)]
  simp only [Option.bind_eq_bind, Option.bind_some]
  rw [read_quantifier]
  rfl

theorem char {c : Char} (normal : IsNormalChar c) : Translates (.char c false) .atom := by
  intro limit rest _
  rcases normal.text with ⟨anchor, text⟩ | ⟨plain, text⟩
  · rw [text]
    rcases anchor with rfl | rfl <;> rfl
  · rw [text, List.singleton_append]
    have others : c ≠ '(' ∧ c ≠ '[' ∧ c ≠ '\\' := by
      refine ⟨?_, ?_, ?_⟩ <;> rintro rfl <;> contradiction
    unfold Regex.atom
    split
    · next same =>
      cases same
      exact absurd rfl others.1
    · next same =>
      cases same
      exact absurd rfl others.2.1
    · next same =>
      cases same
      exact absurd rfl others.2.1
    · next same =>
      cases same
      exact absurd rfl others.2.2
    · next same =>
      cases same
      rw [plain]
      rfl
    · contradiction

theorem dot : Translates .dot .atom := by
  intro limit rest _
  rfl

theorem escape {d c : Char} (escape : SingleCharEscape d c) : Translates (.char c true) .atom := by
  intro limit rest _
  rw [text, Bool.true_or, Bool.true_or, if_pos rfl, escape.escapedChar]
  change (Regex.escape (d :: rest) >>= fun read =>
    some (Regex.set false [read.1], read.2)) = _
  rw [escape.read]
  rfl

theorem category {name : String} (known : name ∈ categoryNames) (negated : Bool) :
    Translates (.category negated name) .atom := by
  intro limit rest _
  obtain ⟨t, text, read⟩ := read_categoryText known negated rest
  rw [text]
  change (Regex.escape (t ++ rest) >>= fun read =>
    some (Regex.set false [read.1], read.2)) = _
  rw [read]
  rfl

theorem set {items : List ClassItem} (nonempty : items ≠ []) (members : ∀ item ∈ items, Member item)
    (ordered : ∀ item ∈ items, item.InOrder) (negated : Bool) : Translates (.set negated items) .atom := by
  intro limit rest _
  have read := read_characterClass nonempty members ordered negated rest
  rw [toList_text_set]
  cases negated with
  | false =>
    rw [if_neg Bool.false_ne_true, List.nil_append, List.cons_append, List.append_assoc,
      List.singleton_append, atom_bracket _ (membersText_plain nonempty members _), read]
    rfl
  | true =>
    rw [if_pos rfl, List.cons_append, List.singleton_append, List.append_assoc, List.cons_append,
      List.singleton_append, Regex.atom, read]
    rfl

theorem group (inside : Translates p .regexp) : Translates (.group p) .atom := by
  intro limit rest small
  rw [toList_text_group] at small ⊢
  rw [List.length_cons, List.length_cons, List.length_cons, List.length_append] at small
  cases limit with
  | zero => contradiction
  | succ limit =>
    have here : Regex.pattern (limit + 1) (p.text.toList ++ ')' :: rest) = some (p.regex, ')' :: rest) :=
      inside (by omega) (by omega) (by omega) (closes_of_cons rest)
    simp only [List.cons_append, List.append_assoc, List.nil_append, Regex.atom, here,
      Option.bind_eq_bind, Option.bind_some]
    rfl

end Translates

theorem translates {rule : Rule} {p : Pattern} {s : List Char} (derived : Derives rule p s)
    (ordered : p.InOrder) : Translates p rule := by
  induction derived with
  | lastBranch last ih => exact Translates.lastBranch (ih ordered)
  | moreBranches first more ih ih' => exact Translates.moreBranches (ih ordered.1) (ih' ordered.2)
  | noPiece => exact Translates.noPiece
  | somePieces pieces ih => exact ih ordered
  | lastPiece last ih => exact Translates.lastPiece (ih ordered) (last.startsPiece_text (.inr (.inl rfl)))
  | morePieces first more ih ih' =>
    have starts := first.startsPiece_text (.inr (.inl rfl))
    have starts' := more.startsPiece_text (.inr (.inr rfl))
    exact Translates.morePieces (ih ordered.1) (ih' ordered.2) starts starts'
  | unquantified atom ih => exact Translates.unquantified (ih ordered)
  | @quantified a q s t atom quantifier ih => exact Translates.quantified (ih ordered.1) q
  | char normal => exact Translates.char normal
  | dot => exact Translates.dot
  | escape escape => exact Translates.escape escape
  | @category negated name s escape => exact Translates.category escape.known negated
  | set body => exact Translates.set body.ne_nil body.forall_member ordered false
  | complement body => exact Translates.set body.ne_nil body.forall_member ordered true
  | group inside ih => exact Translates.group (ih ordered)

/-- The text of a pattern of the grammar denotes its language. -/
theorem Derives.read_text {p : Pattern} {s : List Char} (derived : Derives .regexp p s)
    (ordered : p.InOrder) : Regex.read p.text = some p.regex := by
  have whole : Regex.pattern (p.text.toList.length + 1) p.text.toList = some (p.regex, []) := by
    have translated := translates derived ordered (Nat.le_refl _) (Nat.lt_succ_self _) (Nat.lt_succ_self _)
      (show ∀ d ∈ ([] : List Char).head?, d = ')' by simp)
    rwa [List.append_nil] at translated
  rw [Regex.read, whole]
  rfl

end Pattern

end JsonPath
