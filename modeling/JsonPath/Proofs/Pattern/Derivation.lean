import JsonPath.Pattern.Reader
import Mathlib.Data.List.TakeDrop
import Mathlib.Data.List.TakeWhile

namespace JsonPath

namespace Pattern

/-- `NormalChar` of RFC 9485, a character that stands for itself outside of classes. -/
def IsNormalChar (c : Char) : Prop :=
  c.toNat ≤ 0x27 ∨ c = ',' ∨ c = '-' ∨ (0x2F ≤ c.toNat ∧ c.toNat ≤ 0x3E) ∨
    (0x40 ≤ c.toNat ∧ c.toNat ≤ 0x5A) ∨ (0x5E ≤ c.toNat ∧ c.toNat ≤ 0x7A) ∨ 0x7E ≤ c.toNat

/-- `CCchar` without a backslash, a character that stands for itself in a class. -/
def IsClassChar (c : Char) : Prop :=
  c.toNat ≤ 0x2C ∨ (0x2E ≤ c.toNat ∧ c.toNat ≤ 0x5A) ∨ 0x5E ≤ c.toNat

/-- `SingleCharEsc`: what is written behind the backslash, and the character that it stands for. -/
inductive SingleCharEscape : Char → Char → Prop
  | itself {d : Char} (listed : (0x28 ≤ d.toNat ∧ d.toNat ≤ 0x2B) ∨ d = '-' ∨ d = '.' ∨ d = '?' ∨
      (0x5B ≤ d.toNat ∧ d.toNat ≤ 0x5E) ∨ (0x7B ≤ d.toNat ∧ d.toNat ≤ 0x7D)) : SingleCharEscape d d
  | lineFeed : SingleCharEscape 'n' '\n'
  | carriageReturn : SingleCharEscape 'r' '\r'
  | tab : SingleCharEscape 't' '\t'

/-- `catEsc` and `complEsc`. -/
inductive CategoryEscape : Bool → String → List Char → Prop
  | category {name : String} (known : name ∈ categoryNames) :
      CategoryEscape false name ('\\' :: 'p' :: '\x7b' :: (name.toList ++ ['\x7d']))
  | complement {name : String} (known : name ∈ categoryNames) :
      CategoryEscape true name ('\\' :: 'P' :: '\x7b' :: (name.toList ++ ['\x7d']))

/-- `CCchar`, with whether it has a backslash. -/
inductive ClassChar : Char → Bool → List Char → Prop
  | plain {c : Char} (allowed : IsClassChar c) : ClassChar c false [c]
  | escaped {d c : Char} (escape : SingleCharEscape d c) : ClassChar c true ['\\', d]

/-- `CCE1` -/
inductive ClassMember : ClassItem → List Char → Prop
  | char {c : Char} {escaped : Bool} {s : List Char} (char : ClassChar c escaped s) :
      ClassMember (.char c escaped) s
  | range {low high : Char} {lowEscaped highEscaped : Bool} {s t : List Char}
      (lower : ClassChar low lowEscaped s) (upper : ClassChar high highEscaped t) :
      ClassMember (.range low lowEscaped high highEscaped) (s ++ '-' :: t)
  | category {negated : Bool} {name : String} {s : List Char} (escape : CategoryEscape negated name s) :
      ClassMember (.category negated name) s

/-- `*CCE1 [ "-" ]` -/
inductive ClassMembers : List ClassItem → List Char → Prop
  | none : ClassMembers [] []
  | hyphen : ClassMembers [.char '-' false] ['-']
  | more {item : ClassItem} {items : List ClassItem} {s t : List Char} (first : ClassMember item s)
      (rest : ClassMembers items t) : ClassMembers (item :: items) (s ++ t)

/-- `( "-" / CCE1 ) *CCE1 [ "-" ]` -/
inductive ClassBody : List ClassItem → List Char → Prop
  | hyphen {items : List ClassItem} {t : List Char} (rest : ClassMembers items t) :
      ClassBody (.char '-' false :: items) ('-' :: t)
  | member {item : ClassItem} {items : List ClassItem} {s t : List Char} (first : ClassMember item s)
      (rest : ClassMembers items t) : ClassBody (item :: items) (s ++ t)

/-- `QuantExact` with its value. -/
structure Digits (n : Nat) (ds : List Char) : Prop where
  nonempty : ds ≠ []
  digits : ∀ d ∈ ds, Numeral.isDigit d
  value : Numeral.digitsValue ds = n

/-- `quantifier` -/
inductive QuantifierText : Quantifier → List Char → Prop
  | star : QuantifierText .star ['*']
  | plus : QuantifierText .plus ['+']
  | optional : QuantifierText .optional ['?']
  | exactly {n : Nat} {ds : List Char} (count : Digits n ds) :
      QuantifierText (.exactly n) ('\x7b' :: (ds ++ ['\x7d']))
  | atLeast {n : Nat} {ds : List Char} (low : Digits n ds) :
      QuantifierText (.atLeast n) ('\x7b' :: (ds ++ [',', '\x7d']))
  | between {m n : Nat} {ds es : List Char} (low : Digits m ds) (high : Digits n es) :
      QuantifierText (.between m n) ('\x7b' :: (ds ++ ',' :: (es ++ ['\x7d'])))

inductive Rule
  | regexp | branch | pieces | piece | atom

/-- What the rules of RFC 9485 derive, with the tree that the derivation stands for. -/
inductive Derives : Rule → Pattern → List Char → Prop
  | lastBranch {p : Pattern} {s : List Char} (last : Derives .branch p s) : Derives .regexp p s
  | moreBranches {p ps : Pattern} {s t : List Char} (first : Derives .branch p s)
      (rest : Derives .regexp ps t) : Derives .regexp (.alternatives p ps) (s ++ '|' :: t)
  | noPiece : Derives .branch .empty []
  | somePieces {p : Pattern} {s : List Char} (pieces : Derives .pieces p s) : Derives .branch p s
  | lastPiece {p : Pattern} {s : List Char} (last : Derives .piece p s) : Derives .pieces p s
  | morePieces {p ps : Pattern} {s t : List Char} (first : Derives .piece p s)
      (rest : Derives .pieces ps t) : Derives .pieces (.sequence p ps) (s ++ t)
  | unquantified {a : Pattern} {s : List Char} (atom : Derives .atom a s) : Derives .piece a s
  | quantified {a : Pattern} {q : Quantifier} {s t : List Char} (atom : Derives .atom a s)
      (quantifier : QuantifierText q t) : Derives .piece (.quantified a q) (s ++ t)
  | char {c : Char} (normal : IsNormalChar c) : Derives .atom (.char c false) [c]
  | dot : Derives .atom .dot ['.']
  | escape {d c : Char} (escape : SingleCharEscape d c) : Derives .atom (.char c true) ['\\', d]
  | category {negated : Bool} {name : String} {s : List Char} (escape : CategoryEscape negated name s) :
      Derives .atom (.category negated name) s
  | set {items : List ClassItem} {s : List Char} (body : ClassBody items s) :
      Derives .atom (.set false items) ('[' :: (s ++ [']']))
  | complement {items : List ClassItem} {s : List Char} (body : ClassBody items s) :
      Derives .atom (.set true items) ('[' :: '^' :: (s ++ [']']))
  | group {p : Pattern} {s : List Char} (inside : Derives .regexp p s) :
      Derives .atom (.group p) ('(' :: (s ++ [')']))

def Each (classes : Bool → List ClassItem → Prop) (counts : Quantifier → Prop) : Pattern → Prop
  | set negated items => classes negated items
  | group p => p.Each classes counts
  | quantified p q => p.Each classes counts ∧ counts q
  | sequence p ps => p.Each classes counts ∧ ps.Each classes counts
  | alternatives p ps => p.Each classes counts ∧ ps.Each classes counts
  | _ => True

end Pattern

def Quantifier.InOrder : Quantifier → Prop
  | between low high => low ≤ high
  | _ => True

namespace ClassItem

def InOrder : ClassItem → Prop
  | range low _ high _ => low ≤ high
  | _ => True

def StartsWithCaret : ClassItem → Prop
  | char c escaped => c = '^' ∧ escaped = false
  | range low lowEscaped _ _ => low = '^' ∧ lowEscaped = false
  | category _ _ => False

end ClassItem

namespace Pattern

def InOrder : Pattern → Prop := Each (fun _ items => ∀ item ∈ items, item.InOrder) Quantifier.InOrder

/-- A circumflex right after an opening bracket is the sign of a complement. -/
def CaretsNegate : Pattern → Prop :=
  Each (fun negated items => negated = false → ∀ item ∈ items.head?, ¬ item.StartsWithCaret)
    fun _ => True

open Reader

theorem isNormalChar_iff {c : Char} : IsNormalChar c ↔ isSpecial c = false := by
  have special : isSpecial c = true ↔ c ∈ ".\\?*+\x7b\x7d()[]|".toList := by
    rw [isSpecial, List.contains_iff_mem]
  have listed : c ∈ ".\\?*+\x7b\x7d()[]|".toList ↔ ¬ IsNormalChar c := by
    simp [IsNormalChar, ← Char.toNat_inj]
    omega
  rw [← Bool.not_eq_true, special, listed, Classical.not_not]

theorem isClassChar_iff {c : Char} : IsClassChar c ↔ c ≠ '\\' ∧ ¬ (c = '[' ∨ c = ']' ∨ c = '-') := by
  simp [IsClassChar, ← Char.toNat_inj]
  omega

theorem isEscapable_iff {d : Char} : isEscapable d ↔
    (0x28 ≤ d.toNat ∧ d.toNat ≤ 0x2B) ∨ d = '-' ∨ d = '.' ∨ d = '?' ∨
      (0x5B ≤ d.toNat ∧ d.toNat ≤ 0x5E) ∨ (0x7B ≤ d.toNat ∧ d.toNat ≤ 0x7D) := by
  have escapable : isEscapable d = true ↔ d ∈ "()*+-.?[\\]^\x7b|\x7d".toList := by
    rw [isEscapable, List.contains_iff_mem]
  rw [escapable]
  simp [← Char.toNat_inj]
  omega

theorem singleCharEscape_iff {d c : Char} : SingleCharEscape d c ↔
    controlEscape? d = some c ∨ controlEscape? d = none ∧ isEscapable d ∧ d = c := by
  constructor
  · intro escape
    cases escape with
    | itself listed =>
      have escapable := isEscapable_iff.mpr listed
      unfold controlEscape?
      split
      · contradiction
      · contradiction
      · contradiction
      · exact .inr ⟨rfl, escapable, rfl⟩
    | lineFeed => exact .inl rfl
    | carriageReturn => exact .inl rfl
    | tab => exact .inl rfl
  · rintro (control | ⟨-, escapable, rfl⟩)
    · unfold controlEscape? at control
      split at control <;> cases control
      · exact .lineFeed
      · exact .carriageReturn
      · exact .tab
    · exact .itself (isEscapable_iff.mp escapable)

theorem span_categoryName {name : String} (known : name ∈ categoryNames) (rest : List Char) :
    (name.toList ++ '\x7d' :: rest).span (· ≠ '\x7d') = (name.toList, '\x7d' :: rest) := by
  have letters : categoryNames.all fun name => name.toList.all (· ≠ '\x7d') := by decide +kernel
  have inside := List.all_eq_true.mp (List.all_eq_true.mp letters name known)
  rw [List.span_eq_takeWhile_dropWhile, List.takeWhile_append_of_pos inside,
    List.dropWhile_append_of_pos inside]
  simp

theorem CategoryEscape.backslash {negated : Bool} {name : String} {s : List Char}
    (escape : CategoryEscape negated name s) : ∃ t, s = '\\' :: t := by
  cases escape <;> exact ⟨_, rfl⟩

theorem ClassMember.startsWithCaret_iff {item : ClassItem} {s : List Char} (member : ClassMember item s) :
    item.StartsWithCaret ↔ s.head? = some '^' := by
  have char {d : Char} {escaped : Bool} {t : List Char} (char : ClassChar d escaped t) (u : List Char) :
      d = '^' ∧ escaped = false ↔ (t ++ u).head? = some '^' := by
    cases char <;> simp
  cases member with
  | char plain => simpa [ClassItem.StartsWithCaret] using char plain []
  | range lower upper => exact char lower _
  | category escape =>
    obtain ⟨t, rfl⟩ := escape.backslash
    simp [ClassItem.StartsWithCaret]

theorem ClassChar.head {c : Char} {escaped : Bool} {s : List Char} (char : ClassChar c escaped s) :
    ∃ d t, s = d :: t ∧ d ≠ ']' ∧ d ≠ '-' := by
  cases char with
  | plain allowed =>
    have special := (isClassChar_iff.mp allowed).2
    exact ⟨c, [], rfl, fun same => special (.inr (.inl same)), fun same => special (.inr (.inr same))⟩
  | @escaped d => exact ⟨'\\', [d], rfl, by decide, by decide⟩

theorem ClassMember.head {item : ClassItem} {s : List Char} (member : ClassMember item s) :
    ∃ d t, s = d :: t ∧ d ≠ ']' ∧ d ≠ '-' := by
  cases member with
  | char char => exact char.head
  | range lower upper =>
    obtain ⟨d, t, rfl, others⟩ := lower.head
    exact ⟨d, _, rfl, others⟩
  | category escape =>
    obtain ⟨t, rfl⟩ := escape.backslash
    exact ⟨'\\', t, rfl, by decide, by decide⟩

theorem ClassBody.head?_startsWithCaret_iff {items : List ClassItem} {s : List Char}
    (body : ClassBody items s) : (∃ item ∈ items.head?, item.StartsWithCaret) ↔ s.head? = some '^' := by
  cases body with
  | hyphen => simp [ClassItem.StartsWithCaret]
  | @member item items s t first rest =>
    have same : (s ++ t).head? = s.head? := by
      obtain ⟨d, u, rfl, -⟩ := first.head
      rfl
    rw [same, ← first.startsWithCaret_iff]
    simp

def StartsPiece (s : List Char) : Prop := ∃ d t, s = d :: t ∧ d ∉ ['*', '+', '?', '\x7b', '|', ')']

namespace StartsPiece

variable {s : List Char} (starts : StartsPiece s)

include starts

theorem ne_nil : s ≠ [] := by
  obtain ⟨d, t, rfl, -⟩ := starts
  exact List.cons_ne_nil d t

theorem not_endsBranch (rest : List Char) : endsBranch (s ++ rest) = false := by
  obtain ⟨d, t, rfl, others⟩ := starts
  have inside : d ≠ '|' ∧ d ≠ ')' := by simp_all
  simp [endsBranch, inside]

theorem plain (rest : List Char) : ∀ d ∈ (s ++ rest).head?, d ∉ ['*', '+', '?', '\x7b'] := by
  obtain ⟨d, t, rfl, others⟩ := starts
  intro d' head
  cases head
  simp_all

end StartsPiece

theorem plain_of_endsBranch {rest : List Char} (ends : endsBranch rest) :
    ∀ d ∈ rest.head?, d ∉ ['*', '+', '?', '\x7b'] := by
  intro d head
  obtain ⟨t, rfl⟩ := List.head?_eq_some_iff.mp head
  have closes : d = '|' ∨ d = ')' := by simpa [endsBranch] using ends
  rcases closes with rfl | rfl <;> decide

theorem endsBranch_of_closes {rest : List Char} (closes : ∀ d ∈ rest.head?, d = ')') : endsBranch rest := by
  cases rest with
  | nil => rfl
  | cons d rest => simp [endsBranch, closes d rfl]

theorem closes_of_cons (rest : List Char) : ∀ d ∈ (')' :: rest).head?, d = ')' := by
  intro d head
  cases head
  rfl

theorem Derives.atom_startsPiece {a : Pattern} {s : List Char} (derived : Derives .atom a s) :
    StartsPiece s := by
  cases derived with
  | @char c normal =>
    refine ⟨c, [], rfl, fun member => ?_⟩
    have special : isSpecial c := by
      simp only [List.mem_cons, List.not_mem_nil, or_false] at member
      rcases member with rfl | rfl | rfl | rfl | rfl | rfl <;> decide
    rw [isNormalChar_iff.mp normal] at special
    contradiction
  | category escape =>
    obtain ⟨t, rfl⟩ := escape.backslash
    exact ⟨'\\', t, rfl, by decide⟩
  | _ => exact ⟨_, _, rfl, by decide⟩

theorem Derives.piece_startsPiece {p : Pattern} {s : List Char} (derived : Derives .piece p s) :
    StartsPiece s := by
  cases derived with
  | unquantified atom => exact atom.atom_startsPiece
  | quantified atom =>
    obtain ⟨d, t, rfl, others⟩ := atom.atom_startsPiece
    exact ⟨d, _, rfl, others⟩

theorem Derives.pieces_startsPiece {p : Pattern} {s : List Char} (derived : Derives .pieces p s) :
    StartsPiece s := by
  cases derived with
  | lastPiece last => exact last.piece_startsPiece
  | morePieces first =>
    obtain ⟨d, t, rfl, others⟩ := first.piece_startsPiece
    exact ⟨d, _, rfl, others⟩

end Pattern

end JsonPath
