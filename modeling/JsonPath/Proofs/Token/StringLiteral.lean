import JsonPath.Proofs.Token.Cover

namespace JsonPath

namespace Token

def IsHexDigit (c : Char) (n : Nat) : Prop := n < 16 ∧ c.toLower = Nat.digitChar n

/-- Four hexadecimal digits, the highest first, and the number that they write. -/
inductive HexUnit : List Char → Nat → Prop
  | digits {a b c d : Char} {w x y z : Nat} (first : IsHexDigit a w) (second : IsHexDigit b x)
      (third : IsHexDigit c y) (fourth : IsHexDigit d z) :
      HexUnit [a, b, c, d] (((w * 16 + x) * 16 + y) * 16 + z)

def escapes : List (Char × Char) :=
  [('b', '\x08'), ('f', '\x0c'), ('n', '\n'), ('r', '\r'), ('t', '\t'), ('/', '/'), ('\\', '\\')]

/-- The texts of one character between two quotes. -/
inductive CharText (quote : Char) : Char → List Char → Prop
  | plain {c : Char} (printable : 0x1F < c.toNat) (notQuote : c ≠ quote) (notEscape : c ≠ '\\') :
      CharText quote c [c]
  | escape {letter c : Char} (known : (letter, c) ∈ escapes) : CharText quote c ['\\', letter]
  | quote : CharText quote quote ['\\', quote]
  | unit {c : Char} {ds : List Char} (digits : HexUnit ds c.toNat) : CharText quote c ('\\' :: 'u' :: ds)
  | pair {c : Char} {high low : Nat} {ds es : List Char} (first : HexUnit ds high)
      (isHigh : 0xD800 ≤ high ∧ high ≤ 0xDBFF) (second : HexUnit es low)
      (isLow : 0xDC00 ≤ low ∧ low ≤ 0xDFFF)
      (joined : c.toNat = 0x10000 + (high - 0xD800) * 0x400 + (low - 0xDC00)) :
      CharText quote c ('\\' :: 'u' :: ds ++ '\\' :: 'u' :: es)

inductive ContentText (quote : Char) : List Char → List Char → Prop
  | empty : ContentText quote [] []
  | more {c : Char} {cs text rest : List Char} (first : CharText quote c text)
      (others : ContentText quote cs rest) : ContentText quote (c :: cs) (text ++ rest)

def StringText (quote : Char) (value : String) (text : List Char) : Prop :=
  ∃ inner, ContentText quote value.toList inner ∧ text = quote :: (inner ++ [quote])

theorem hexDigit?_eq_some_iff {c : Char} {n : Nat} : hexDigit? c = some n ↔ IsHexDigit c n := by
  rcases Nat.lt_or_ge c.toNat 128 with ascii | large
  · have all : ∀ k < 128, ∀ n < 16,
        hexDigit? (Char.ofNat k) = some n ↔ (Char.ofNat k).toLower = Nat.digitChar n := by
      decide +kernel
    have small : ∀ k < 128, ∀ n ∈ hexDigit? (Char.ofNat k), n < 16 := by decide +kernel
    have same := all c.toNat ascii n
    have bound := small c.toNat ascii n
    rw [Char.ofNat_toNat] at same bound
    exact ⟨fun digit => ⟨bound digit, (same (bound digit)).mp digit⟩,
      fun digit => (same digit.1).mpr digit.2⟩
  · have notUpper : ¬ (65 ≤ c.val ∧ c.val ≤ 90) := by
      have large : 128 ≤ c.val.toNat := large
      simp only [UInt32.le_iff_toNat_le, UInt32.reduceToNat]
      omega
    have lower : c.toLower = c := dif_neg notUpper
    have beyond (d : Char) (small : d.toNat < 128) : ¬ c ≤ d := by
      have small : d.val.toNat < 128 := small
      have large : 128 ≤ c.val.toNat := large
      simp only [Char.le_def, UInt32.le_iff_toNat_le]
      omega
    have none : hexDigit? c = none := by
      simp [hexDigit?, beyond '9' (by decide), beyond 'f' (by decide), beyond 'F' (by decide)]
    have digits : ∀ n < 16, (Nat.digitChar n).toNat < 128 := by decide
    constructor
    · intro digit
      simp [none] at digit
    · rintro ⟨few, same⟩
      have small := digits n few
      rw [← same, lower] at small
      omega

theorem hexValue?_eq_some_iff {a b c d : Char} {value : Nat} :
    hexValue? [a, b, c, d] = some value ↔ HexUnit [a, b, c, d] value := by
  have spelled : HexUnit [a, b, c, d] value ↔ ∃ w x y z, hexDigit? a = some w ∧ hexDigit? b = some x ∧
      hexDigit? c = some y ∧ hexDigit? d = some z ∧ ((w * 16 + x) * 16 + y) * 16 + z = value := by
    simp only [hexDigit?_eq_some_iff]
    constructor
    · rintro ⟨first, second, third, fourth⟩
      exact ⟨_, _, _, _, first, second, third, fourth, rfl⟩
    · rintro ⟨w, x, y, z, first, second, third, fourth, rfl⟩
      exact .digits first second third fourth
  rw [spelled]
  simp only [hexValue?, List.foldl, Option.bind_some]
  rcases hexDigit? a with _ | w <;> rcases hexDigit? b with _ | x <;> rcases hexDigit? c with _ | y <;>
    rcases hexDigit? d with _ | z <;> simp
  omega

theorem HexUnit.eq_four {ds : List Char} {value : Nat} (unit : HexUnit ds value) :
    ∃ a b c d, ds = [a, b, c, d] ∧ hexValue? [a, b, c, d] = some value := by
  obtain ⟨first, second, third, fourth⟩ := unit
  exact ⟨_, _, _, _, rfl, hexValue?_eq_some_iff.mpr (.digits first second third fourth)⟩

theorem HexUnit.lt {ds : List Char} {value : Nat} (unit : HexUnit ds value) : value < 0x10000 := by
  obtain ⟨⟨first, -⟩, ⟨second, -⟩, ⟨third, -⟩, ⟨fourth, -⟩⟩ := unit
  omega

theorem isHighSurrogate_iff {unit : Nat} : isHighSurrogate unit ↔ 0xD800 ≤ unit ∧ unit ≤ 0xDBFF := by
  simp [isHighSurrogate]

theorem isLowSurrogate_iff {unit : Nat} : isLowSurrogate unit ↔ 0xDC00 ≤ unit ∧ unit ≤ 0xDFFF := by
  simp [isLowSurrogate]

theorem toNat_ofNat_of_isValidChar {n : Nat} (valid : n.isValidChar) : (Char.ofNat n).toNat = n := by
  rw [Char.ofNat, dif_pos valid]
  rfl

theorem HexUnit.isValidChar {ds : List Char} {unit : Nat} (digits : HexUnit ds unit)
    (notLow : ¬ isLowSurrogate unit) (notHigh : ¬ isHighSurrogate unit) : unit.isValidChar := by
  have few := digits.lt
  rw [isLowSurrogate_iff] at notLow
  rw [isHighSurrogate_iff] at notHigh
  simp only [Nat.isValidChar]
  omega

theorem joinSurrogates_isValidChar {high low : Nat} (isHigh : isHighSurrogate high)
    (isLow : isLowSurrogate low) : (joinSurrogates high low).isValidChar := by
  have highBounds := isHighSurrogate_iff.mp isHigh
  have lowBounds := isLowSurrogate_iff.mp isLow
  have beyond : 0xDFFF < joinSurrogates high low ∧ joinSurrogates high low < 0x110000 := by
    unfold joinSurrogates
    omega
  exact .inr beyond

theorem ofNat_joinSurrogates {c : Char} {high low : Nat}
    (joined : c.toNat = 0x10000 + (high - 0xD800) * 0x400 + (low - 0xDC00)) :
    Char.ofNat (joinSurrogates high low) = c := by
  have same : c.toNat = joinSurrogates high low := joined
  rw [← same, Char.ofNat_toNat]

theorem toNat_not_surrogate (c : Char) : ¬ isLowSurrogate c.toNat ∧ ¬ isHighSurrogate c.toNat := by
  have valid : c.toNat.isValidChar := c.valid
  rw [isLowSurrogate_iff, isHighSurrogate_iff]
  rcases valid with small | large <;> omega

namespace Scan

theorem simpleEscape?_sound {quote letter c : Char} (simple : simpleEscape? quote letter = some c) :
    CharText quote c ['\\', letter] := by
  unfold simpleEscape? at simple
  split at simple
  case h_8 =>
    split at simple
    · next same =>
      cases simple
      rw [same]
      exact .quote
    · contradiction
  all_goals
    cases simple
    exact .escape (by decide)

theorem contentText_more {quote c : Char} {text : List Char} {x : Except ScanError (Lexeme (List Char))}
    {l : Lexeme (List Char)} {rest : List Char} (first : CharText quote c text)
    (later : ∀ {l}, x = .ok l → ∃ inner, ContentText quote l.value inner ∧ l.text = inner ++ [quote] ∧
      rest = l.text ++ l.rest)
    (run : (do
      let l ← x
      return ⟨c :: l.value, text ++ l.text, l.rest⟩) = Except.ok l) :
    ∃ inner, ContentText quote l.value inner ∧ l.text = inner ++ [quote] ∧
      text ++ rest = l.text ++ l.rest := by
  obtain ⟨l', read, same⟩ := Except.bind_eq_ok.mp run
  cases same
  obtain ⟨inner, content, closed, covers⟩ := later read
  refine ⟨_, .more first content, ?_, ?_⟩
  · simp [closed]
  · simp [covers]

theorem content_sound {quote : Char} {offset : Nat} {text : List Char} {l : Lexeme (List Char)}
    (run : content quote offset text = .ok l) :
    ∃ inner, ContentText quote l.value inner ∧ l.text = inner ++ [quote] ∧ text = l.text ++ l.rest := by
  fun_induction content quote offset text generalizing l
  case case5 a b c d unit first notLow isHigh e f g h rest low second isLow ih =>
    have valid := joinSurrogates_isValidChar isHigh isLow
    have pair : CharText quote (Char.ofNat (joinSurrogates unit low))
        ('\\' :: 'u' :: [a, b, c, d] ++ '\\' :: 'u' :: [e, f, g, h]) :=
      .pair (hexValue?_eq_some_iff.mp first) (isHighSurrogate_iff.mp isHigh)
        (hexValue?_eq_some_iff.mp second) (isLowSurrogate_iff.mp isLow) (toNat_ofNat_of_isValidChar valid)
    exact contentText_more pair ih run
  case case9 a b c d rest unit digits notLow notHigh ih =>
    have isUnit := hexValue?_eq_some_iff.mp digits
    have means := toNat_ofNat_of_isValidChar (isUnit.isValidChar notLow notHigh)
    have single : CharText quote (Char.ofNat unit) ('\\' :: 'u' :: [a, b, c, d]) := .unit (by rwa [means])
    exact contentText_more single ih run
  case case13 simple ih => exact contentText_more (simpleEscape?_sound simple) ih run
  case case16 c rest _ notEnd notEscape notQuote printable ih =>
    have notBackslash : c ≠ '\\' := by
      rintro rfl
      cases rest with
      | nil => exact notEnd rfl rfl
      | cons d rest => exact notEscape d rest rfl rfl
    exact contentText_more (.plain (by omega) notQuote notBackslash) ih run
  case case14 =>
    cases run
    exact ⟨[], .empty, rfl, rfl⟩
  all_goals contradiction

section

variable {quote : Char} {offset : Nat} {rest : List Char} {l : Lexeme (List Char)}

theorem content_pair {a b c d e f g h : Char} {high low : Nat}
    (first : hexValue? [a, b, c, d] = some high) (isHigh : isHighSurrogate high)
    (second : hexValue? [e, f, g, h] = some low) (isLow : isLowSurrogate low)
    (after : content quote (offset + 12) rest = .ok l) :
    content quote offset ('\\' :: 'u' :: a :: b :: c :: d :: '\\' :: 'u' :: e :: f :: g :: h :: rest) =
      .ok ⟨Char.ofNat (joinSurrogates high low) :: l.value,
        '\\' :: 'u' :: a :: b :: c :: d :: '\\' :: 'u' :: e :: f :: g :: h :: l.text, l.rest⟩ := by
  have notLow : ¬ isLowSurrogate high := by
    rw [isLowSurrogate_iff]
    have bounds := isHighSurrogate_iff.mp isHigh
    omega
  rw [content.eq_2]
  simp [first, notLow, isHigh, second, isLow, after, bind, Except.bind, pure, Except.pure]

theorem simpleEscape?_of_known {letter c : Char} (known : (letter, c) ∈ escapes) :
    simpleEscape? quote letter = some c ∧ letter ≠ 'u' := by
  simp only [escapes, List.mem_cons, Prod.mk.injEq, List.not_mem_nil, or_false] at known
  rcases known with ⟨rfl, rfl⟩ | ⟨rfl, rfl⟩ | ⟨rfl, rfl⟩ | ⟨rfl, rfl⟩ | ⟨rfl, rfl⟩ | ⟨rfl, rfl⟩ |
    ⟨rfl, rfl⟩ <;> exact ⟨rfl, by decide⟩

theorem content_charText (isQuote : quote = '"' ∨ quote = '\'') {c : Char} {text : List Char}
    (written : CharText quote c text) (after : content quote (offset + text.length) rest = .ok l) :
    content quote offset (text ++ rest) = .ok ⟨c :: l.value, text ++ l.text, l.rest⟩ := by
  cases written with
  | plain printable notQuote notEscape =>
    exact content_plain notEscape notQuote (by omega) after
  | escape known =>
    obtain ⟨simple, notUnit⟩ := simpleEscape?_of_known known
    exact content_simpleEscape simple notUnit after
  | quote => rcases isQuote with rfl | rfl <;> exact content_simpleEscape rfl (by decide) after
  | unit digits =>
    obtain ⟨a, b, d, e, rfl, value⟩ := digits.eq_four
    obtain ⟨notLow, notHigh⟩ := toNat_not_surrogate c
    have read := content_unit value (Bool.eq_false_iff.mpr notLow) (Bool.eq_false_iff.mpr notHigh) after
    rwa [Char.ofNat_toNat] at read
  | pair first isHigh second isLow joined =>
    obtain ⟨_, _, _, _, rfl, firstValue⟩ := first.eq_four
    obtain ⟨_, _, _, _, rfl, secondValue⟩ := second.eq_four
    have read := content_pair firstValue (isHighSurrogate_iff.mpr isHigh) secondValue
      (isLowSurrogate_iff.mpr isLow) after
    rw [ofNat_joinSurrogates joined] at read
    exact read

theorem content_complete (isQuote : quote = '"' ∨ quote = '\'') {cs inner : List Char}
    (written : ContentText quote cs inner) (offset : Nat) (rest : List Char) :
    content quote offset (inner ++ quote :: rest) = .ok ⟨cs, inner ++ [quote], rest⟩ := by
  induction written generalizing offset with
  | empty => rcases isQuote with rfl | rfl <;> exact content_close (by decide)
  | more first others ih =>
    rw [List.append_assoc, content_charText isQuote first (ih _)]
    simp

end

end Scan

open Scan

theorem step_eq_ok_iff_stringText {quote : Char} (isQuote : quote = '"' ∨ quote = '\'') {offset : Nat}
    {text rest : List Char} {ts : List Token} :
    step offset quote text = .ok (ts, rest) ↔
      ∃ v r, ts = [⟨.string v, offset, r⟩] ∧ StringText quote v r ∧ quote :: text = r ++ rest := by
  have inside : step offset quote text = (do
      let l ← content quote (offset + 1) text
      return ([⟨.string (String.ofList l.value), offset, quote :: l.text⟩], l.rest)) := by
    rcases isQuote with rfl | rfl <;> simp [step, lexeme, single?]
  rw [inside]
  constructor
  · intro run
    obtain ⟨l, read, same⟩ := Except.bind_eq_ok.mp run
    cases same
    obtain ⟨inner, written, closed, covers⟩ := content_sound read
    exact ⟨_, _, rfl, ⟨inner, by simpa using written, by rw [closed]⟩, by rw [covers]; rfl⟩
  · rintro ⟨v, r, rfl, ⟨inner, written, rfl⟩, covers⟩
    obtain rfl : text = inner ++ quote :: rest := by simpa using covers
    simp [content_complete isQuote written, bind, Except.bind, pure, Except.pure]

theorem exists_charText (quote c : Char) : ∃ text, CharText quote c text := by
  by_cases same : c = quote
  · subst same
    exact ⟨_, .quote⟩
  · by_cases escape : c = '\\'
    · subst escape
      exact ⟨['\\', '\\'], .escape (by decide)⟩
    · rcases Nat.lt_or_ge 0x1F c.toNat with printable | control
      · exact ⟨_, .plain printable same escape⟩
      · exact ⟨_, .unit (hexValue?_eq_some_iff.mp (hexValue?_control control))⟩

theorem exists_stringText (quote : Char) (v : String) : ∃ r, StringText quote v r := by
  have content : ∃ inner, ContentText quote v.toList inner := by
    induction v.toList with
    | nil => exact ⟨[], .empty⟩
    | cons c cs ih =>
      obtain ⟨text, first⟩ := exists_charText quote c
      obtain ⟨inner, others⟩ := ih
      exact ⟨_, .more first others⟩
  obtain ⟨inner, written⟩ := content
  exact ⟨_, inner, written, rfl⟩

/-- String literals with a quote are read exactly. -/
structure DecodesExactly (quote : Char) : Prop where
  reads : ∀ offset text ts rest, step offset quote text = .ok (ts, rest) ↔
    ∃ v r, ts = [⟨.string v, offset, r⟩] ∧ StringText quote v r ∧ quote :: text = r ++ rest
  determined : ∀ text v v' r r', StringText quote v r → StringText quote v' r' → r <+: text → r' <+: text →
    r = r' ∧ v = v'
  scalar : ∀ v r, StringText quote v r → ∀ c ∈ v.toList, ¬ (0xD800 ≤ c.toNat ∧ c.toNat ≤ 0xDFFF)
  every : ∀ v, ∃ r, StringText quote v r

theorem decodesExactly {quote : Char} (isQuote : quote = '"' ∨ quote = '\'') : DecodesExactly quote where
  reads offset text ts rest := step_eq_ok_iff_stringText isQuote
  determined := by
    rintro text v v' r r' ⟨inner, written, rfl⟩ ⟨inner', written', rfl⟩ ⟨rest, rfl⟩ ⟨rest', same⟩
    have same : inner' ++ quote :: rest' = inner ++ quote :: rest := by simpa using same
    have first := content_complete isQuote written 0 rest
    have second := content_complete isQuote written' 0 rest'
    rw [same, first] at second
    simp only [Except.ok.injEq, Lexeme.mk.injEq, String.toList_inj] at second
    exact ⟨congrArg (quote :: ·) second.2.1, second.1⟩
  scalar v r _ c _ surrogate := by
    obtain ⟨notLow, notHigh⟩ := toNat_not_surrogate c
    rw [isLowSurrogate_iff] at notLow
    rw [isHighSurrogate_iff] at notHigh
    omega
  every := exists_stringText quote

theorem decodesExactly_pair :
    ('\'' = '"' ∨ '\'' = '\'') ∧
      step 3 '\'' ['\\', 'u', 'D', '8', '3', 'D', '\\', 'u', 'd', 'e', '0', '0', '\\', '\'', '\'', ']'] =
        .ok ([⟨.string "😀'", 3, ['\'', '\\', 'u', 'D', '8', '3', 'D', '\\', 'u', 'd', 'e', '0', '0', '\\', '\'',
          '\'']⟩], [']']) := by
  have isQuote : '\'' = '"' ∨ '\'' = '\'' := .inr rfl
  have high : HexUnit ['D', '8', '3', 'D'] 0xD83D := hexValue?_eq_some_iff.mp (by decide)
  have low : HexUnit ['d', 'e', '0', '0'] 0xDE00 := hexValue?_eq_some_iff.mp (by decide)
  have face : CharText '\'' '😀' ('\\' :: 'u' :: ['D', '8', '3', 'D'] ++ '\\' :: 'u' :: ['d', 'e', '0', '0']) :=
    .pair high (by decide) low (by decide) (by decide)
  have content : ContentText '\'' "😀'".toList _ := .more face (.more .quote .empty)
  exact ⟨isQuote, ((decodesExactly isQuote).reads _ _ _ _).mpr ⟨_, _, rfl, ⟨_, content, rfl⟩, rfl⟩⟩

end Token

end JsonPath
