import JsonPath.Proofs.Number.Grammar
import JsonPath.Proofs.Outcome
import JsonPath.Value.Reader

namespace JsonPath

namespace Value

inductive Blank : Char → Prop
  | space : Blank ' '
  | tab : Blank '\t'
  | lineFeed : Blank '\n'
  | carriageReturn : Blank '\r'

def Blanks (text : List Char) : Prop := ∀ c ∈ text, Blank c

inductive Escape : Char → Char → Prop
  | quote : Escape '"' '"'
  | backslash : Escape '\\' '\\'
  | slash : Escape '/' '/'
  | backspace : Escape 'b' '\x08'
  | formFeed : Escape 'f' '\x0c'
  | lineFeed : Escape 'n' '\n'
  | carriageReturn : Escape 'r' '\r'
  | tab : Escape 't' '\t'

inductive Literal : List Char → Value → Prop
  | null : Literal ['n', 'u', 'l', 'l'] .null
  | true : Literal ['t', 'r', 'u', 'e'] (.bool true)
  | false : Literal ['f', 'a', 'l', 's', 'e'] (.bool false)
  | nan : Literal ['N', 'a', 'N'] (.number (.double .nan))
  | infinity : Literal ['I', 'n', 'f', 'i', 'n', 'i', 't', 'y'] (.number (.double (.infinite false)))
  | minusInfinity :
      Literal ['-', 'I', 'n', 'f', 'i', 'n', 'i', 't', 'y'] (.number (.double (.infinite true)))

/-- The text goes on with the second half of a surrogate pair. -/
def CompletesPair (text : List Char) : Prop :=
  ∃ a b c d low rest, text = '\\' :: 'u' :: a :: b :: c :: d :: rest ∧
    hexValue? [a, b, c, d] = some low ∧ isLowSurrogate low

/-- What is written between quotes, and the characters that it means. -/
inductive Content : List Char → List Char → Prop
  | empty : Content [] []
  | plain {c : Char} {text cs : List Char} (notQuote : c ≠ '"') (notBackslash : c ≠ '\\')
      (printable : 0x1F < c.toNat) (more : Content text cs) : Content (c :: text) (c :: cs)
  | escape {c meaning : Char} {text cs : List Char} (simple : Escape c meaning)
      (more : Content text cs) : Content ('\\' :: c :: text) (meaning :: cs)
  | unit {a b c d : Char} {value : Nat} {text cs : List Char}
      (digits : hexValue? [a, b, c, d] = some value)
      (alone : isHighSurrogate value → ¬ CompletesPair text) (more : Content text cs) :
      Content ('\\' :: 'u' :: a :: b :: c :: d :: text) (Reader.unitChar value :: cs)
  | pair {a b c d e f g h : Char} {high low : Nat} {text cs : List Char}
      (first : hexValue? [a, b, c, d] = some high) (isHigh : isHighSurrogate high)
      (second : hexValue? [e, f, g, h] = some low) (isLow : isLowSurrogate low)
      (more : Content text cs) :
      Content ('\\' :: 'u' :: a :: b :: c :: d :: '\\' :: 'u' :: e :: f :: g :: h :: text)
        (Char.ofNat (joinSurrogates high low) :: cs)

inductive Part
  | value (v : Value)
  | items (vs : List Value)
  | members (ms : List (String × Value))

def putAll (ms : List (String × Value)) : List (String × Value) :=
  ms.foldl (fun acc (name, v) => putMember name v acc) []

/-- The texts that write a part. White space is written around it by the part that it belongs to. -/
inductive Writes : Part → List Char → Prop
  | string {text cs : List Char} (content : Content text cs) :
      Writes (.value (.string (String.ofList cs))) ('"' :: (text ++ ['"']))
  | literal {text : List Char} {v : Value} (known : Literal text v) :
      Writes (.value v) text
  | integer {n : Numeral} {text : List Char} (numeral : n.Writes text) (plain : n.isPlain)
      (short : n.whole.length ≤ maxIntegerDigits) : Writes (.value (.int n.toInt)) text
  | double {n : Numeral} {text : List Char} (numeral : n.Writes text) (notPlain : n.isPlain = false) :
      Writes (.value (.number (.double n.toDouble))) text
  | emptyArray {inside : List Char} (blanks : Blanks inside) :
      Writes (.value (.array [])) ('[' :: (inside ++ [']']))
  | array {before text : List Char} {vs : List Value} (blanks : Blanks before)
      (inside : Writes (.items vs) text) : Writes (.value (.array vs)) ('[' :: (before ++ text ++ [']']))
  | emptyObject {inside : List Char} (blanks : Blanks inside) :
      Writes (.value (.object [])) ('{' :: (inside ++ ['}']))
  | object {before text : List Char} {ms : List (String × Value)} (blanks : Blanks before)
      (inside : Writes (.members ms) text) :
      Writes (.value (.object (putAll ms))) ('{' :: (before ++ text ++ ['}']))
  | lastItem {text after : List Char} {v : Value} (item : Writes (.value v) text)
      (behind : Blanks after) : Writes (.items [v]) (text ++ after)
  | moreItems {text after before rest : List Char} {v : Value} {vs : List Value}
      (item : Writes (.value v) text) (behind : Blanks after) (ahead : Blanks before)
      (more : Writes (.items vs) rest) :
      Writes (.items (v :: vs)) (text ++ after ++ ',' :: (before ++ rest))
  | lastMember {name cs gap before text after : List Char} {v : Value} (content : Content name cs)
      (blanks : Blanks gap) (ahead : Blanks before) (member : Writes (.value v) text)
      (behind : Blanks after) :
      Writes (.members [(String.ofList cs, v)])
        ('"' :: (name ++ '"' :: (gap ++ ':' :: (before ++ text ++ after))))
  | moreMembers {name cs gap before text after next rest : List Char} {v : Value}
      {ms : List (String × Value)} (content : Content name cs) (blanks : Blanks gap)
      (ahead : Blanks before) (member : Writes (.value v) text) (behind : Blanks after)
      (aheadNext : Blanks next) (more : Writes (.members ms) rest) :
      Writes (.members ((String.ofList cs, v) :: ms))
        ('"' :: (name ++ '"' :: (gap ++ ':' :: (before ++ text ++ after ++ ',' :: (next ++ rest)))))

/-- A whole text that writes a value, with white space around it. -/
inductive IsText (v : Value) : List Char → Prop
  | intro {before text after : List Char} (ahead : Blanks before) (writes : Writes (.value v) text)
      (behind : Blanks after) : IsText v (before ++ text ++ after)

namespace Reader

theorem isBlank_iff {c : Char} : isBlank c ↔ Blank c := by
  constructor
  · intro blank
    simp only [isBlank, Bool.or_eq_true, beq_iff_eq] at blank
    rcases blank with ((rfl | rfl) | rfl) | rfl
    · exact .space
    · exact .tab
    · exact .lineFeed
    · exact .carriageReturn
  · intro blank
    cases blank <;> rfl

theorem simpleEscape?_eq_some_iff {c meaning : Char} :
    simpleEscape? c = some meaning ↔ Escape c meaning := by
  constructor
  · intro found
    unfold simpleEscape? at found
    split at found <;> cases found <;> constructor
  · intro escape
    cases escape <;> rfl

theorem mem_literals_iff {text : List Char} {v : Value} : (text, v) ∈ literals ↔ Literal text v := by
  constructor
  · intro known
    simp only [literals, List.mem_cons, Prod.mk.injEq, List.not_mem_nil, or_false] at known
    rcases known with ⟨rfl, rfl⟩ | ⟨rfl, rfl⟩ | ⟨rfl, rfl⟩ | ⟨rfl, rfl⟩ | ⟨rfl, rfl⟩ | ⟨rfl, rfl⟩ <;>
      constructor
  · intro known
    cases known <;> simp [literals]

theorem skipBlanks_sound (c : Cursor) :
    ∃ before, Blanks before ∧ c.rest = before ++ (skipBlanks c).rest :=
  ⟨c.rest.takeWhile isBlank, fun _ member => isBlank_iff.mp (List.all_eq_true.mp List.all_takeWhile _ member),
    List.takeWhile_append_dropWhile.symm⟩

theorem content_unit_sound {start offset value : Nat} {a b c d : Char} {rest cs : List Char}
    {cursor : Cursor} (digits : hexValue? [a, b, c, d] = some value)
    (alone : isHighSurrogate value → ∀ written after, rest = written ++ '"' :: after →
      ¬ CompletesPair written)
    (later : ∀ {cs cursor}, content start (offset + 6) rest = .ok (cs, cursor) →
      ∃ written, Content written cs ∧ rest = written ++ '"' :: cursor.rest)
    (run : (do
      let (text, cursor) ← content start (offset + 6) rest
      return (unitChar value :: text, cursor)) = Except.ok (cs, cursor)) :
    ∃ written, Content written cs ∧
      '\\' :: 'u' :: a :: b :: c :: d :: rest = written ++ '"' :: cursor.rest := by
  obtain ⟨⟨text, cursor'⟩, inside, same⟩ := Except.bind_eq_ok.mp run
  cases same
  obtain ⟨written, content, same⟩ := later inside
  exact ⟨_, .unit digits (fun isHigh => alone isHigh written _ same) content, by rw [same]; rfl⟩

theorem content_sound {start offset : Nat} {text cs : List Char} {cursor : Cursor}
    (run : content start offset text = .ok (cs, cursor)) :
    ∃ written, Content written cs ∧ text = written ++ '"' :: cursor.rest := by
  fun_induction content start offset text generalizing cs cursor
  case case2 =>
    cases run
    exact ⟨[], .empty, rfl⟩
  case case8 first isHigh _ _ _ _ _ _ _ second isLow _ _ ih =>
    obtain ⟨⟨text, cursor'⟩, inside, same⟩ := Except.bind_eq_ok.mp run
    cases same
    obtain ⟨written, content, rfl⟩ := ih inside
    exact ⟨_, .pair first isHigh second isLow content, rfl⟩
  case case14 simple ih =>
    obtain ⟨⟨text, cursor'⟩, inside, same⟩ := Except.bind_eq_ok.mp run
    cases same
    obtain ⟨written, content, rfl⟩ := ih inside
    exact ⟨_, .escape (simpleEscape?_eq_some_iff.mp simple) content, rfl⟩
  case case16 c rest notQuote notEnd _ notEscape printable ih =>
    obtain ⟨⟨text, cursor'⟩, inside, same⟩ := Except.bind_eq_ok.mp run
    cases same
    obtain ⟨written, content, rfl⟩ := ih inside
    have notBackslash : c ≠ '\\' := by
      rintro rfl
      cases written <;> exact notEscape _ _ rfl rfl
    exact ⟨_, .plain notQuote notBackslash (by omega) content, rfl⟩
  -- Where the next unit cannot be the second half, nothing that is read from there completes a pair.
  case case6 digits isHigh _ _ _ _ rest empty _ _ ih =>
    refine content_unit_sound digits (fun _ written after same completes => ?_) ih run
    obtain ⟨_, _, _, _, _, _, rfl, -, -⟩ := completes
    cases same
    simp at empty
  case case9 digits isHigh _ _ _ _ rest _ low second notLow _ _ ih =>
    refine content_unit_sound digits (fun _ written after same completes => ?_) ih run
    obtain ⟨_, _, _, _, _, _, rfl, second', isLow⟩ := completes
    cases same
    cases second.symm.trans second'
    exact notLow isLow
  case case10 digits _ _ other ih =>
    refine content_unit_sound digits (fun _ written after same completes => ?_) ih run
    obtain ⟨_, _, _, _, _, _, rfl, -, -⟩ := completes
    exact other _ _ _ _ _ same
  case case11 digits _ notHigh ih =>
    exact content_unit_sound digits (fun isHigh => absurd isHigh notHigh) ih run
  all_goals contradiction

theorem string_sound {c c' : Cursor} {s : String} (run : string c = .ok (s, c')) :
    ∃ written cs, Content written cs ∧ s = String.ofList cs ∧ c.rest = written ++ '"' :: c'.rest := by
  obtain ⟨⟨cs, cursor⟩, inside, same⟩ := Except.bind_eq_ok.mp run
  cases same
  obtain ⟨written, content, rest⟩ := content_sound inside
  exact ⟨written, cs, content, rfl, rest⟩

theorem literal?_sound {c c' : Cursor} {v : Value} (run : literal? c = some (v, c')) :
    ∃ text, Writes (.value v) text ∧ c.rest = text ++ c'.rest := by
  obtain ⟨⟨text, w⟩, found, same⟩ := Option.map_eq_some_iff.mp run
  cases same
  have isFront : text.isPrefixOf c.rest := by simpa using List.find?_some found
  obtain ⟨rest, front⟩ := List.isPrefixOf_iff_prefix.mp isFront
  refine ⟨text, .literal (mem_literals_iff.mp (List.mem_of_find?_eq_some found)), ?_⟩
  simp [Cursor.advance, ← front]

theorem number_sound {c c' : Cursor} {v : Value} (run : number c = .ok (v, c')) :
    ∃ text, Writes (.value v) text ∧ c.rest = text ++ c'.rest := by
  unfold number at run
  split at run
  · contradiction
  · next l read =>
    obtain ⟨writes, covers⟩ := Numeral.read?_sound read
    simp only at run
    split at run
    · next plain =>
      split at run
      · contradiction
      · next few =>
        cases run
        exact ⟨l.text, .integer writes plain (by omega), covers⟩
    · next notPlain =>
      cases run
      exact ⟨l.text, .double writes (by simpa using notPlain), covers⟩

structure Sound (fuel : Nat) : Prop where
  value : ∀ c v c', value fuel c = .ok (v, c') →
    ∃ text, Writes (.value v) text ∧ c.rest = text ++ c'.rest
  items : ∀ c vs c', items fuel c = .ok (vs, c') →
    ∃ text, Writes (.items vs) text ∧ c.rest = text ++ ']' :: c'.rest
  members : ∀ c ms c', members fuel c = .ok (ms, c') →
    ∃ text, Writes (.members ms) text ∧ c.rest = text ++ '}' :: c'.rest

namespace Sound

variable {fuel : Nat} (sound : Sound fuel) {c c' : Cursor}

include sound

theorem object {rest : List Char} {v : Value} (begins : c.rest = '{' :: rest)
    (run : Reader.value (fuel + 1) c = .ok (v, c')) :
    ∃ text, Writes (.value v) text ∧ c.rest = text ++ c'.rest := by
  obtain ⟨before, blanks, skipped⟩ := skipBlanks_sound ⟨c.offset + 1, rest⟩
  simp only [Reader.value, begins] at run skipped
  split at run
  · next after close =>
    cases run
    refine ⟨_, .emptyObject blanks, ?_⟩
    rw [begins, skipped, close]
    simp
  · obtain ⟨⟨ms, cursor⟩, inside, same⟩ := Except.bind_eq_ok.mp run
    cases same
    obtain ⟨text, writes, covers⟩ := sound.members _ _ _ inside
    refine ⟨_, .object blanks writes, ?_⟩
    rw [begins, skipped, covers]
    simp

theorem array {rest : List Char} {v : Value} (begins : c.rest = '[' :: rest)
    (run : Reader.value (fuel + 1) c = .ok (v, c')) :
    ∃ text, Writes (.value v) text ∧ c.rest = text ++ c'.rest := by
  obtain ⟨before, blanks, skipped⟩ := skipBlanks_sound ⟨c.offset + 1, rest⟩
  simp only [Reader.value, begins] at run skipped
  split at run
  · next after close =>
    cases run
    refine ⟨_, .emptyArray blanks, ?_⟩
    rw [begins, skipped, close]
    simp
  · obtain ⟨⟨vs, cursor⟩, inside, same⟩ := Except.bind_eq_ok.mp run
    cases same
    obtain ⟨text, writes, covers⟩ := sound.items _ _ _ inside
    refine ⟨_, .array blanks writes, ?_⟩
    rw [begins, skipped, covers]
    simp

theorem value_succ {v : Value} (run : Reader.value (fuel + 1) c = .ok (v, c')) :
    ∃ text, Writes (.value v) text ∧ c.rest = text ++ c'.rest := by
  have whole := run
  unfold Reader.value at run
  split at run
  · next rest begins =>
    obtain ⟨⟨s, cursor⟩, inside, same⟩ := Except.bind_eq_ok.mp run
    cases same
    obtain ⟨written, cs, content, rfl, covers⟩ := string_sound inside
    refine ⟨_, .string content, ?_⟩
    rw [begins]
    simpa using covers
  · next rest begins => exact sound.object begins whole
  · next rest begins => exact sound.array begins whole
  · split at run
    · next known =>
      cases run
      exact literal?_sound known
    · exact number_sound run

theorem items_succ {vs : List Value} (run : Reader.items (fuel + 1) c = .ok (vs, c')) :
    ∃ text, Writes (.items vs) text ∧ c.rest = text ++ ']' :: c'.rest := by
  obtain ⟨⟨v, afterItem⟩, first, run⟩ := Except.bind_eq_ok.mp run
  obtain ⟨text, item, covers⟩ := sound.value _ _ _ first
  obtain ⟨after, behind, skipped⟩ := skipBlanks_sound afterItem
  simp only at run
  split at run
  · next rest close =>
    cases run
    refine ⟨_, .lastItem item behind, ?_⟩
    rw [covers, skipped, close]
    simp
  · next rest comma =>
    obtain ⟨⟨vs, cursor⟩, later, same⟩ := Except.bind_eq_ok.mp run
    cases same
    obtain ⟨before, ahead, skipped'⟩ := skipBlanks_sound ⟨(skipBlanks afterItem).offset + 1, rest⟩
    obtain ⟨more, writes, covers'⟩ := sound.items _ _ _ later
    refine ⟨_, .moreItems item behind ahead writes, ?_⟩
    simp only at skipped'
    rw [covers, skipped, comma, skipped', covers']
    simp
  · contradiction

theorem members_succ {ms : List (String × Value)} (run : Reader.members (fuel + 1) c = .ok (ms, c')) :
    ∃ text, Writes (.members ms) text ∧ c.rest = text ++ '}' :: c'.rest := by
  unfold Reader.members at run
  split at run
  rotate_left
  · contradiction
  next rest begins =>
  obtain ⟨⟨name, afterName⟩, named, run⟩ := Except.bind_eq_ok.mp run
  obtain ⟨written, cs, content, rfl, covers⟩ := string_sound named
  obtain ⟨gap, blanks, skipped⟩ := skipBlanks_sound afterName
  simp only at run covers
  split at run
  rotate_left
  · contradiction
  next rest' colon =>
  obtain ⟨⟨v, afterMember⟩, first, run⟩ := Except.bind_eq_ok.mp run
  obtain ⟨before, ahead, skipped'⟩ := skipBlanks_sound ⟨(skipBlanks afterName).offset + 1, rest'⟩
  obtain ⟨text, member, covers'⟩ := sound.value _ _ _ first
  obtain ⟨after, behind, skipped''⟩ := skipBlanks_sound afterMember
  simp only at run skipped'
  split at run
  · next rest'' close =>
    cases run
    refine ⟨_, .lastMember content blanks ahead member behind, ?_⟩
    rw [begins, covers, skipped, colon, skipped', covers', skipped'', close]
    simp
  · next rest'' comma =>
    obtain ⟨⟨ms, cursor⟩, later, same⟩ := Except.bind_eq_ok.mp run
    cases same
    obtain ⟨next, aheadNext, skippedNext⟩ :=
      skipBlanks_sound ⟨(skipBlanks afterMember).offset + 1, rest''⟩
    obtain ⟨more, writes, covers''⟩ := sound.members _ _ _ later
    refine ⟨_, .moreMembers content blanks ahead member behind aheadNext writes, ?_⟩
    simp only at skippedNext
    rw [begins, covers, skipped, colon, skipped', covers', skipped'', comma, skippedNext, covers'']
    simp
  · contradiction

end Sound

theorem sound (fuel : Nat) : Sound fuel := by
  induction fuel with
  | zero => constructor <;> simp [value, items, members, fail]
  | succ fuel sound =>
    exact ⟨fun _ _ _ => sound.value_succ, fun _ _ _ => sound.items_succ, fun _ _ _ => sound.members_succ⟩

end Reader

theorem isText_of_read {text : String} {v : Value} (run : read text = .ok v) : IsText v text.toList := by
  simp only [read] at run
  split at run
  · contradiction
  · obtain ⟨⟨w, cursor⟩, first, whole⟩ := Except.bind_eq_ok.mp run
    simp only at whole
    split at whole
    · next ended =>
      cases whole
      obtain ⟨before, blanks, skipped⟩ := Reader.skipBlanks_sound (Cursor.ofString text)
      obtain ⟨written, writes, covers⟩ := (Reader.sound _).value _ _ _ first
      obtain ⟨after, blanks', skipped'⟩ := Reader.skipBlanks_sound cursor
      have same : text.toList = before ++ written ++ after := by
        have whole : text.toList = (Cursor.ofString text).rest := rfl
        rw [whole, skipped, covers, skipped', List.isEmpty_iff.mp ended]
        simp
      rw [same]
      exact .intro blanks writes blanks'
    · contradiction

end Value

end JsonPath
