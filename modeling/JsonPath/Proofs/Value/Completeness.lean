import JsonPath.Proofs.Value.Grammar

namespace JsonPath

namespace Value

namespace Reader

theorem not_isLowSurrogate_of_isHighSurrogate {unit : Nat} (high : isHighSurrogate unit) :
    isLowSurrogate unit = false := by
  simp only [isHighSurrogate, isLowSurrogate, Bool.and_eq_true, decide_eq_true_eq] at high ⊢
  simp only [Bool.and_eq_false_imp, decide_eq_true_eq, decide_eq_false_iff_not]
  omega

theorem content_unit_cases {text cs rest after : List Char} {a b c d : Char} (content : Content text cs)
    (same : text ++ '"' :: rest = '\\' :: 'u' :: a :: b :: c :: d :: after) :
    ∃ value, hexValue? [a, b, c, d] = some value ∧ (isLowSurrogate value → CompletesPair text) := by
  cases content with
  | empty => simp at same
  | plain _ notBackslash =>
    simp only [List.cons_append, List.cons.injEq] at same
    exact absurd same.1 notBackslash
  | escape simple =>
    simp only [List.cons_append, List.cons.injEq, true_and] at same
    obtain ⟨rfl, -⟩ := same
    cases simple
  | unit digits =>
    simp only [List.cons_append, List.cons.injEq, true_and] at same
    obtain ⟨rfl, rfl, rfl, rfl, -⟩ := same
    exact ⟨_, digits, fun isLow => ⟨_, _, _, _, _, _, rfl, digits, isLow⟩⟩
  | pair first isHigh =>
    simp only [List.cons_append, List.cons.injEq, true_and] at same
    obtain ⟨rfl, rfl, rfl, rfl, -⟩ := same
    refine ⟨_, first, fun isLow => ?_⟩
    rw [not_isLowSurrogate_of_isHighSurrogate isHigh] at isLow
    contradiction

theorem content_complete {text cs : List Char} (written : Content text cs) (start offset : Nat)
    (rest : List Char) : content start offset (text ++ '"' :: rest) =
      .ok (cs, ⟨offset + text.length + 1, rest⟩) := by
  induction written generalizing offset with
  | empty => rfl
  | @plain c text cs notQuote notBackslash printable more ih =>
    have readable : ¬ c.toNat ≤ 0x1F := by omega
    rw [List.cons_append, content]
    · simp only [readable, if_false, ih, bind, Except.bind, pure, Except.pure, List.length_cons]
      congr 4
      omega
    · exact notQuote
    · exact fun backslash => absurd backslash notBackslash
    · exact fun _ _ _ _ _ backslash => absurd backslash notBackslash
    · exact fun _ _ backslash => absurd backslash notBackslash
  | @escape c meaning text cs simple more ih =>
    have notUnit : c ≠ 'u' := by
      rintro rfl
      cases simple
    have found := simpleEscape?_eq_some_iff.mpr simple
    rw [List.cons_append, List.cons_append, content]
    · simp only [notUnit, if_false, found, ih, bind, Except.bind, pure, Except.pure, List.length_cons]
      congr 4
      omega
    · exact fun _ _ _ _ _ unit => absurd unit notUnit
  | @unit a b c d value text cs digits alone more ih =>
    have inside : (text ++ '"' :: rest).isEmpty = false := by simp
    have read : (content start (offset + 6) (text ++ '"' :: rest) >>= fun read =>
        pure (unitChar value :: read.1, read.2)) = Except.ok (unitChar value :: cs,
          ⟨offset + ('\\' :: 'u' :: a :: b :: c :: d :: text).length + 1, rest⟩) := by
      simp only [ih, bind, Except.bind, pure, Except.pure, List.length_cons]
      congr 4
      omega
    simp only [List.cons_append, content, inside, Bool.false_eq_true, if_false, digits]
    split
    · next isHigh =>
      -- A second unit may follow, but it does not complete a pair.
      split
      · next same =>
        obtain ⟨value', digits', completes⟩ := content_unit_cases more same
        have notLow : isLowSurrogate value' = false :=
          Bool.eq_false_iff.mpr fun isLow => alone isHigh (completes isLow)
        split
        · exact read
        · simp only [digits', notLow, Bool.false_eq_true, if_false]
          exact read
      · exact read
    · exact read
  | @pair a b c d e f g h high low text cs first isHigh second isLow more ih =>
    have inside : (text ++ '"' :: rest).isEmpty = false := by simp
    simp only [List.cons_append, content, List.isEmpty_cons, Bool.false_eq_true, if_false, first, isHigh,
      if_true, inside, second, isLow, ih, bind, Except.bind, pure, Except.pure, List.length_cons]
    congr 4
    omega

theorem skipBlanks_complete {before rest : List Char} (blanks : Blanks before)
    (stops : ∀ c ∈ rest.head?, isBlank c = false) (offset : Nat) :
    skipBlanks ⟨offset, before ++ rest⟩ = ⟨offset + before.length, rest⟩ := by
  have taken : rest.takeWhile isBlank = [] ∧ rest.dropWhile isBlank = rest := by
    cases rest with
    | nil => simp
    | cons c rest => simp [stops c rfl]
  have blank (c : Char) (member : c ∈ before) : isBlank c := isBlank_iff.mpr (blanks c member)
  rw [skipBlanks, Cursor.skipWhile]
  simp only [List.takeWhile_append_of_pos blank, List.dropWhile_append_of_pos blank, taken,
    List.append_nil]

theorem ends_of_blanks {after rest : List Char} (blanks : Blanks after)
    (closes : ∀ c ∈ rest.head?, c = ',' ∨ c = ']' ∨ c = '}') : Numeral.Ends (after ++ rest) := by
  intro c head
  cases after with
  | nil => rcases closes c head with rfl | rfl | rfl <;> decide
  | cons d after =>
    cases head
    have blank := blanks c (by simp)
    cases blank <;> decide

theorem literal?_complete {text : List Char} {v : Value} (known : Literal text v) (offset : Nat)
    (rest : List Char) :
    literal? ⟨offset, text ++ rest⟩ = some (v, ⟨offset + text.length, rest⟩) := by
  cases known <;> rfl

theorem ne_of_isDigit {d e : Char} (digit : Numeral.isDigit d) (notDigit : Numeral.isDigit e = false) :
    d ≠ e := by
  rintro rfl
  rw [digit] at notDigit
  contradiction

theorem literal?_of_numeral {n : Numeral} {text : List Char} (numeral : n.Writes text) (offset : Nat)
    (rest : List Char) : literal? ⟨offset, text ++ rest⟩ = none := by
  obtain ⟨d, tail, digit, front⟩ := numeral.digit
  have other (e : Char) (notDigit : Numeral.isDigit e = false) : (e == d) = false :=
    beq_eq_false_iff_ne.mpr (ne_of_isDigit digit notDigit).symm
  rcases front with rfl | rfl <;>
    simp [literal?, literals, List.isPrefixOf, other 'n' rfl, other 't' rfl, other 'f' rfl,
      other 'N' rfl, other 'I' rfl, other '-' rfl]

theorem value_scalar {c : Char} (plain : c ≠ '"' ∧ c ≠ '{' ∧ c ≠ '[') (fuel offset : Nat)
    (text : List Char) : value (fuel + 1) ⟨offset, c :: text⟩ =
      match literal? ⟨offset, c :: text⟩ with
      | some result => .ok result
      | none => number ⟨offset, c :: text⟩ := by
  unfold value
  split
  · next same => exact absurd (List.cons.inj same).1 plain.1
  · next same => exact absurd (List.cons.inj same).1 plain.2.1
  · next same => exact absurd (List.cons.inj same).1 plain.2.2
  · rfl

theorem value_numeral {n : Numeral} {text : List Char} (numeral : n.Writes text) (fuel offset : Nat)
    (rest : List Char) :
    value (fuel + 1) ⟨offset, text ++ rest⟩ = number ⟨offset, text ++ rest⟩ := by
  have none := literal?_of_numeral numeral offset rest
  obtain ⟨d, tail, digit, front⟩ := numeral.digit
  rcases front with rfl | rfl <;> rw [List.cons_append] at none ⊢
  · rw [value_scalar ⟨ne_of_isDigit digit rfl, ne_of_isDigit digit rfl, ne_of_isDigit digit rfl⟩, none]
  · rw [value_scalar (by decide), none]

theorem isBlank_of_isDigit {d : Char} (digit : Numeral.isDigit d) : isBlank d = false := by
  have other (e : Char) (notDigit : Numeral.isDigit e = false) : (d == e) = false :=
    beq_eq_false_iff_ne.mpr (ne_of_isDigit digit notDigit)
  simp [isBlank, other ' ' rfl, other '\t' rfl, other '\n' rfl, other '\r' rfl]

theorem begins_numeral {n : Numeral} {text : List Char} (numeral : n.Writes text) :
    ∃ c tail, text = c :: tail ∧ isBlank c = false ∧ c ≠ ']' ∧ c ≠ '}' ∧ c ≠ '\uFEFF' := by
  obtain ⟨d, tail, digit, front⟩ := numeral.digit
  rcases front with rfl | rfl
  · exact ⟨_, _, rfl, isBlank_of_isDigit digit, ne_of_isDigit digit rfl, ne_of_isDigit digit rfl,
      ne_of_isDigit digit rfl⟩
  · exact ⟨_, _, rfl, by decide⟩

theorem begins {p : Part} {text : List Char} (writes : Writes p text) :
    ∃ c tail, text = c :: tail ∧ isBlank c = false ∧ c ≠ ']' ∧ c ≠ '}' ∧ c ≠ '\uFEFF' := by
  induction writes with
  | literal known => cases known <;> exact ⟨_, _, rfl, by decide⟩
  | integer numeral | double numeral => exact begins_numeral numeral
  | lastItem _ _ ih | moreItems _ _ _ _ ih _ =>
    obtain ⟨c, tail, rfl, plain⟩ := ih
    exact ⟨_, _, rfl, plain⟩
  | _ => exact ⟨_, _, rfl, by decide⟩

theorem begins_unclosed {p : Part} {text : List Char} (writes : Writes p text) (rest after : List Char) :
    text ++ rest ≠ ']' :: after ∧ text ++ rest ≠ '}' :: after := by
  obtain ⟨c, tail, rfl, -, notBracket, notBrace, -⟩ := begins writes
  exact ⟨fun same => notBracket (List.cons.inj same).1, fun same => notBrace (List.cons.inj same).1⟩

theorem skipBlanks_char {before : List Char} (blanks : Blanks before) (c : Char)
    (notBlank : isBlank c = false) (offset : Nat) (rest : List Char) :
    skipBlanks ⟨offset, before ++ c :: rest⟩ = ⟨offset + before.length, c :: rest⟩ :=
  skipBlanks_complete blanks (by rintro _ ⟨⟩; exact notBlank) offset

theorem skipBlanks_writes {before text : List Char} {p : Part} (blanks : Blanks before)
    (writes : Writes p text) (offset : Nat) (rest : List Char) :
    skipBlanks ⟨offset, before ++ (text ++ rest)⟩ = ⟨offset + before.length, text ++ rest⟩ := by
  obtain ⟨c, tail, rfl, notBlank, -⟩ := begins writes
  exact skipBlanks_char blanks c notBlank offset _

theorem number_complete {n : Numeral} {text rest : List Char} (numeral : n.Writes text)
    (ends : Numeral.Ends rest) (offset : Nat) :
    number ⟨offset, text ++ rest⟩ =
      if n.isPlain then
        if n.whole.length > maxIntegerDigits then .error (.integerTooLong n.whole.length)
        else .ok (.int n.toInt, ⟨offset + text.length, rest⟩)
      else .ok (.number (.double n.toDouble), ⟨offset + text.length, rest⟩) := by
  simp only [number, Numeral.read?_complete numeral ends]

theorem string_complete {text cs : List Char} (written : Content text cs) (offset : Nat)
    (rest : List Char) : string ⟨offset, text ++ '"' :: rest⟩ =
      .ok (String.ofList cs, ⟨offset + text.length + 1, rest⟩) := by
  simp only [string, content_complete written, bind, Except.bind, pure, Except.pure]

theorem value_literal {text : List Char} {v : Value} (known : Literal text v) (fuel offset : Nat)
    (rest : List Char) : value (fuel + 1) ⟨offset, text ++ rest⟩ =
      .ok (v, ⟨offset + text.length, rest⟩) := by
  have found := literal?_complete known offset rest
  have plain : ∃ c tail, text = c :: tail ∧ c ≠ '"' ∧ c ≠ '{' ∧ c ≠ '[' := by
    cases known <;> exact ⟨_, _, rfl, by decide⟩
  obtain ⟨c, tail, rfl, plain⟩ := plain
  rw [List.cons_append] at found ⊢
  rw [value_scalar plain, found]

/-- A part is read where it is written. The fuel counts the text twice, since a step into a container and a
step on to its next part share a character. -/
def ReadWhole : Part → List Char → Prop
  | .value v, text => ∀ fuel offset rest, 2 * text.length ≤ fuel → Numeral.Ends rest →
      value fuel ⟨offset, text ++ rest⟩ = .ok (v, ⟨offset + text.length, rest⟩)
  | .items vs, text => ∀ fuel offset rest, 2 * text.length < fuel →
      items fuel ⟨offset, text ++ ']' :: rest⟩ = .ok (vs, ⟨offset + text.length + 1, rest⟩)
  | .members ms, text => ∀ fuel offset rest, 2 * text.length < fuel →
      members fuel ⟨offset, text ++ '}' :: rest⟩ = .ok (ms, ⟨offset + text.length + 1, rest⟩)

theorem readWhole_array {before text : List Char} {vs : List Value} (blanks : Blanks before)
    (writes : Writes (.items vs) text) (inside : ReadWhole (.items vs) text) :
    ReadWhole (.value (.array vs)) ('[' :: (before ++ text ++ [']'])) := by
  intro fuel offset rest enough _
  simp only [List.length_cons, List.length_append, List.length_nil] at enough
  obtain ⟨fuel, rfl⟩ : ∃ k, fuel = k + 1 := Nat.exists_eq_add_one.mpr (by omega)
  have read := inside fuel (offset + 1 + before.length) rest (by omega)
  simp only [List.cons_append, List.append_assoc, List.nil_append, value, skipBlanks_writes blanks writes]
  split
  · next same => exact absurd same (begins_unclosed writes _ _).1
  · simp only [read, bind, Except.bind, pure, Except.pure, List.length_cons, List.length_append,
      List.length_nil]
    congr 3
    omega

theorem readWhole_object {before text : List Char} {ms : List (String × Value)} (blanks : Blanks before)
    (writes : Writes (.members ms) text) (inside : ReadWhole (.members ms) text) :
    ReadWhole (.value (.object (putAll ms))) ('{' :: (before ++ text ++ ['}'])) := by
  intro fuel offset rest enough _
  simp only [List.length_cons, List.length_append, List.length_nil] at enough
  obtain ⟨fuel, rfl⟩ : ∃ k, fuel = k + 1 := Nat.exists_eq_add_one.mpr (by omega)
  have read := inside fuel (offset + 1 + before.length) rest (by omega)
  simp only [List.cons_append, List.append_assoc, List.nil_append, value, skipBlanks_writes blanks writes]
  split
  · next same => exact absurd same (begins_unclosed writes _ _).2
  · simp only [read, putAll, bind, Except.bind, pure, Except.pure, List.length_cons, List.length_append,
      List.length_nil]
    congr 3
    omega

theorem readWhole_emptyArray {inside : List Char} (blanks : Blanks inside) :
    ReadWhole (.value (.array [])) ('[' :: (inside ++ [']'])) := by
  intro fuel offset rest enough _
  obtain ⟨fuel, rfl⟩ : ∃ k, fuel = k + 1 := Nat.exists_eq_add_one.mpr (by simp at enough; omega)
  simp only [List.cons_append, List.append_assoc, List.nil_append, value, skipBlanks_char blanks ']' rfl,
    List.length_cons, List.length_append, List.length_nil]
  congr 3
  omega

theorem readWhole_emptyObject {inside : List Char} (blanks : Blanks inside) :
    ReadWhole (.value (.object [])) ('{' :: (inside ++ ['}'])) := by
  intro fuel offset rest enough _
  obtain ⟨fuel, rfl⟩ : ∃ k, fuel = k + 1 := Nat.exists_eq_add_one.mpr (by simp at enough; omega)
  simp only [List.cons_append, List.append_assoc, List.nil_append, value, skipBlanks_char blanks '}' rfl,
    List.length_cons, List.length_append, List.length_nil]
  congr 3
  omega

theorem value_then_blanks {text after : List Char} {v : Value} (item : ReadWhole (.value v) text)
    (behind : Blanks after) (fuel : Nat) (enough : 2 * text.length ≤ fuel) (rest : List Char)
    (closes : ∀ c ∈ rest.head?, c = ',' ∨ c = ']' ∨ c = '}') (offset : Nat) :
    value fuel ⟨offset, text ++ (after ++ rest)⟩ = .ok (v, ⟨offset + text.length, after ++ rest⟩) ∧
      skipBlanks ⟨offset + text.length, after ++ rest⟩ = ⟨offset + text.length + after.length, rest⟩ := by
  have stops : ∀ c ∈ rest.head?, isBlank c = false := by
    intro c head
    rcases closes c head with rfl | rfl | rfl <;> rfl
  exact ⟨item fuel offset _ enough (ends_of_blanks behind closes), skipBlanks_complete behind stops _⟩

theorem readWhole_lastItem {text after : List Char} {v : Value} (item : ReadWhole (.value v) text)
    (behind : Blanks after) : ReadWhole (.items [v]) (text ++ after) := by
  intro fuel offset rest enough
  obtain ⟨fuel, rfl⟩ : ∃ k, fuel = k + 1 := Nat.exists_eq_add_one.mpr (by omega)
  simp only [List.length_append] at enough
  obtain ⟨first, skipped⟩ := value_then_blanks item behind fuel (by omega) (']' :: rest) (by simp) offset
  simp only [List.append_assoc, items, first, skipped, bind, Except.bind, pure, Except.pure,
    List.length_append]
  congr 3
  omega

theorem readWhole_moreItems {text after before more : List Char} {v : Value} {vs : List Value}
    (item : ReadWhole (.value v) text) (behind : Blanks after) (ahead : Blanks before)
    (writes : Writes (.items vs) more) (later : ReadWhole (.items vs) more) :
    ReadWhole (.items (v :: vs)) (text ++ after ++ ',' :: (before ++ more)) := by
  intro fuel offset rest enough
  simp only [List.length_append, List.length_cons] at enough
  obtain ⟨fuel, rfl⟩ : ∃ k, fuel = k + 1 := Nat.exists_eq_add_one.mpr (by omega)
  obtain ⟨first, skipped⟩ := value_then_blanks item behind fuel (by omega)
    (',' :: (before ++ (more ++ ']' :: rest))) (by simp) offset
  have read := fun offset => later fuel offset rest (by omega)
  simp only [List.append_assoc, List.cons_append, items, first, skipped, skipBlanks_writes ahead writes,
    read, bind, Except.bind, pure, Except.pure, List.length_append, List.length_cons]
  congr 3
  omega

theorem readWhole_lastMember {name cs gap before text after : List Char} {v : Value}
    (content : Content name cs) (blanks : Blanks gap) (ahead : Blanks before)
    (writes : Writes (.value v) text) (member : ReadWhole (.value v) text) (behind : Blanks after) :
    ReadWhole (.members [(String.ofList cs, v)])
      ('"' :: (name ++ '"' :: (gap ++ ':' :: (before ++ text ++ after)))) := by
  intro fuel offset rest enough
  simp only [List.length_append, List.length_cons] at enough
  obtain ⟨fuel, rfl⟩ : ∃ k, fuel = k + 1 := Nat.exists_eq_add_one.mpr (by omega)
  have first := value_then_blanks member behind fuel (by omega) ('}' :: rest) (by simp)
  simp only [List.append_assoc, List.cons_append, members, string_complete content,
    skipBlanks_char blanks ':' rfl, skipBlanks_writes ahead writes, first, bind, Except.bind, pure,
    Except.pure, List.length_append, List.length_cons]
  congr 3
  omega

theorem readWhole_moreMembers {name cs gap before text after next more : List Char} {v : Value}
    {ms : List (String × Value)} (content : Content name cs) (blanks : Blanks gap) (ahead : Blanks before)
    (writes : Writes (.value v) text) (member : ReadWhole (.value v) text) (behind : Blanks after)
    (aheadNext : Blanks next) (writesMore : Writes (.members ms) more)
    (later : ReadWhole (.members ms) more) :
    ReadWhole (.members ((String.ofList cs, v) :: ms))
      ('"' :: (name ++ '"' :: (gap ++ ':' :: (before ++ text ++ after ++ ',' :: (next ++ more))))) := by
  intro fuel offset rest enough
  simp only [List.length_append, List.length_cons] at enough
  obtain ⟨fuel, rfl⟩ : ∃ k, fuel = k + 1 := Nat.exists_eq_add_one.mpr (by omega)
  have first := value_then_blanks member behind fuel (by omega)
    (',' :: (next ++ (more ++ '}' :: rest))) (by simp)
  have read := fun offset => later fuel offset rest (by omega)
  simp only [List.append_assoc, List.cons_append, members, string_complete content,
    skipBlanks_char blanks ':' rfl, skipBlanks_writes ahead writes, first,
    skipBlanks_writes aheadNext writesMore, read, bind, Except.bind, pure, Except.pure, List.length_append,
    List.length_cons]
  congr 3
  omega

theorem complete {p : Part} {text : List Char} (writes : Writes p text) : ReadWhole p text := by
  -- One case for each way to write a part; the fuel that a container takes is left to its lemma.
  induction writes with
  | @string text cs content =>
    intro fuel offset rest enough _
    obtain ⟨fuel, rfl⟩ : ∃ k, fuel = k + 1 := Nat.exists_eq_add_one.mpr (by simp at enough; omega)
    simp only [List.cons_append, List.append_assoc, List.nil_append, value, string_complete content, bind,
      Except.bind, pure, Except.pure, List.length_cons, List.length_append, List.length_nil]
    congr 3
    omega
  | @literal text v known =>
    intro fuel offset rest enough _
    obtain ⟨c, tail, rfl, -⟩ := begins (.literal known)
    obtain ⟨fuel, rfl⟩ : ∃ k, fuel = k + 1 := Nat.exists_eq_add_one.mpr (by simp at enough; omega)
    exact value_literal known fuel offset rest
  | integer numeral plain short =>
    intro fuel offset rest enough ends
    obtain ⟨c, tail, rfl, -⟩ := begins (.integer numeral plain short)
    obtain ⟨fuel, rfl⟩ : ∃ k, fuel = k + 1 := Nat.exists_eq_add_one.mpr (by simp at enough; omega)
    rw [value_numeral numeral, number_complete numeral ends, if_pos plain, if_neg (by omega)]
  | double numeral notPlain =>
    intro fuel offset rest enough ends
    obtain ⟨c, tail, rfl, -⟩ := begins (.double numeral notPlain)
    obtain ⟨fuel, rfl⟩ : ∃ k, fuel = k + 1 := Nat.exists_eq_add_one.mpr (by simp at enough; omega)
    rw [value_numeral numeral, number_complete numeral ends, if_neg (by simp [notPlain])]
  | emptyArray blanks => exact readWhole_emptyArray blanks
  | array blanks writes inside => exact readWhole_array blanks writes inside
  | emptyObject blanks => exact readWhole_emptyObject blanks
  | object blanks writes inside => exact readWhole_object blanks writes inside
  | lastItem _ behind item => exact readWhole_lastItem item behind
  | moreItems _ behind ahead writes item later => exact readWhole_moreItems item behind ahead writes later
  | lastMember content blanks ahead writes behind member =>
    exact readWhole_lastMember content blanks ahead writes member behind
  | moreMembers content blanks ahead writes behind aheadNext writesMore member later =>
    exact readWhole_moreMembers content blanks ahead writes member behind aheadNext writesMore later

end Reader

theorem no_byteOrderMark {before after : List Char} {c : Char} (blanks : Blanks before)
    (notMark : c ≠ '\uFEFF') (rest : List Char) : before ++ c :: after ≠ '\uFEFF' :: rest := by
  intro same
  cases before with
  | nil => exact notMark (List.cons.inj same).1
  | cons b before =>
    have blank := blanks b (by simp)
    rw [(List.cons.inj same).1] at blank
    cases blank

theorem read_of_isText {text : String} {v : Value} (isText : IsText v text.toList) :
    read text = .ok v := by
  have start : Cursor.ofString text = ⟨0, text.toList⟩ := rfl
  simp only [read, start]
  generalize text.toList = chars at isText
  obtain @⟨before, written, after, ahead, writes, behind⟩ := isText
  obtain ⟨c, tail, begin, -, -, -, notMark⟩ := Reader.begins writes
  split
  · next same =>
    rw [begin, List.append_assoc, List.cons_append] at same
    exact absurd same (no_byteOrderMark ahead notMark _)
  · have ends : Numeral.Ends after := by
      rw [← List.append_nil after]
      exact Reader.ends_of_blanks behind (by simp)
    have item := Reader.complete writes (2 * (before ++ (written ++ after)).length + 1)
      (0 + before.length) after (by simp; omega) ends
    have trailing : Reader.skipBlanks ⟨0 + before.length + written.length, after ++ []⟩ =
        ⟨0 + before.length + written.length + after.length, []⟩ :=
      Reader.skipBlanks_complete behind (by simp) _
    rw [List.append_nil] at trailing
    simp only [List.append_assoc, Reader.skipBlanks_writes ahead writes, item, trailing, bind, Except.bind,
      List.isEmpty_nil, if_true, pure, Except.pure]

/-- A text is read as a value exactly where the grammar writes the value so. -/
theorem read_eq_ok_iff {text : String} {v : Value} : read text = .ok v ↔ IsText v text.toList :=
  ⟨isText_of_read, read_of_isText⟩

end Value

end JsonPath
