import JsonPath.Files
import JsonPath.Proofs.Value.LongInteger

namespace JsonPath

def Unbroken (text : List Char) : Prop := ∀ c ∈ text, c ≠ '\r' ∧ c ≠ '\n'

theorem unifyLineEnds_cons {c : Char} (notReturn : c ≠ '\r') (rest : List Char) :
    unifyLineEnds (c :: rest) = c :: unifyLineEnds rest := by
  rw [unifyLineEnds]
  · exact fun _ same => absurd same notReturn
  · exact fun same => absurd same notReturn

theorem unifyLineEnds_return {rest : List Char} (notFeed : rest.head? ≠ some '\n') :
    unifyLineEnds ('\r' :: rest) = '\n' :: unifyLineEnds rest := by
  rw [unifyLineEnds]
  rintro after rfl
  exact absurd rfl notFeed

theorem unifyLineEnds_append {text : List Char} (unbroken : Unbroken text) (rest : List Char) :
    unifyLineEnds (text ++ rest) = text ++ unifyLineEnds rest := by
  induction text with
  | nil => rfl
  | cons c text ih =>
    rw [Unbroken, List.forall_mem_cons] at unbroken
    rw [List.cons_append, unifyLineEnds_cons unbroken.1.1, ih unbroken.2, List.cons_append]

theorem unifyLineEnds_eq_cons {text rest : List Char} {c : Char} (same : unifyLineEnds text = c :: rest) :
    (∃ after, text = c :: after ∧ unifyLineEnds after = rest) ∨
      c = '\n' ∧ ∃ ends after, text = ends ++ after ∧ Value.Blanks ends ∧ unifyLineEnds after = rest := by
  unfold unifyLineEnds at same
  split at same
  · contradiction
  · next after =>
    cases same
    exact .inr ⟨rfl, ['\r', '\n'], after, rfl,
      List.forall_mem_cons.mpr ⟨.carriageReturn, List.forall_mem_singleton.mpr .lineFeed⟩, rfl⟩
  · next after _ =>
    cases same
    exact .inr ⟨rfl, ['\r'], after, rfl, List.forall_mem_singleton.mpr .carriageReturn, rfl⟩
  · next d after _ _ =>
    cases same
    exact .inl ⟨after, rfl, rfl⟩

theorem unifyLineEnds_eq_nil {text : List Char} (same : unifyLineEnds text = []) : text = [] := by
  unfold unifyLineEnds at same
  split at same <;> first | rfl | contradiction

theorem unifyLineEnds_eq_append {text written rest : List Char} (unbroken : Unbroken written)
    (same : unifyLineEnds text = written ++ rest) :
    ∃ after, text = written ++ after ∧ unifyLineEnds after = rest := by
  induction written generalizing text with
  | nil => exact ⟨text, rfl, same⟩
  | cons c written ih =>
    rw [Unbroken, List.forall_mem_cons] at unbroken
    rcases unifyLineEnds_eq_cons same with ⟨after, rfl, later⟩ | ⟨rfl, -⟩
    · obtain ⟨after, rfl, ends⟩ := ih unbroken.2 later
      exact ⟨after, rfl, ends⟩
    · exact absurd rfl unbroken.1.2

theorem unifyLineEnds_eq_char {text rest : List Char} {c : Char} (notFeed : c ≠ '\n')
    (same : unifyLineEnds text = c :: rest) : ∃ after, text = c :: after ∧ unifyLineEnds after = rest := by
  rcases unifyLineEnds_eq_cons same with later | ⟨rfl, -⟩
  · exact later
  · exact absurd rfl notFeed

namespace Value

theorem blanks_cons {c : Char} {text : List Char} : Blanks (c :: text) ↔ Blank c ∧ Blanks text :=
  List.forall_mem_cons

theorem unifyLineEnds_blanks {before : List Char} (blanks : Blanks before) (rest : List Char)
    (notFeed : rest.head? ≠ some '\n') :
    ∃ unified, Blanks unified ∧ unifyLineEnds (before ++ rest) = unified ++ unifyLineEnds rest := by
  induction before using unifyLineEnds.induct with
  | case1 => exact ⟨[], blanks, rfl⟩
  | case2 before ih =>
    rw [blanks_cons, blanks_cons] at blanks
    obtain ⟨unified, blankUnified, same⟩ := ih blanks.2.2
    exact ⟨'\n' :: unified, blanks_cons.mpr ⟨.lineFeed, blankUnified⟩, congrArg ('\n' :: ·) same⟩
  | case3 before alone ih =>
    rw [blanks_cons] at blanks
    obtain ⟨unified, blankUnified, same⟩ := ih blanks.2
    -- The return stays alone: a line feed follows it neither in the white space nor behind it.
    have still : (before ++ rest).head? ≠ some '\n' := by
      cases before with
      | nil => exact notFeed
      | cons c before =>
        rintro ⟨⟩
        exact alone _ rfl
    refine ⟨'\n' :: unified, blanks_cons.mpr ⟨.lineFeed, blankUnified⟩, ?_⟩
    rw [List.cons_append, unifyLineEnds_return still, same, List.cons_append]
  | case4 c before _ notReturn ih =>
    rw [blanks_cons] at blanks
    obtain ⟨unified, blankUnified, same⟩ := ih blanks.2
    refine ⟨c :: unified, blanks_cons.mpr ⟨blanks.1, blankUnified⟩, ?_⟩
    rw [List.cons_append, unifyLineEnds_cons notReturn, same, List.cons_append]

theorem unifyLineEnds_eq_blanks {text before rest : List Char} (blanks : Blanks before)
    (same : unifyLineEnds text = before ++ rest) :
    ∃ given after, text = given ++ after ∧ Blanks given ∧ unifyLineEnds after = rest := by
  induction before generalizing text with
  | nil => exact ⟨[], text, rfl, blanks, same⟩
  | cons c before ih =>
    rw [blanks_cons] at blanks
    rcases unifyLineEnds_eq_cons same with ⟨after, rfl, later⟩ | ⟨rfl, ends, after, rfl, blankEnds, later⟩
    · obtain ⟨given, after, rfl, blankGiven, stop⟩ := ih blanks.2 later
      exact ⟨c :: given, after, rfl, blanks_cons.mpr ⟨blanks.1, blankGiven⟩, stop⟩
    · obtain ⟨given, after, rfl, blankGiven, stop⟩ := ih blanks.2 later
      refine ⟨ends ++ given, after, by simp, ?_, stop⟩
      exact List.forall_mem_append.mpr ⟨blankEnds, blankGiven⟩

theorem unbroken_append {text rest : List Char} : Unbroken (text ++ rest) ↔ Unbroken text ∧ Unbroken rest :=
  List.forall_mem_append

theorem unbroken_cons {c : Char} {text : List Char} :
    Unbroken (c :: text) ↔ (c ≠ '\r' ∧ c ≠ '\n') ∧ Unbroken text :=
  List.forall_mem_cons

theorem unbroken_of_isDigit {ds : List Char} (digits : ∀ d ∈ ds, Numeral.isDigit d) : Unbroken ds :=
  fun d member => ⟨Reader.ne_of_isDigit (digits d member) rfl, Reader.ne_of_isDigit (digits d member) rfl⟩

theorem hexValue?_unbroken {a b c d : Char} {value : Nat} (digits : hexValue? [a, b, c, d] = some value)
    {rest : List Char} (unbroken : Unbroken rest) : Unbroken (a :: b :: c :: d :: rest) := by
  have other {e : Char} (digit : (hexDigit? e).isSome) : e ≠ '\r' ∧ e ≠ '\n' := by
    constructor <;>
    · rintro rfl
      contradiction
  simp only [hexValue?, List.foldl_cons, List.foldl_nil, Option.bind_some, Option.bind_eq_some_iff,
    Option.map_eq_some_iff] at digits
  obtain ⟨_, ⟨_, ⟨_, ⟨_, first, -⟩, _, second, -⟩, _, third, -⟩, _, fourth, -⟩ := digits
  simp only [unbroken_cons]
  exact ⟨other (by simp [first]), other (by simp [second]), other (by simp [third]),
    other (by simp [fourth]), unbroken⟩

theorem Content.unbroken {text cs : List Char} (content : Content text cs) : Unbroken text := by
  induction content with
  | empty => simp [Unbroken]
  | plain _ _ printable _ ih =>
    refine unbroken_cons.mpr ⟨⟨?_, ?_⟩, ih⟩ <;>
    · rintro rfl
      contradiction
  | escape simple _ ih =>
    refine unbroken_cons.mpr ⟨by decide, unbroken_cons.mpr ⟨⟨?_, ?_⟩, ih⟩⟩ <;>
    · rintro rfl
      contradiction
  | unit digits _ _ ih =>
    exact unbroken_cons.mpr ⟨by decide, unbroken_cons.mpr ⟨by decide, hexValue?_unbroken digits ih⟩⟩
  | pair first _ second _ _ ih =>
    refine unbroken_cons.mpr ⟨by decide, unbroken_cons.mpr ⟨by decide, hexValue?_unbroken first ?_⟩⟩
    exact unbroken_cons.mpr ⟨by decide, unbroken_cons.mpr ⟨by decide, hexValue?_unbroken second ih⟩⟩

theorem fraction_unbroken {ds text : List Char} (fraction : Numeral.FractionText ds text) :
    Unbroken text := by
  cases fraction with
  | absent => simp [Unbroken]
  | present _ digits => exact unbroken_cons.mpr ⟨by decide, unbroken_of_isDigit digits⟩

theorem exponent_unbroken {e : Option (Bool × List Char)} {text : List Char}
    (exponent : Numeral.ExponentText e text) : Unbroken text := by
  cases exponent with
  | absent => simp [Unbroken]
  | present isMark isSign _ digits =>
    refine unbroken_cons.mpr ⟨?_, unbroken_append.mpr ⟨?_, unbroken_of_isDigit digits⟩⟩
    · rcases isMark with rfl | rfl <;> decide
    · rcases isSign with rfl | rfl | rfl <;> simp [Unbroken]

theorem whole_unbroken {ds : List Char} (whole : Numeral.IsWhole ds) : Unbroken ds := by
  rcases whole with rfl | ⟨-, -, digits⟩
  · simp [Unbroken]
  · exact unbroken_of_isDigit digits

theorem numeral_unbroken {n : Numeral} {text : List Char} (numeral : n.Writes text) : Unbroken text := by
  obtain ⟨whole, fraction, exponent⟩ := numeral
  have sign : Unbroken n.signText := by
    unfold Numeral.signText
    split <;> simp [Unbroken]
  simp only [unbroken_append]
  exact ⟨⟨⟨sign, whole_unbroken whole⟩, fraction_unbroken fraction⟩, exponent_unbroken exponent⟩

theorem literal_unbroken {text : List Char} {v : Value} (known : Literal text v) : Unbroken text := by
  cases known <;> simp [Unbroken]

theorem quoted_unbroken {text cs : List Char} (content : Content text cs) :
    Unbroken ('"' :: (text ++ ['"'])) :=
  unbroken_cons.mpr ⟨by decide, unbroken_append.mpr ⟨content.unbroken, by simp [Unbroken]⟩⟩

section
variable (mark : Char) (other : mark ≠ '\r' ∧ mark ≠ '\n') {behind ahead rest : List Char}
include other

theorem unifyLineEnds_open (blanks : Blanks ahead) (rest : List Char) (notFeed : rest.head? ≠ some '\n') :
    ∃ unified, Blanks unified ∧
      unifyLineEnds (mark :: (ahead ++ rest)) = mark :: (unified ++ unifyLineEnds rest) := by
  obtain ⟨unified, blankUnified, same⟩ := unifyLineEnds_blanks blanks rest notFeed
  refine ⟨unified, blankUnified, ?_⟩
  rw [unifyLineEnds_cons other.1, same]

theorem unifyLineEnds_mark (blanks : Blanks behind) (blanksAhead : Blanks ahead) (rest : List Char)
    (notFeed : rest.head? ≠ some '\n') :
    ∃ back front, Blanks back ∧ Blanks front ∧
      unifyLineEnds (behind ++ mark :: (ahead ++ rest)) = back ++ mark :: (front ++ unifyLineEnds rest) := by
  obtain ⟨front, blankFront, opened⟩ := unifyLineEnds_open mark other blanksAhead rest notFeed
  obtain ⟨back, blankBack, same⟩ :=
    unifyLineEnds_blanks blanks (mark :: (ahead ++ rest)) (by simp [other.2])
  exact ⟨back, front, blankBack, blankFront, by rw [same, opened]⟩

theorem unifyLineEnds_eq_open {text : List Char} (blanks : Blanks ahead)
    (same : unifyLineEnds text = mark :: (ahead ++ rest)) :
    ∃ given after, text = mark :: (given ++ after) ∧ Blanks given ∧ unifyLineEnds after = rest := by
  obtain ⟨text, rfl, opened⟩ := unifyLineEnds_eq_char other.2 same
  obtain ⟨given, after, rfl, blankGiven, ends⟩ := unifyLineEnds_eq_blanks blanks opened
  exact ⟨given, after, rfl, blankGiven, ends⟩

theorem unifyLineEnds_eq_mark {text : List Char} (blanks : Blanks behind) (blanksAhead : Blanks ahead)
    (same : unifyLineEnds text = behind ++ mark :: (ahead ++ rest)) :
    ∃ back front after, text = back ++ mark :: (front ++ after) ∧ Blanks back ∧ Blanks front ∧
      unifyLineEnds after = rest := by
  obtain ⟨back, text, rfl, blankBack, opened⟩ := unifyLineEnds_eq_blanks blanks same
  obtain ⟨front, after, rfl, blankFront, ends⟩ := unifyLineEnds_eq_open mark other blanksAhead opened
  exact ⟨back, front, after, rfl, blankBack, blankFront, ends⟩

end

theorem unifyLineEnds_name {name cs : List Char} (content : Content name cs) (rest : List Char) :
    unifyLineEnds ('"' :: (name ++ '"' :: rest)) = '"' :: (name ++ '"' :: unifyLineEnds rest) := by
  rw [unifyLineEnds_cons (by decide), unifyLineEnds_append content.unbroken,
    unifyLineEnds_cons (by decide)]

theorem unifyLineEnds_eq_name {name cs text rest : List Char} (content : Content name cs)
    (same : unifyLineEnds text = '"' :: (name ++ '"' :: rest)) :
    ∃ after, text = '"' :: (name ++ '"' :: after) ∧ unifyLineEnds after = rest := by
  obtain ⟨text, rfl, named⟩ := unifyLineEnds_eq_char (by decide) same
  obtain ⟨text, rfl, quote⟩ := unifyLineEnds_eq_append content.unbroken named
  obtain ⟨after, rfl, ends⟩ := unifyLineEnds_eq_char (by decide) quote
  exact ⟨after, rfl, ends⟩

theorem writes_head {p : Part} {text : List Char} (writes : Writes p text) (rest : List Char) :
    (text ++ rest).head? ≠ some '\n' := by
  obtain ⟨c, tail, rfl, notBlank, -⟩ := Reader.begins writes
  rintro ⟨⟩
  contradiction

def Part.EndsBefore (rest : List Char) : Part → Prop
  | .value _ => True
  | .items _ | .members _ => rest.head? ≠ some '\n'

theorem writes_unified {p : Part} {text : List Char} (writes : Writes p text) (rest : List Char)
    (ends : p.EndsBefore rest) :
    ∃ unified, Writes p unified ∧ unifyLineEnds (text ++ rest) = unified ++ unifyLineEnds rest := by
  -- Each piece is unified in front of the pieces behind it, the last one first: whether a return stands
  -- alone is only known from what follows.
  induction writes generalizing rest with
  | string content => exact ⟨_, .string content, unifyLineEnds_append (quoted_unbroken content) rest⟩
  | literal known => exact ⟨_, .literal known, unifyLineEnds_append (literal_unbroken known) rest⟩
  | integer numeral plain short =>
    exact ⟨_, .integer numeral plain short, unifyLineEnds_append (numeral_unbroken numeral) rest⟩
  | double numeral notPlain =>
    exact ⟨_, .double numeral notPlain, unifyLineEnds_append (numeral_unbroken numeral) rest⟩
  | emptyArray blanks =>
    obtain ⟨inside, blankInside, opened⟩ :=
      unifyLineEnds_open '[' (by decide) blanks (']' :: rest) (by simp)
    refine ⟨_, .emptyArray blankInside, ?_⟩
    simp [opened, unifyLineEnds_cons]
  | emptyObject blanks =>
    obtain ⟨inside, blankInside, opened⟩ :=
      unifyLineEnds_open '{' (by decide) blanks ('}' :: rest) (by simp)
    refine ⟨_, .emptyObject blankInside, ?_⟩
    simp [opened, unifyLineEnds_cons]
  | array blanks inside ih =>
    obtain ⟨before, blankBefore, opened⟩ :=
      unifyLineEnds_open '[' (by decide) blanks _ (writes_head inside (']' :: rest))
    obtain ⟨text, writes, same⟩ := ih (']' :: rest) (by simp [Part.EndsBefore])
    refine ⟨_, .array blankBefore writes, ?_⟩
    simp [opened, same, unifyLineEnds_cons]
  | object blanks inside ih =>
    obtain ⟨before, blankBefore, opened⟩ :=
      unifyLineEnds_open '{' (by decide) blanks _ (writes_head inside ('}' :: rest))
    obtain ⟨text, writes, same⟩ := ih ('}' :: rest) (by simp [Part.EndsBefore])
    refine ⟨_, .object blankBefore writes, ?_⟩
    simp [opened, same, unifyLineEnds_cons]
  | lastItem item behind ih =>
    obtain ⟨after, blankAfter, back⟩ := unifyLineEnds_blanks behind rest ends
    obtain ⟨text, writes, same⟩ := ih _ trivial
    refine ⟨_, .lastItem writes blankAfter, ?_⟩
    rw [List.append_assoc, same, back, List.append_assoc]
  | @moreItems text after before more v vs item behind ahead writesMore ih ihMore =>
    obtain ⟨more', writes', same'⟩ := ihMore rest ends
    obtain ⟨after', before', blankAfter, blankBefore, comma⟩ :=
      unifyLineEnds_mark ',' (by decide) behind ahead _ (writes_head writesMore rest)
    obtain ⟨text', writes, same⟩ := ih (after ++ ',' :: (before ++ (more ++ rest))) trivial
    refine ⟨_, .moreItems writes blankAfter blankBefore writes', ?_⟩
    simp [same, comma, same']
  | @lastMember name cs gap before text after v content blanks ahead member behind ih =>
    obtain ⟨after', blankAfter, back⟩ := unifyLineEnds_blanks behind rest ends
    obtain ⟨text', writes, same⟩ := ih (after ++ rest) trivial
    obtain ⟨gap', before', blankGap, blankBefore, colon⟩ :=
      unifyLineEnds_mark ':' (by decide) blanks ahead _ (writes_head member (after ++ rest))
    refine ⟨_, .lastMember content blankGap blankBefore writes blankAfter, ?_⟩
    simp [unifyLineEnds_name content, colon, same, back]
  | @moreMembers name cs gap before text after next more v ms content blanks ahead member behind aheadNext
      writesMore ih ihMore =>
    obtain ⟨more', writes', same'⟩ := ihMore rest ends
    obtain ⟨after', next', blankAfter, blankNext, comma⟩ :=
      unifyLineEnds_mark ',' (by decide) behind aheadNext _ (writes_head writesMore rest)
    obtain ⟨text', writes, same⟩ := ih (after ++ ',' :: (next ++ (more ++ rest))) trivial
    obtain ⟨gap', before', blankGap, blankBefore, colon⟩ :=
      unifyLineEnds_mark ':' (by decide) blanks ahead _
        (writes_head member (after ++ ',' :: (next ++ (more ++ rest))))
    refine ⟨_, .moreMembers content blankGap blankBefore writes blankAfter blankNext writes', ?_⟩
    simp [unifyLineEnds_name content, colon, same, comma, same']

theorem writes_given {p : Part} {written : List Char} (writes : Writes p written) {text rest : List Char}
    (same : unifyLineEnds text = written ++ rest) :
    ∃ given after, text = given ++ after ∧ Writes p given ∧ unifyLineEnds after = rest := by
  -- Here the pieces come first to last: each leaves a text whose unified form is what follows it.
  induction writes generalizing text rest with
  | string content =>
    obtain ⟨after, rfl, ends⟩ := unifyLineEnds_eq_append (quoted_unbroken content) same
    exact ⟨_, after, rfl, .string content, ends⟩
  | literal known =>
    obtain ⟨after, rfl, ends⟩ := unifyLineEnds_eq_append (literal_unbroken known) same
    exact ⟨_, after, rfl, .literal known, ends⟩
  | integer numeral plain short =>
    obtain ⟨after, rfl, ends⟩ := unifyLineEnds_eq_append (numeral_unbroken numeral) same
    exact ⟨_, after, rfl, .integer numeral plain short, ends⟩
  | double numeral notPlain =>
    obtain ⟨after, rfl, ends⟩ := unifyLineEnds_eq_append (numeral_unbroken numeral) same
    exact ⟨_, after, rfl, .double numeral notPlain, ends⟩
  | emptyArray blanks =>
    rw [List.cons_append, List.append_assoc] at same
    obtain ⟨inside, text, rfl, blankInside, closes⟩ := unifyLineEnds_eq_open '[' (by decide) blanks same
    obtain ⟨text, rfl, ends⟩ := unifyLineEnds_eq_char (by decide) closes
    exact ⟨_, text, by simp, .emptyArray blankInside, ends⟩
  | emptyObject blanks =>
    rw [List.cons_append, List.append_assoc] at same
    obtain ⟨inside, text, rfl, blankInside, closes⟩ := unifyLineEnds_eq_open '{' (by decide) blanks same
    obtain ⟨text, rfl, ends⟩ := unifyLineEnds_eq_char (by decide) closes
    exact ⟨_, text, by simp, .emptyObject blankInside, ends⟩
  | array blanks _ ih =>
    rw [List.cons_append, List.append_assoc, List.append_assoc] at same
    obtain ⟨before, text, rfl, blankBefore, front⟩ := unifyLineEnds_eq_open '[' (by decide) blanks same
    obtain ⟨inside, text, rfl, writes, closes⟩ := ih front
    obtain ⟨text, rfl, ends⟩ := unifyLineEnds_eq_char (by decide) closes
    exact ⟨_, text, by simp, .array blankBefore writes, ends⟩
  | object blanks _ ih =>
    rw [List.cons_append, List.append_assoc, List.append_assoc] at same
    obtain ⟨before, text, rfl, blankBefore, front⟩ := unifyLineEnds_eq_open '{' (by decide) blanks same
    obtain ⟨inside, text, rfl, writes, closes⟩ := ih front
    obtain ⟨text, rfl, ends⟩ := unifyLineEnds_eq_char (by decide) closes
    exact ⟨_, text, by simp, .object blankBefore writes, ends⟩
  | lastItem _ behind ih =>
    rw [List.append_assoc] at same
    obtain ⟨item, text, rfl, writes, back⟩ := ih same
    obtain ⟨after, text, rfl, blankAfter, ends⟩ := unifyLineEnds_eq_blanks behind back
    exact ⟨_, text, by simp, .lastItem writes blankAfter, ends⟩
  | moreItems _ behind ahead _ ih ihMore =>
    simp only [List.append_assoc, List.cons_append] at same
    obtain ⟨item, text, rfl, writes, comma⟩ := ih same
    obtain ⟨after, before, text, rfl, blankAfter, blankBefore, later⟩ :=
      unifyLineEnds_eq_mark ',' (by decide) behind ahead comma
    obtain ⟨more, text, rfl, writesMore, ends⟩ := ihMore later
    exact ⟨_, text, by simp, .moreItems writes blankAfter blankBefore writesMore, ends⟩
  | lastMember content blanks ahead _ behind ih =>
    simp only [List.append_assoc, List.cons_append] at same
    obtain ⟨text, rfl, colon⟩ := unifyLineEnds_eq_name content same
    obtain ⟨gap, before, text, rfl, blankGap, blankBefore, first⟩ :=
      unifyLineEnds_eq_mark ':' (by decide) blanks ahead colon
    obtain ⟨member, text, rfl, writes, back⟩ := ih first
    obtain ⟨after, text, rfl, blankAfter, ends⟩ := unifyLineEnds_eq_blanks behind back
    exact ⟨_, text, by simp, .lastMember content blankGap blankBefore writes blankAfter, ends⟩
  | moreMembers content blanks ahead _ behind aheadNext _ ih ihMore =>
    simp only [List.append_assoc, List.cons_append] at same
    obtain ⟨text, rfl, colon⟩ := unifyLineEnds_eq_name content same
    obtain ⟨gap, before, text, rfl, blankGap, blankBefore, first⟩ :=
      unifyLineEnds_eq_mark ':' (by decide) blanks ahead colon
    obtain ⟨member, text, rfl, writes, comma⟩ := ih first
    obtain ⟨after, next, text, rfl, blankAfter, blankNext, later⟩ :=
      unifyLineEnds_eq_mark ',' (by decide) behind aheadNext comma
    obtain ⟨more, text, rfl, writesMore, ends⟩ := ihMore later
    exact ⟨_, text, by simp,
      .moreMembers content blankGap blankBefore writes blankAfter blankNext writesMore, ends⟩

theorem isText_unifyLineEnds_iff {v : Value} {text : List Char} :
    IsText v (unifyLineEnds text) ↔ IsText v text := by
  constructor
  · intro isText
    obtain ⟨unified, same⟩ : ∃ unified, unified = unifyLineEnds text := ⟨_, rfl⟩
    rw [← same] at isText
    obtain ⟨ahead, writes, behind⟩ := isText
    rw [List.append_assoc] at same
    obtain ⟨before, text, rfl, blankBefore, front⟩ := unifyLineEnds_eq_blanks ahead same.symm
    obtain ⟨given, text, rfl, writes, back⟩ := writes_given writes front
    obtain ⟨after, text, rfl, blankAfter, ends⟩ :=
      unifyLineEnds_eq_blanks behind (back.trans (List.append_nil _).symm)
    obtain rfl := unifyLineEnds_eq_nil ends
    rw [List.append_nil, ← List.append_assoc]
    exact .intro blankBefore writes blankAfter
  · rintro ⟨ahead, writes, behind⟩
    obtain ⟨after, blankAfter, back⟩ := unifyLineEnds_blanks behind [] (by simp)
    obtain ⟨unified, writes', same⟩ := writes_unified writes _ trivial
    obtain ⟨before, blankBefore, front⟩ := unifyLineEnds_blanks ahead _ (writes_head writes _)
    rw [List.append_nil, unifyLineEnds, List.append_nil] at back
    rw [List.append_assoc, front, same, back, ← List.append_assoc]
    exact .intro blankBefore writes' blankAfter

theorem endsWhole_unifyLineEnds_iff {rest : List Char} :
    Numeral.EndsWhole (unifyLineEnds rest) ↔ Numeral.EndsWhole rest := by
  constructor
  · rintro ⟨noDigit, noFraction, noExponent⟩
    refine ⟨fun d head => ?_, fun ds written more fraction covers => ?_, fun e written more exponent covers => ?_⟩
    · obtain ⟨rest, rfl⟩ := List.head?_eq_some_iff.mp head
      by_cases isReturn : d = '\r'
      · rw [isReturn]
        rfl
      · exact noDigit d (by rw [unifyLineEnds_cons isReturn]; rfl)
    · rw [covers, unifyLineEnds_append (fraction_unbroken fraction)] at noFraction
      exact noFraction _ _ _ fraction rfl
    · rw [covers, unifyLineEnds_append (exponent_unbroken exponent)] at noExponent
      exact noExponent _ _ _ exponent rfl
  · rintro ⟨noDigit, noFraction, noExponent⟩
    refine ⟨fun d head => ?_, fun ds written more fraction covers => ?_, fun e written more exponent covers => ?_⟩
    · obtain ⟨unified, same⟩ := List.head?_eq_some_iff.mp head
      rcases unifyLineEnds_eq_cons same with ⟨after, rfl, -⟩ | ⟨rfl, -⟩
      · exact noDigit d rfl
      · rfl
    · obtain ⟨after, same, -⟩ := unifyLineEnds_eq_append (fraction_unbroken fraction) covers
      exact noFraction _ _ _ fraction same
    · obtain ⟨after, same, -⟩ := unifyLineEnds_eq_append (exponent_unbroken exponent) covers
      exact noExponent _ _ _ exponent same

theorem meets_head {digits : Nat} {place : Place} {text : List Char} (meets : Meets digits place text) :
    text.head? ≠ some '\n' := by
  obtain ⟨c, tail, rfl, notBlank, -⟩ := Reader.meets_begins meets
  rintro ⟨⟩
  contradiction

theorem meets_unified {digits : Nat} {place : Place} {text : List Char} (meets : Meets digits place text) :
    Meets digits place (unifyLineEnds text) := by
  induction meets with
  | integer numeral plain count ends =>
    rw [unifyLineEnds_append (numeral_unbroken numeral)]
    exact .integer numeral plain count (endsWhole_unifyLineEnds_iff.mpr ends)
  | array blanks inside ih =>
    obtain ⟨before, blankBefore, opened⟩ := unifyLineEnds_open '[' (by decide) blanks _ (meets_head inside)
    rw [opened]
    exact .array blankBefore ih
  | object blanks inside ih =>
    obtain ⟨before, blankBefore, opened⟩ := unifyLineEnds_open '{' (by decide) blanks _ (meets_head inside)
    rw [opened]
    exact .object blankBefore ih
  | item _ ih => exact .item ih
  | @laterItem text after before rest v item behind ahead later ih =>
    obtain ⟨after', before', blankAfter, blankBefore, comma⟩ :=
      unifyLineEnds_mark ',' (by decide) behind ahead _ (meets_head later)
    obtain ⟨text', writes, same⟩ := writes_unified item (after ++ ',' :: (before ++ rest)) trivial
    rw [List.append_assoc, same, comma, ← List.append_assoc]
    exact .laterItem writes blankAfter blankBefore ih
  | member content blanks ahead first ih =>
    obtain ⟨gap, before, blankGap, blankBefore, colon⟩ :=
      unifyLineEnds_mark ':' (by decide) blanks ahead _ (meets_head first)
    rw [unifyLineEnds_name content, colon]
    exact .member content blankGap blankBefore ih
  | @laterMember name cs gap before text after next rest v content blanks ahead member behind aheadNext
      later ih =>
    obtain ⟨after', next', blankAfter, blankNext, comma⟩ :=
      unifyLineEnds_mark ',' (by decide) behind aheadNext _ (meets_head later)
    obtain ⟨text', writes, same⟩ := writes_unified member (after ++ ',' :: (next ++ rest)) trivial
    obtain ⟨gap', before', blankGap, blankBefore, colon⟩ :=
      unifyLineEnds_mark ':' (by decide) blanks ahead _ (writes_head member (after ++ ',' :: (next ++ rest)))
    have meets := Meets.laterMember content blankGap blankBefore writes blankAfter blankNext ih
    simp only [List.append_assoc] at meets ⊢
    rwa [unifyLineEnds_name content, colon, same, comma]

theorem meets_given {digits : Nat} {place : Place} {unified : List Char}
    (meets : Meets digits place unified) {text : List Char} (same : unifyLineEnds text = unified) :
    Meets digits place text := by
  induction meets generalizing text with
  | integer numeral plain count ends =>
    obtain ⟨rest, rfl, rfl⟩ := unifyLineEnds_eq_append (numeral_unbroken numeral) same
    exact .integer numeral plain count (endsWhole_unifyLineEnds_iff.mp ends)
  | array blanks _ ih =>
    obtain ⟨before, text, rfl, blankBefore, front⟩ := unifyLineEnds_eq_open '[' (by decide) blanks same
    exact .array blankBefore (ih front)
  | object blanks _ ih =>
    obtain ⟨before, text, rfl, blankBefore, front⟩ := unifyLineEnds_eq_open '{' (by decide) blanks same
    exact .object blankBefore (ih front)
  | item _ ih => exact .item (ih same)
  | laterItem item behind ahead _ ih =>
    rw [List.append_assoc] at same
    obtain ⟨item, text, rfl, writes, comma⟩ := writes_given item same
    obtain ⟨after, before, text, rfl, blankAfter, blankBefore, later⟩ :=
      unifyLineEnds_eq_mark ',' (by decide) behind ahead comma
    rw [← List.append_assoc]
    exact .laterItem writes blankAfter blankBefore (ih later)
  | member content blanks ahead _ ih =>
    obtain ⟨text, rfl, colon⟩ := unifyLineEnds_eq_name content same
    obtain ⟨gap, before, text, rfl, blankGap, blankBefore, first⟩ :=
      unifyLineEnds_eq_mark ':' (by decide) blanks ahead colon
    exact .member content blankGap blankBefore (ih first)
  | laterMember content blanks ahead member behind aheadNext _ ih =>
    simp only [List.append_assoc] at same
    obtain ⟨text, rfl, colon⟩ := unifyLineEnds_eq_name content same
    obtain ⟨gap, before, text, rfl, blankGap, blankBefore, first⟩ :=
      unifyLineEnds_eq_mark ':' (by decide) blanks ahead colon
    obtain ⟨given, text, rfl, writes, comma⟩ := writes_given member first
    obtain ⟨after, next, text, rfl, blankAfter, blankNext, later⟩ :=
      unifyLineEnds_eq_mark ',' (by decide) behind aheadNext comma
    have meets := Meets.laterMember content blankGap blankBefore writes blankAfter blankNext (ih later)
    simpa only [List.append_assoc] using meets

theorem longInteger_unifyLineEnds_iff {digits : Nat} {text : List Char} :
    LongInteger digits (unifyLineEnds text) ↔ LongInteger digits text := by
  constructor
  · rintro ⟨many, before, rest, covers, blanks, meets⟩
    obtain ⟨given, text, rfl, blankGiven, same⟩ := unifyLineEnds_eq_blanks blanks covers
    exact ⟨many, given, text, rfl, blankGiven, meets_given meets same⟩
  · rintro ⟨many, before, rest, rfl, blanks, meets⟩
    obtain ⟨unified, blankUnified, front⟩ := unifyLineEnds_blanks blanks rest (meets_head meets)
    exact ⟨many, unified, _, front, blankUnified, meets_unified meets⟩

end Value

end JsonPath
