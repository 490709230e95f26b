import JsonPath.Proofs.Value.Completeness

namespace JsonPath

namespace Value

inductive Place
  | value
  | items
  | members

/-- A text has an integer of so many digits, with nothing in front of it that stops its reading. -/
inductive Meets (digits : Nat) : Place → List Char → Prop
  | integer {n : Numeral} {text rest : List Char} (numeral : n.Writes text) (plain : n.isPlain)
      (count : n.whole.length = digits) (ends : Numeral.EndsWhole rest) : Meets digits .value (text ++ rest)
  | array {before rest : List Char} (blanks : Blanks before) (inside : Meets digits .items rest) :
      Meets digits .value ('[' :: (before ++ rest))
  | object {before rest : List Char} (blanks : Blanks before) (inside : Meets digits .members rest) :
      Meets digits .value ('{' :: (before ++ rest))
  | item {rest : List Char} (first : Meets digits .value rest) : Meets digits .items rest
  | laterItem {text after before rest : List Char} {v : Value} (item : Writes (.value v) text)
      (behind : Blanks after) (ahead : Blanks before) (later : Meets digits .items rest) :
      Meets digits .items (text ++ after ++ ',' :: (before ++ rest))
  | member {name cs gap before rest : List Char} (content : Content name cs) (blanks : Blanks gap)
      (ahead : Blanks before) (first : Meets digits .value rest) :
      Meets digits .members ('"' :: (name ++ '"' :: (gap ++ ':' :: (before ++ rest))))
  | laterMember {name cs gap before text after next rest : List Char} {v : Value}
      (content : Content name cs) (blanks : Blanks gap) (ahead : Blanks before)
      (member : Writes (.value v) text) (behind : Blanks after) (aheadNext : Blanks next)
      (later : Meets digits .members rest) :
      Meets digits .members
        ('"' :: (name ++ '"' :: (gap ++ ':' :: (before ++ text ++ after ++ ',' :: (next ++ rest)))))

def LongInteger (digits : Nat) (text : List Char) : Prop :=
  maxIntegerDigits < digits ∧ ∃ before rest, text = before ++ rest ∧ Blanks before ∧ Meets digits .value rest

namespace Reader

theorem error_of_cons {x : Except ReadError (List Char × Cursor)} {c : Char} {e : ReadError}
    (run : (do
      let (text, cursor) ← x
      return (c :: text, cursor)) = Except.error e) : x = .error e := by
  rcases Except.bind_eq_error.mp run with inside | ⟨_, _, same⟩
  · exact inside
  · contradiction

theorem content_error {start offset : Nat} {text : List Char} {e : ReadError}
    (run : content start offset text = .error e) : ∃ cause place, e = .malformed cause place := by
  fun_induction content start offset text
  case case2 => contradiction
  case case6 ih | case8 ih | case9 ih | case10 ih | case11 ih | case14 ih | case16 ih =>
    exact ih (error_of_cons run)
  all_goals
    cases run
    exact ⟨_, _, rfl⟩

theorem string_error {c : Cursor} {e : ReadError} (run : string c = .error e) :
    ∃ cause place, e = .malformed cause place := by
  rcases Except.bind_eq_error.mp run with inside | ⟨_, _, same⟩
  · exact content_error inside
  · contradiction

theorem number_error {c : Cursor} {digits : Nat} (run : number c = .error (.integerTooLong digits)) :
    maxIntegerDigits < digits ∧ Meets digits .value c.rest := by
  unfold number at run
  split at run
  · cases run
  · next l read =>
    obtain ⟨writes, covers⟩ := Numeral.read?_sound read
    simp only at run
    split at run
    · next plain =>
      split at run
      · next many =>
        cases run
        rw [covers]
        -- A digit may follow a zero alone, but that is no integer that is too long.
        have notZero : l.value.whole ≠ ['0'] := by
          intro zero
          simp [zero, maxIntegerDigits] at many
        exact ⟨many, .integer writes plain rfl (Numeral.read?_endsWhole read plain notZero)⟩
      · cases run
    · cases run

structure Met (digits fuel : Nat) : Prop where
  value : ∀ c, value fuel c = .error (.integerTooLong digits) →
    maxIntegerDigits < digits ∧ Meets digits .value c.rest
  items : ∀ c, items fuel c = .error (.integerTooLong digits) →
    maxIntegerDigits < digits ∧ Meets digits .items c.rest
  members : ∀ c, members fuel c = .error (.integerTooLong digits) →
    maxIntegerDigits < digits ∧ Meets digits .members c.rest

namespace Met

variable {digits fuel : Nat} (met : Met digits fuel) {c : Cursor}

include met

theorem object {rest : List Char} (begins : c.rest = '{' :: rest)
    (run : Reader.value (fuel + 1) c = .error (.integerTooLong digits)) :
    maxIntegerDigits < digits ∧ Meets digits .value c.rest := by
  obtain ⟨before, blanks, skipped⟩ := skipBlanks_sound ⟨c.offset + 1, rest⟩
  simp only [Reader.value, begins] at run skipped
  split at run
  · cases run
  · rcases Except.bind_eq_error.mp run with inside | ⟨_, _, same⟩
    · obtain ⟨many, meets⟩ := met.members _ inside
      rw [begins, skipped]
      exact ⟨many, .object blanks meets⟩
    · cases same

theorem array {rest : List Char} (begins : c.rest = '[' :: rest)
    (run : Reader.value (fuel + 1) c = .error (.integerTooLong digits)) :
    maxIntegerDigits < digits ∧ Meets digits .value c.rest := by
  obtain ⟨before, blanks, skipped⟩ := skipBlanks_sound ⟨c.offset + 1, rest⟩
  simp only [Reader.value, begins] at run skipped
  split at run
  · cases run
  · rcases Except.bind_eq_error.mp run with inside | ⟨_, _, same⟩
    · obtain ⟨many, meets⟩ := met.items _ inside
      rw [begins, skipped]
      exact ⟨many, .array blanks meets⟩
    · cases same

theorem value_succ (run : Reader.value (fuel + 1) c = .error (.integerTooLong digits)) :
    maxIntegerDigits < digits ∧ Meets digits .value c.rest := by
  have whole := run
  unfold Reader.value at run
  split at run
  · rcases Except.bind_eq_error.mp run with inside | ⟨_, _, same⟩
    · obtain ⟨_, _, same⟩ := string_error inside
      cases same
    · cases same
  · next begins => exact met.object begins whole
  · next begins => exact met.array begins whole
  · split at run
    · cases run
    · exact number_error run

theorem items_succ (run : Reader.items (fuel + 1) c = .error (.integerTooLong digits)) :
    maxIntegerDigits < digits ∧ Meets digits .items c.rest := by
  rcases Except.bind_eq_error.mp run with first | ⟨⟨v, afterItem⟩, first, run⟩
  · obtain ⟨many, meets⟩ := met.value _ first
    exact ⟨many, .item meets⟩
  obtain ⟨text, item, covers⟩ := (sound fuel).value _ _ _ first
  obtain ⟨after, behind, skipped⟩ := skipBlanks_sound afterItem
  simp only at run
  split at run
  · cases run
  · next rest comma =>
    rcases Except.bind_eq_error.mp run with later | ⟨_, _, same⟩
    · obtain ⟨before, ahead, skipped'⟩ := skipBlanks_sound ⟨(skipBlanks afterItem).offset + 1, rest⟩
      obtain ⟨many, meets⟩ := met.items _ later
      simp only at skipped'
      rw [covers, skipped, comma, skipped', ← List.append_assoc]
      exact ⟨many, .laterItem item behind ahead meets⟩
    · cases same
  · cases run

theorem members_succ (run : Reader.members (fuel + 1) c = .error (.integerTooLong digits)) :
    maxIntegerDigits < digits ∧ Meets digits .members c.rest := by
  unfold Reader.members at run
  split at run
  rotate_left
  · cases run
  next rest begins =>
  rcases Except.bind_eq_error.mp run with named | ⟨⟨name, afterName⟩, named, run⟩
  · obtain ⟨_, _, same⟩ := string_error named
    cases same
  obtain ⟨written, cs, content, rfl, covers⟩ := string_sound named
  obtain ⟨gap, blanks, skipped⟩ := skipBlanks_sound afterName
  simp only at run covers
  split at run
  rotate_left
  · cases run
  next rest' colon =>
  obtain ⟨before, ahead, skipped'⟩ := skipBlanks_sound ⟨(skipBlanks afterName).offset + 1, rest'⟩
  simp only at skipped'
  rcases Except.bind_eq_error.mp run with first | ⟨⟨v, afterMember⟩, first, run⟩
  · obtain ⟨many, meets⟩ := met.value _ first
    rw [begins, covers, skipped, colon, skipped']
    exact ⟨many, .member content blanks ahead meets⟩
  obtain ⟨text, member, covers'⟩ := (sound fuel).value _ _ _ first
  obtain ⟨after, behind, skipped''⟩ := skipBlanks_sound afterMember
  simp only at run
  split at run
  · cases run
  · next rest'' comma =>
    rcases Except.bind_eq_error.mp run with later | ⟨_, _, same⟩
    · obtain ⟨next, aheadNext, skippedNext⟩ :=
        skipBlanks_sound ⟨(skipBlanks afterMember).offset + 1, rest''⟩
      obtain ⟨many, meets⟩ := met.members _ later
      simp only at skippedNext
      have meets := Meets.laterMember content blanks ahead member behind aheadNext meets
      rw [begins, covers, skipped, colon, skipped', covers', skipped'', comma, skippedNext]
      exact ⟨many, by simpa using meets⟩
    · cases same
  · cases run

end Met

theorem met_of_error (digits fuel : Nat) : Met digits fuel := by
  induction fuel with
  | zero => constructor <;> simp [value, items, members, fail]
  | succ fuel met =>
    exact ⟨fun _ => met.value_succ, fun _ => met.items_succ, fun _ => met.members_succ⟩

theorem meets_begins {digits : Nat} {place : Place} {text : List Char} (meets : Meets digits place text) :
    ∃ c tail, text = c :: tail ∧ isBlank c = false ∧ c ≠ ']' ∧ c ≠ '}' ∧ c ≠ '\uFEFF' := by
  induction meets with
  | integer numeral =>
    obtain ⟨c, tail, rfl, first⟩ := begins_numeral numeral
    exact ⟨c, _, rfl, first⟩
  | item _ ih => exact ih
  | laterItem item =>
    obtain ⟨c, tail, rfl, first⟩ := begins item
    exact ⟨c, _, rfl, first⟩
  | _ => exact ⟨_, _, rfl, by decide⟩

theorem meets_unclosed {digits : Nat} {place : Place} {text : List Char} (meets : Meets digits place text)
    (after : List Char) : text ≠ ']' :: after ∧ text ≠ '}' :: after := by
  obtain ⟨c, tail, rfl, -, notBracket, notBrace, -⟩ := meets_begins meets
  exact ⟨fun same => notBracket (List.cons.inj same).1, fun same => notBrace (List.cons.inj same).1⟩

theorem skipBlanks_meets {digits : Nat} {place : Place} {before text : List Char} (blanks : Blanks before)
    (meets : Meets digits place text) (offset : Nat) :
    skipBlanks ⟨offset, before ++ text⟩ = ⟨offset + before.length, text⟩ := by
  obtain ⟨c, tail, rfl, notBlank, -⟩ := meets_begins meets
  exact skipBlanks_char blanks c notBlank offset _

/-- Reading stops at a place with an integer that is too long. The fuel is the one that reading the text as
a part of a value takes. -/
def Stops (digits : Nat) (text : List Char) : Place → Prop
  | .value => ∀ fuel offset, 2 * text.length ≤ fuel →
      value fuel ⟨offset, text⟩ = .error (.integerTooLong digits)
  | .items => ∀ fuel offset, 2 * text.length < fuel →
      items fuel ⟨offset, text⟩ = .error (.integerTooLong digits)
  | .members => ∀ fuel offset, 2 * text.length < fuel →
      members fuel ⟨offset, text⟩ = .error (.integerTooLong digits)

theorem stops_of_meets {digits : Nat} {place : Place} {text : List Char} (meets : Meets digits place text)
    (many : maxIntegerDigits < digits) : Stops digits text place := by
  induction meets with
  | @integer n text rest numeral plain count ends =>
    intro fuel offset enough
    obtain ⟨c, tail, rfl, -⟩ := begins_numeral numeral
    obtain ⟨fuel, rfl⟩ : ∃ k, fuel = k + 1 := Nat.exists_eq_add_one.mpr (by simp at enough; omega)
    rw [value_numeral numeral, number]
    simp only [Numeral.read?_whole numeral plain ends, plain, count, gt_iff_lt, many, if_true]
  | @array before rest blanks inside ih =>
    intro fuel offset enough
    simp only [List.length_cons, List.length_append] at enough
    obtain ⟨fuel, rfl⟩ : ∃ k, fuel = k + 1 := Nat.exists_eq_add_one.mpr (by omega)
    have stops := ih fuel (offset + 1 + before.length) (by omega)
    simp only [value, skipBlanks_meets blanks inside]
    split
    · exact absurd rfl (meets_unclosed inside _).1
    · simp only [stops, bind, Except.bind]
  | @object before rest blanks inside ih =>
    intro fuel offset enough
    simp only [List.length_cons, List.length_append] at enough
    obtain ⟨fuel, rfl⟩ : ∃ k, fuel = k + 1 := Nat.exists_eq_add_one.mpr (by omega)
    have stops := ih fuel (offset + 1 + before.length) (by omega)
    simp only [value, skipBlanks_meets blanks inside]
    split
    · exact absurd rfl (meets_unclosed inside _).2
    · simp only [stops, bind, Except.bind]
  | item first ih =>
    intro fuel offset enough
    obtain ⟨fuel, rfl⟩ : ∃ k, fuel = k + 1 := Nat.exists_eq_add_one.mpr (by omega)
    have stops := ih fuel offset (by omega)
    simp only [items, stops, bind, Except.bind]
  | @laterItem text after before rest v item behind ahead later ih =>
    intro fuel offset enough
    simp only [List.length_append, List.length_cons] at enough
    obtain ⟨fuel, rfl⟩ : ∃ k, fuel = k + 1 := Nat.exists_eq_add_one.mpr (by omega)
    obtain ⟨first, skipped⟩ := value_then_blanks (complete item) behind fuel (by omega)
      (',' :: (before ++ rest)) (by simp) offset
    have stops := fun offset => ih fuel offset (by omega)
    simp only [List.append_assoc, items, first, skipped, skipBlanks_meets ahead later, stops, bind,
      Except.bind]
  | @member name cs gap before rest content blanks ahead first ih =>
    intro fuel offset enough
    simp only [List.length_append, List.length_cons] at enough
    obtain ⟨fuel, rfl⟩ : ∃ k, fuel = k + 1 := Nat.exists_eq_add_one.mpr (by omega)
    have stops := fun offset => ih fuel offset (by omega)
    simp only [members, string_complete content, skipBlanks_char blanks ':' rfl,
      skipBlanks_meets ahead first, stops, bind, Except.bind]
  | @laterMember name cs gap before text after next rest v content blanks ahead member behind aheadNext
      later ih =>
    intro fuel offset enough
    simp only [List.length_append, List.length_cons] at enough
    obtain ⟨fuel, rfl⟩ : ∃ k, fuel = k + 1 := Nat.exists_eq_add_one.mpr (by omega)
    have first := value_then_blanks (complete member) behind fuel (by omega) (',' :: (next ++ rest)) (by simp)
    have stops := fun offset => ih fuel offset (by omega)
    simp only [List.append_assoc, members, string_complete content, skipBlanks_char blanks ':' rfl,
      skipBlanks_writes ahead member, first, skipBlanks_meets aheadNext later, stops, bind, Except.bind]

end Reader

/-- Reading a text fails at an integer that is too long exactly where the text has one that is met before
anything else that is wrong with it. -/
theorem read_eq_integerTooLong_iff {text : String} {digits : Nat} :
    read text = .error (.integerTooLong digits) ↔ LongInteger digits text.toList := by
  have start : Cursor.ofString text = ⟨0, text.toList⟩ := rfl
  simp only [read, start]
  constructor
  · intro run
    split at run
    · cases run
    · obtain ⟨before, blanks, skipped⟩ := Reader.skipBlanks_sound ⟨0, text.toList⟩
      rcases Except.bind_eq_error.mp run with inside | ⟨⟨v, cursor⟩, -, run⟩
      · obtain ⟨many, meets⟩ := (Reader.met_of_error digits _).value _ inside
        exact ⟨many, before, _, skipped, blanks, meets⟩
      · simp only at run
        split at run <;> cases run
  · rintro ⟨many, before, rest, covers, blanks, meets⟩
    obtain ⟨c, tail, begin, -, -, -, notMark⟩ := Reader.meets_begins meets
    rw [covers]
    split
    · next same =>
      rw [begin] at same
      exact absurd same (no_byteOrderMark blanks notMark _)
    · have stops := Reader.stops_of_meets meets many (2 * (before ++ rest).length + 1) (0 + before.length)
        (by simp; omega)
      simp only [Reader.skipBlanks_meets blanks meets, stops, bind, Except.bind]

end Value

end JsonPath
