import JsonPath.Proofs.Number.Grammar
import JsonPath.Proofs.Outcome
import JsonPath.Proofs.Path.Scan

namespace JsonPath

def Lexeme.Covers {α : Type} (l : Lexeme α) (text : List Char) : Prop := text = l.text ++ l.rest

def Lexeme.Takes {α : Type} (l : Lexeme α) (text : List Char) : Prop := l.Covers text ∧ l.text ≠ []

theorem Lexeme.Covers.length {α : Type} {l : Lexeme α} {text : List Char} (covers : l.Covers text) :
    l.text.length + l.rest.length = text.length := by
  rw [covers, List.length_append]

namespace Token

namespace Scan

/-- A scan gives what satisfies `P`, or refuses at a place up to a limit. An integer of so many digits
is too long only where `long` admits it. -/
def Scanned {α : Type} (limit : Nat) (long : Nat → Prop) (P : α → Prop) : Except ScanError α → Prop
  | .ok a => P a
  | .error (.malformed _ place) => place ≤ limit
  | .error (.integerTooLong digits) => long digits

namespace Scanned

variable {α β : Type} {limit : Nat} {long : Nat → Prop} {P : α → Prop} {Q : β → Prop}
  {x : Except ScanError α}

theorem ok {a : α} (holds : P a) : Scanned limit long P (.ok a) := holds

theorem fail {cause : ScanCause} {place : Nat} (inside : place ≤ limit) :
    Scanned limit long P (Scan.fail cause place) := inside

theorem bind {f : α → Except ScanError β} (first : Scanned limit long P x)
    (next : ∀ a, P a → Scanned limit long Q (f a)) : Scanned limit long Q (x >>= f) := by
  cases x with
  | ok a => exact next a first
  | error e => cases e <;> exact first

theorem weaken {limit' : Nat} {long' : Nat → Prop} {P' : α → Prop} (scanned : Scanned limit long P x)
    (limits : limit ≤ limit') (longs : ∀ n, long n → long' n) (more : ∀ a, P a → P' a) :
    Scanned limit' long' P' x := by
  cases x with
  | ok a => exact more a scanned
  | error e =>
    cases e with
    | malformed cause place => exact Nat.le_trans scanned limits
    | integerTooLong digits => exact longs digits scanned

end Scanned

abbrev Never (_ : Nat) : Prop := False

theorem badHexOffset_le (offset : Nat) (text : List Char) :
    badHexOffset offset text ≤ offset + text.length := by
  have few : ((text.take 4).takeWhile fun c => (hexDigit? c).isSome).length ≤ (text.take 4).length :=
    (List.takeWhile_prefix _).length_le
  simp only [badHexOffset, List.length_take] at few ⊢
  omega

theorem Scanned.prepend {γ δ : Type} {offset place : Nat} {rest : List Char} {long : Nat → Prop}
    {x : Except ScanError (Lexeme γ)} (before : List Char) (value : γ → δ)
    (scanned : Scanned (place + rest.length) long (·.Covers rest) x)
    (moved : place = offset + before.length) :
    Scanned (offset + (before ++ rest).length) long (fun l : Lexeme δ => l.Covers (before ++ rest))
      (do
        let l ← x
        return ⟨value l.value, before ++ l.text, l.rest⟩) := by
  subst moved
  rw [Nat.add_assoc, ← List.length_append] at scanned
  refine scanned.bind fun l covers => .ok ?_
  simp only [Lexeme.Covers] at covers ⊢
  rw [covers, List.append_assoc]

theorem content_scanned (quote : Char) (offset : Nat) (text : List Char) :
    Scanned (offset + text.length) Never (·.Covers text) (content quote offset text) := by
  fun_induction content quote offset text
  case case5 unit _ _ _ e f g h rest low _ _ ih =>
    exact .prepend ['\\', 'u', _, _, _, _, '\\', 'u', e, f, g, h] _ ih rfl
  case case9 a b c d rest unit _ _ _ ih => exact .prepend ['\\', 'u', a, b, c, d] _ ih rfl
  case case13 c rest _ meaning _ ih => exact .prepend ['\\', c] _ ih rfl
  case case16 c rest _ _ _ _ _ ih => exact .prepend [c] _ ih rfl
  case case14 => exact .ok rfl
  case case1 => exact .fail (Nat.le_refl _)
  -- What is left are the refusals, each a few characters into the text.
  all_goals
    apply Scanned.fail
    first
    | simp only [List.length_cons]; omega
    | refine Nat.le_trans (badHexOffset_le _ _) ?_
      simp only [List.length_cons]
      omega

theorem operator_scanned (offset : Nat) (c : Char) (text : List Char) :
    Scanned (offset + (c :: text).length) Never (·.Takes (c :: text)) (operator offset c text) := by
  unfold operator
  split
  case h_10 =>
    split <;> exact .fail (by simp only [List.length_cons]; omega)
  all_goals exact .ok ⟨rfl, by simp⟩

theorem name_takes (c : Char) (text : List Char) : (name c text).Takes (c :: text) := by
  simp [name, Lexeme.Takes, Lexeme.Covers]

theorem shorthand_scanned (afterDescent : Bool) (offset : Nat) (text : List Char) :
    Scanned (offset + text.length) Never
      (fun r => text = r.1.flatMap (·.text) ++ r.2 ∧ ∀ t ∈ r.1, t.stop ≤ offset + text.length)
      (shorthand afterDescent offset text) := by
  cases text with
  | nil => exact .fail (Nat.le_refl _)
  | cons c rest =>
    rw [shorthand]
    split
    · next same => exact .ok (by simp [same, stop])
    · split
      · exact .ok (by simp)
      · split
        · have covers := (name_takes c rest).1
          have length := covers.length
          exact .ok ⟨by simpa [Lexeme.Covers] using covers, by
            simp only [List.mem_singleton, forall_eq, stop]
            omega⟩
        · split <;> exact .fail (by simp only [List.length_cons]; omega)

/-- A numeral in integer form with these whole digits stands in the text where a token begins. What is
in front of it are blanks and whole tokens. -/
inductive Integer (digits : List Char) : Nat → List Char → Prop
  | here {n : Numeral} {offset : Nat} {text rest : List Char} (writes : n.Writes text)
      (plain : n.isPlain) (whole : n.whole = digits) (ends : Numeral.Ends rest) :
      Integer digits offset (text ++ rest)
  | blank {offset : Nat} {c : Char} {rest : List Char} (isBlank : isBlank c)
      (later : Integer digits (offset + 1) rest) : Integer digits offset (c :: rest)
  | token {offset : Nat} {c : Char} {text rest : List Char} {ts : List Token}
      (notBlank : Scan.isBlank c = false) (first : step offset c text = .ok (ts, rest))
      (later : Integer digits (offset + (ts.flatMap (·.text)).length) rest) :
      Integer digits offset (c :: text)

def LongInteger (offset : Nat) (text : List Char) (digits : Nat) : Prop :=
  ∃ ds, Integer ds offset text ∧ ds.length = digits ∧ maxIntegerDigits < digits

theorem afterNumeral_scanned (n : Numeral) (offset : Nat) (rest : List Char) :
    Scanned (offset + rest.length) Never (fun _ => n.isPlain → Numeral.Ends rest)
      (afterNumeral n offset rest) := by
  cases rest with
  | nil => exact .ok fun _ => by simp [Numeral.Ends]
  | cons c rest =>
    rw [afterNumeral]
    split
    · exact .fail (by simp only [List.length_cons]; omega)
    · split
      · exact .fail (by simp only [List.length_cons]; omega)
      · split
        · obtain ⟨signed, -⟩ := Numeral.exponentSign_sound (Prod.eta (Numeral.exponentSign rest)).symm
          have length := congrArg List.length signed
          rw [List.length_append] at length
          exact .fail (by simp only [List.length_cons]; omega)
        · next notDigit notPoint notMark =>
          refine .ok fun plain d head => ?_
          cases head
          have noExponent : n.exponent.isNone := by simp_all [Numeral.isPlain]
          simp_all [Numeral.isDigit_eq]

theorem number_scanned {offset : Nat} {text : List Char} (nonempty : text ≠ []) :
    Scanned (offset + text.length) (LongInteger offset text) (·.Takes text) (number offset text) := by
  unfold number
  split
  · have positive := List.length_pos_iff.mpr nonempty
    exact .fail (by omega)
  · next l read =>
    obtain ⟨writes, covers⟩ := Numeral.read?_sound read
    have length := Lexeme.Covers.length covers
    refine ((afterNumeral_scanned l.value (offset + l.text.length) l.rest).weaken
      (by omega) (fun _ never => never.elim) fun _ ends => ends).bind fun _ ends => ?_
    unfold numberValue
    split
    · next plain =>
      have isPlain : l.value.isPlain := by simp_all
      split
      · next long =>
        refine ⟨l.value.whole, ?_, rfl, long⟩
        rw [covers]
        exact .here writes isPlain rfl (ends isPlain)
      · exact .ok ⟨covers, writes.ne_nil⟩
    · exact .ok ⟨covers, writes.ne_nil⟩

theorem lexeme_scanned (offset : Nat) (c : Char) (text : List Char) :
    Scanned (offset + (c :: text).length) (LongInteger offset (c :: text)) (·.Takes (c :: text))
      (lexeme offset c text) := by
  unfold lexeme
  split
  · exact .ok ⟨rfl, by simp⟩
  · split
    · have inside := content_scanned c (offset + 1) text
      have length : offset + 1 + text.length ≤ offset + (c :: text).length := by
        simp only [List.length_cons]
        omega
      refine (inside.weaken length (fun _ never => never.elim) fun _ covers => covers).bind fun l covers => ?_
      exact .ok ⟨congrArg (c :: ·) covers, by simp⟩
    · split
      · exact (number_scanned (by simp)).bind fun l takes => .ok takes
      · split
        · exact .ok (name_takes c text)
        · exact (operator_scanned offset c text).weaken (Nat.le_refl _) (fun _ never => never.elim)
            fun _ takes => takes

/-- Tokens cover the front of a text and get on, and none of them reaches beyond a limit. -/
structure Consumes (limit : Nat) (text : List Char) (ts : List Token) (rest : List Char) : Prop where
  covers : text = ts.flatMap (·.text) ++ rest
  moves : ts.flatMap (·.text) ≠ []
  inside : ∀ t ∈ ts, t.stop ≤ limit

theorem dotted_scanned {offset : Nat} {kind : TokenKind} (dots : List Char) {rest : List Char}
    (afterDescent : Bool) (nonempty : dots ≠ []) :
    Scanned (offset + (dots ++ rest).length) Never
      (fun r => Consumes (offset + (dots ++ rest).length) (dots ++ rest) r.1 r.2)
      (do
        let (ts, rest) ← shorthand afterDescent (offset + dots.length) rest
        return (⟨kind, offset, dots⟩ :: ts, rest)) := by
  have following := shorthand_scanned afterDescent (offset + dots.length) rest
  rw [Nat.add_assoc, ← List.length_append] at following
  refine following.bind fun ⟨ts, after⟩ ⟨covers, inside⟩ => .ok ⟨?_, ?_, ?_⟩
  · simp only at covers
    rw [covers, List.flatMap_cons, List.append_assoc]
  · simp [nonempty]
  · have first : (⟨kind, offset, dots⟩ : Token).stop ≤ offset + (dots ++ rest).length := by
      simp [stop]
    exact List.forall_mem_cons.mpr ⟨first, inside⟩

theorem step_scanned (offset : Nat) (c : Char) (text : List Char) :
    Scanned (offset + (c :: text).length) (LongInteger offset (c :: text))
      (fun r => Consumes (offset + (c :: text).length) (c :: text) r.1 r.2) (step offset c text) := by
  unfold step
  split
  · next isDot =>
    subst isDot
    split
    · exact (dotted_scanned ['.', '.'] true (by simp)).weaken (Nat.le_refl _) (fun _ never => never.elim)
        fun _ consumes => consumes
    · exact (dotted_scanned ['.'] false (by simp)).weaken (Nat.le_refl _) (fun _ never => never.elim)
        fun _ consumes => consumes
  · refine (lexeme_scanned offset c text).bind fun l ⟨covers, moves⟩ => .ok ⟨?_, ?_, ?_⟩
    · simpa [Lexeme.Covers] using covers
    · simpa using moves
    · have length := covers.length
      simp only [List.mem_singleton, forall_eq, stop]
      omega

theorem step_shortens {offset : Nat} {c : Char} {text rest : List Char} {ts : List Token}
    (first : step offset c text = .ok (ts, rest)) : rest.length ≤ text.length := by
  have stepped := step_scanned offset c text
  rw [first] at stepped
  have taken := congrArg List.length stepped.covers
  have moves := List.length_pos_iff.mpr stepped.moves
  simp only [List.length_append, List.length_cons] at taken moves
  omega

theorem scanFrom_scanned (fuel offset : Nat) (text : List Char) :
    Scanned (offset + text.length) (LongInteger offset text)
      (fun ts => ∀ t ∈ ts, t.stop ≤ offset + text.length) (scanFrom fuel offset text) := by
  induction fuel generalizing offset text with
  | zero =>
    cases text <;> exact .ok (by simp [stop])
  | succ fuel ih =>
    cases text with
    | nil => exact .ok (by simp [stop])
    | cons c text =>
      rw [scanFrom]
      split
      · next blank =>
        refine (ih (offset + 1) text).weaken ?_ ?_ ?_
        · simp only [List.length_cons]
          omega
        · rintro n ⟨ds, later, many⟩
          exact ⟨ds, .blank blank later, many⟩
        · intro ts inside t member
          have bound := inside t member
          simp only [List.length_cons]
          omega
      · next notBlank =>
        have stepped := step_scanned offset c text
        rcases first : step offset c text with e | ⟨ts, rest⟩
        · rw [first] at stepped
          cases e <;> exact stepped
        · rw [first] at stepped
          have taken := congrArg List.length stepped.covers
          rw [List.length_append] at taken
          simp only at taken
          have following : Scanned (offset + (c :: text).length) (LongInteger offset (c :: text))
              (fun more => ∀ t ∈ more, t.stop ≤ offset + (c :: text).length)
              (scanFrom fuel (offset + (ts.flatMap (·.text)).length) rest) := by
            refine (ih (offset + (ts.flatMap (·.text)).length) rest).weaken (by omega) ?_ ?_
            · rintro n ⟨ds, later, many⟩
              exact ⟨ds, .token (by simpa using notBlank) first later, many⟩
            · intro more inside t member
              have bound := inside t member
              omega
          refine following.bind fun more inside => ?_
          refine .ok fun t member => ?_
          rcases List.mem_append.mp member with member | member
          · exact stepped.inside t member
          · exact inside t member

theorem scanFrom_getLast? {fuel offset : Nat} {text : List Char} {ts : List Token}
    (run : scanFrom fuel offset text = .ok ts) (enough : text.length ≤ fuel) :
    ts.getLast? = some ⟨.eof, offset + text.length, []⟩ := by
  induction fuel generalizing offset text ts with
  | zero =>
    obtain rfl : text = [] := List.length_eq_zero_iff.mp (by omega)
    cases run
    rfl
  | succ fuel ih =>
    cases text with
    | nil =>
      cases run
      rfl
    | cons c text =>
      simp only [List.length_cons] at enough ⊢
      simp only [scanFrom] at run
      split at run
      · rw [ih run (by omega), Nat.add_assoc, Nat.add_comm 1]
      · simp only [Except.bind_eq_ok] at run
        obtain ⟨⟨us, rest⟩, first, more, after, run⟩ := run
        cases run
        have stepped := step_scanned offset c text
        rw [first] at stepped
        have taken := congrArg List.length stepped.covers
        have moves := List.length_pos_iff.mpr stepped.moves
        simp only [List.length_append, List.length_cons] at taken moves
        have shorter : rest.length ≤ fuel := by omega
        rw [List.getLast?_append, ih after shorter, Option.some_or, taken, Nat.add_assoc]

theorem scanFrom_of_integer {ds : List Char} (long : maxIntegerDigits < ds.length) {fuel offset : Nat}
    {text : List Char} (integer : Integer ds offset text) (enough : text.length ≤ fuel) :
    scanFrom fuel offset text = .error (.integerTooLong ds.length) := by
  induction integer generalizing fuel with
  | @here n offset text rest writes plain whole ends =>
    obtain ⟨c, text, cons, begins⟩ := writes.first
    obtain ⟨notBlank, notDot, run⟩ := lexeme_number begins offset (text ++ rest)
    rw [cons, List.cons_append] at enough ⊢
    obtain ⟨fuel, rfl⟩ : ∃ k, fuel = k + 1 := ⟨fuel - 1, by simp only [List.length_cons] at enough; omega⟩
    have read : Numeral.read? (c :: (text ++ rest)) = some ⟨n, c :: text, rest⟩ := by
      rw [← List.cons_append, ← cons]
      exact Numeral.read?_complete writes ends
    have value : numberValue n = .error (.integerTooLong ds.length) := by
      have notMinusZero : n.isMinusZero = false := by
        have manyDigits : n.whole ≠ ['0'] := by
          rintro same
          simp [← whole, same, maxIntegerDigits] at long
        simp [Numeral.isMinusZero, manyDigits]
      simp [numberValue, plain, notMinusZero, whole, long]
    simp [scanFrom, notBlank, step, notDot, run, number, read, afterNumeral_of_ends ends, value, bind,
      Except.bind]
  | @blank offset c rest blank later ih =>
    obtain ⟨fuel, rfl⟩ : ∃ k, fuel = k + 1 := ⟨fuel - 1, by simp only [List.length_cons] at enough; omega⟩
    rw [scanFrom, if_pos blank]
    exact ih (by simpa using enough)
  | @token offset c text rest ts notBlank first later ih =>
    obtain ⟨fuel, rfl⟩ : ∃ k, fuel = k + 1 := ⟨fuel - 1, by simp only [List.length_cons] at enough; omega⟩
    have shorter := Nat.le_trans (step_shortens first) (Nat.le_of_succ_le_succ enough)
    have after : scanFrom fuel _ rest = _ := ih shorter
    simp only [scanFrom, notBlank, first, bind, Except.bind, after]
    rfl

end Scan

theorem scan_eq_integerTooLong_iff {text : List Char} {digits : Nat} :
    scan text = .error (.integerTooLong digits) ↔ Scan.LongInteger 0 text digits := by
  constructor
  · intro run
    have scanned := Scan.scanFrom_scanned text.length 0 text
    rw [scan] at run
    rwa [run] at scanned
  · rintro ⟨ds, integer, rfl, long⟩
    exact Scan.scanFrom_of_integer long integer (Nat.le_refl _)

theorem scan_getLast? {text : List Char} {ts : List Token} (scanned : scan text = .ok ts) :
    ts.getLast? = some ⟨.eof, text.length, []⟩ := by
  have last := Scan.scanFrom_getLast? scanned (Nat.le_refl _)
  rwa [Nat.zero_add] at last

theorem scan_scanned (text : List Char) :
    Scan.Scanned text.length (Scan.LongInteger 0 text) (fun ts => ∀ t ∈ ts, t.stop ≤ text.length)
      (scan text) := by
  rw [scan]
  simpa using Scan.scanFrom_scanned text.length 0 text

end Token

end JsonPath
