import JsonPath.Proofs.Outcome
import JsonPath.Token.Scan

namespace JsonPath

namespace Token

namespace Scan

def Open (ts : List Token) : Prop := ∀ t ∈ ts, t.kind ≠ .eof

@[simp]
theorem fail_ne_ok {α : Type} (cause : ScanCause) (offset : Nat) (a : α) :
    fail cause offset ≠ .ok a := by
  simp [fail]

def isApart : TokenKind → Bool
  | .eof | .dot | .dotdot | .number _ => true
  | _ => false

theorem keyword_notApart (name : String) : isApart (keyword name) = false := by
  unfold keyword
  repeat' split
  all_goals rfl

theorem single?_notApart {c : Char} {kind : TokenKind} (single : single? c = some kind) :
    isApart kind = false := by
  unfold single? at single
  split at single <;> simp_all <;> simp [← single, isApart]

theorem operator_notApart {offset : Nat} {c : Char} {text : List Char} {l : Lexeme TokenKind}
    (run : operator offset c text = .ok l) : isApart l.value = false := by
  unfold operator at run
  split at run
  case h_10 =>
    split at run <;> simp at run
  all_goals
    cases run
    rfl

theorem lexeme_apart {offset : Nat} {c : Char} {text : List Char} {l : Lexeme TokenKind}
    (run : lexeme offset c text = .ok l) (apart : isApart l.value) :
    (∃ v, l.value = .number v) ∧ (c = '-' ∨ c.isDigit) := by
  unfold lexeme at run
  split at run
  · next kind single =>
    cases run
    simp [single?_notApart single] at apart
  · split at run
    · simp only [Except.bind_eq_ok] at run
      obtain ⟨inside, -, run⟩ := run
      cases run
      simp [isApart] at apart
    · split at run
      · next begins =>
        simp only [Except.bind_eq_ok] at run
        obtain ⟨number, -, run⟩ := run
        cases run
        exact ⟨⟨_, rfl⟩, begins⟩
      · split at run
        · cases run
          simp [keyword_notApart] at apart
        · simp [operator_notApart run] at apart

theorem step_of_ne_dot {c : Char} (notDot : c ≠ '.') (offset : Nat) (text : List Char) :
    step offset c text = (do
      let l ← lexeme offset c text
      return ([⟨l.value, offset, l.text⟩], l.rest)) := by
  unfold step
  rw [if_neg notDot]

theorem lexeme_ne_eof {offset : Nat} {c : Char} {text : List Char} {l : Lexeme TokenKind}
    (run : lexeme offset c text = .ok l) : l.value ≠ .eof := by
  intro ends
  obtain ⟨⟨v, number⟩, -⟩ := lexeme_apart run (by simp [ends, isApart])
  simp [ends] at number

theorem shorthand_notApart {afterDescent : Bool} {offset : Nat} {text rest : List Char} {ts : List Token}
    (run : shorthand afterDescent offset text = .ok (ts, rest)) : ∀ t ∈ ts, isApart t.kind = false := by
  cases text with
  | nil => simp [shorthand] at run
  | cons c text =>
    simp only [shorthand] at run
    repeat' split at run
    all_goals
      cases run
      try simp [isApart]

theorem step_open {offset : Nat} {c : Char} {text rest : List Char} {ts : List Token}
    (run : step offset c text = .ok (ts, rest)) : Open ts := by
  unfold step at run
  split at run
  · split at run
    all_goals
      simp only [Except.bind_eq_ok] at run
      obtain ⟨⟨us, after⟩, shorthand, run⟩ := run
      cases run
      refine List.forall_mem_cons.mpr ⟨by simp, fun t member ends => ?_⟩
      have following := shorthand_notApart shorthand t member
      simp [ends, isApart] at following
  · simp only [Except.bind_eq_ok] at run
    obtain ⟨l, first, run⟩ := run
    cases run
    simpa [Open] using lexeme_ne_eof first

theorem scanFrom_forall {P : Token → Prop} (ending : ∀ offset, P ⟨.eof, offset, []⟩)
    (stepped : ∀ {offset c text rest ts}, step offset c text = .ok (ts, rest) → ∀ t ∈ ts, P t)
    {fuel offset : Nat} {text : List Char} {ts : List Token} (run : scanFrom fuel offset text = .ok ts) :
    ∀ t ∈ ts, P t := by
  induction fuel generalizing offset text ts with
  | zero => cases text <;> cases run <;> simpa using ending offset
  | succ fuel ih =>
    cases text with
    | nil =>
      cases run
      simpa using ending offset
    | cons c text =>
      simp only [scanFrom] at run
      split at run
      · exact ih run
      · simp only [Except.bind_eq_ok] at run
        obtain ⟨⟨us, rest⟩, first, more, after, run⟩ := run
        cases run
        exact List.forall_mem_append.mpr ⟨stepped first, ih after⟩

theorem scanFrom_eq_append {fuel offset : Nat} {text : List Char} {ts : List Token}
    (run : scanFrom fuel offset text = .ok ts) :
    ∃ (body : List Token) (last : Token), ts = body ++ [last] ∧ Open body ∧ last.kind = .eof := by
  induction fuel generalizing offset text ts with
  | zero =>
    cases text <;> cases run <;> exact ⟨[], _, rfl, by simp [Open], rfl⟩
  | succ fuel ih =>
    cases text with
    | nil =>
      cases run
      exact ⟨[], _, rfl, by simp [Open], rfl⟩
    | cons c text =>
      simp only [scanFrom] at run
      split at run
      · exact ih run
      · simp only [Except.bind_eq_ok] at run
        obtain ⟨⟨us, rest⟩, first, more, after, run⟩ := run
        cases run
        obtain ⟨body, last, rfl, inside, ends⟩ := ih after
        refine ⟨us ++ body, last, by simp, ?_, ends⟩
        intro t member
        rcases List.mem_append.mp member with member | member
        · exact step_open first t member
        · exact inside t member

end Scan

theorem scan_eq_append {text : List Char} {ts : List Token} (scanned : scan text = .ok ts) :
    ∃ (body : List Token) (last : Token),
      ts = body ++ [last] ∧ (∀ t ∈ body, t.kind ≠ .eof) ∧ last.kind = .eof :=
  Scan.scanFrom_eq_append scanned

end Token

end JsonPath
