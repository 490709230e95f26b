import JsonPath.Proofs.Evaluation.Recursion
import JsonPath.Proofs.Grammar.Depth
import JsonPath.Proofs.Grammar.Offending

namespace JsonPath

namespace Query

open Grammar

theorem ofTokens_ne_tooDeep (ts : List Token) (limit : Int) (offset : Nat) :
    ofTokens ts ≠ .error (.fault (.syntactic (.tooDeep limit offset))) := by
  intro failed
  rcases query_refused failed (Nat.le_refl _) with static | ⟨-, us, -, blamed, -⟩
  · exact static
  · cases us with
    | nil => simp [refusal] at blamed
    | cons u us =>
      rw [refusal] at blamed
      split at blamed <;> simp at blamed

section

variable {text : String} {ts : List Token} (scanned : Token.scan text.toList = .ok ts)

include scanned

theorem parse_eq_bind (limit : Int) :
    parse text limit = checkNesting limit 0 ts >>= fun _ => ofTokens ts := by
  simp only [parse, scanned]

theorem parse_eq_tooDeep_iff (limit : Nat) (stated : Int) (offset : Nat) :
    parse text limit = .error (.fault (.syntactic (.tooDeep stated offset))) ↔
      stated = limit ∧ ∃ t, Exceeds limit ts t ∧ t.offset = offset := by
  simp only [parse_eq_bind scanned, Except.bind_eq_error, ofTokens_ne_tooDeep, and_false, exists_false,
    or_false, checkNesting_eq_error_iff (Int.natCast_nonneg limit), exceeds_iff,
    ParseError.fault.injEq, ParseFault.syntactic.injEq, SyntaxFault.tooDeep.injEq]
  constructor
  · rintro ⟨t, exceeds, rfl, rfl⟩
    exact ⟨rfl, t, exceeds, rfl⟩
  · rintro ⟨rfl, t, exceeds, rfl⟩
    exact ⟨t, exceeds, rfl, rfl⟩

theorem depthWithin_of_parse_eq_ok {limit : Nat} {q : Query} (parsed : parse text limit = .ok q) :
    (Phrase.query q).DepthWithin (6 * (limit + 1)) := by
  rw [parse_eq_bind scanned, Except.bind_eq_ok] at parsed
  obtain ⟨_, checked, formed⟩ := parsed
  obtain ⟨t, tokens, meaning⟩ := (ofTokens_eq_ok_iff scanned).mp formed
  have within : NestsWithin limit t.tokens := by
    have whole := nestsWithin_iff.mp (checkNesting_eq_ok_iff_nestsWithin.mp checked)
    rw [← List.takeWhile_append_dropWhile (p := fun t : Token => t.kind ≠ .eof) (l := ts),
      nestsWithinFrom_append_iff] at whole
    rw [tokens]
    exact nestsWithin_iff.mpr whole.1
  have shallow : (Phrase.query q).DepthWithin (6 * limit + 1) := t.shallow within meaning
  exact shallow.mono (by omega)

end

/-- What the limit on nesting says of a text with the tokens `ts`. -/
structure LimitsNesting (text : String) (ts : List Token) : Prop where
  refused : ∀ (limit : Nat) (stated : Int) (offset : Nat),
    parse text limit = .error (.fault (.syntactic (.tooDeep stated offset))) ↔
      stated = limit ∧ ∃ t, Exceeds limit ts t ∧ t.offset = offset
  fronts : ∀ limit : Nat,
    (∃ stated offset, parse text limit = .error (.fault (.syntactic (.tooDeep stated offset)))) ↔
      ∃ front, front <+: ts ∧ limit < openCount front
  alike : ∀ limit limit' : Nat, (∀ front, front <+: ts → openCount front ≤ limit) →
    (∀ front, front <+: ts → openCount front ≤ limit') → parse text limit = parse text limit'
  depth : ∀ (limit : Nat) (q : Query), parse text limit = .ok q →
    (Phrase.query q).DepthWithin (6 * (limit + 1))
  recursion : ∀ (limit : Nat) (q : Query), parse text limit = .ok q →
    ∀ scope current p, Account.recursion.query scope q current p ≤ 12 * (limit + 1)

theorem parse_limitsNesting {text : String} {ts : List Token}
    (scanned : Token.scan text.toList = .ok ts) : LimitsNesting text ts where
  refused := parse_eq_tooDeep_iff scanned
  fronts limit := by
    have beyond : (∃ t, ExceedsFrom limit 0 ts t) ↔ ∃ front, front <+: ts ∧ limit < 0 + openCount front :=
      exists_exceedsFrom_iff (Int.natCast_nonneg limit)
    simp only [Int.zero_add] at beyond
    rw [← beyond]
    simp only [parse_eq_tooDeep_iff scanned, exceeds_iff]
    constructor
    · rintro ⟨stated, offset, -, t, exceeds, -⟩
      exact ⟨t, exceeds⟩
    · rintro ⟨t, exceeds⟩
      exact ⟨limit, t.offset, rfl, t, exceeds, rfl⟩
  alike limit limit' within within' := by
    rw [parse_eq_bind scanned, parse_eq_bind scanned,
      checkNesting_eq_ok_of_fronts (Int.natCast_nonneg limit) within,
      checkNesting_eq_ok_of_fronts (Int.natCast_nonneg limit') within']
  depth _ _ parsed := depthWithin_of_parse_eq_ok scanned parsed
  recursion limit q parsed scope current p := by
    have bound : Account.recursion.query scope q current p ≤ 2 * (6 * (limit + 1)) :=
      Account.recursion_query q (depthWithin_of_parse_eq_ok scanned parsed) current p
    omega

theorem parse_limitsNesting_nested :
    ∃ ts, Token.scan "$[?count(@.a[0])==1]".toList = .ok ts ∧
      LimitsNesting "$[?count(@.a[0])==1]" ts ∧ (∃ q, parse "$[?count(@.a[0])==1]" 3 = .ok q) ∧
      parse "$[?count(@.a[0])==1]" 2 = .error (.fault (.syntactic (.tooDeep 2 12))) := by
  have scanned : ∃ ts, Token.scan "$[?count(@.a[0])==1]".toList = .ok ts ∧
      checkNesting 2 0 ts = .error (.fault (.syntactic (.tooDeep 2 12))) := ⟨_, by rfl, by rfl⟩
  obtain ⟨ts, scanned, deep⟩ := scanned
  have accepted : (parse "$[?count(@.a[0])==1]" 3).toOption.isSome := by decide +kernel
  refine ⟨ts, scanned, parse_limitsNesting scanned, ?_, ?_⟩
  · cases formed : parse "$[?count(@.a[0])==1]" 3 with
    | error e => simp [formed, Except.toOption] at accepted
    | ok q => exact ⟨q, rfl⟩
  · simp only [parse, scanned]
    rw [deep]
    rfl

end Query

end JsonPath
