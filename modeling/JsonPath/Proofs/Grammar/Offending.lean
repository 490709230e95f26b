import JsonPath.Proofs.Grammar.Parse
import JsonPath.Proofs.Grammar.RefusedConditions
import JsonPath.Proofs.Token.Cover

namespace JsonPath

namespace Grammar

open Query.Parser

def InLanguage (ts : List Token) : Prop := ∃ t : Derivation .query, t.tokens = ts

theorem mayPrecede_eof {k : TokenKind} (ends : (k = .eof : Bool)) : Symbol.query.mayPrecede k := by
  simp [of_decide_eq_true ends, Symbol.mayPrecede, startsSegment]

theorem query_refused {fuel : Nat} {ts : List Token} {e : ParseError}
    (run : query fuel ts = .error e) (enough : ts.length ≤ fuel) :
    Static e ∨ Refused (· = .eof) .query ts e := by
  cases ts with
  | nil =>
    rw [query, unexpected_eq] at run
    obtain rfl := Except.error.inj run
    exact .inr ⟨[], [], rfl, rfl, viable_nil _, by simp⟩
  | cons t ts =>
    simp only [List.length_cons] at enough
    simp only [query] at run
    split at run
    · next kind =>
      let root : Mark .root := .of kind
      have start : Wraps [root.token] ts.head? (.query root) := by
        refine ⟨fun _ => rfl, fun u first t' rest more same => ?_⟩
        cases t'
        grind
      have part : Judged (· = .eof) .query (t :: ts) (segments (condition fuel) fuel ts) :=
        .inside _ rfl start (fun _ => mayPrecede_eof)
          (segments_judged (fun ts small => condition_judged fuel small) (by omega) (by omega))
      rcases read : segments (condition fuel) fuel ts with e' | ⟨ss, us⟩
      · rw [read] at run part
        obtain rfl := Except.error.inj run
        exact part
      · rw [read] at run part
        obtain ⟨t', same, stops⟩ := part
        cases us with
        | nil => cases run
        | cons u us =>
          simp only [bind, Except.bind] at run
          split at run
          · cases run
          · next notEnd =>
            rw [unexpected_eq] at run
            obtain rfl := Except.error.inj run
            refine .inr ⟨t'.tokens, u :: us, same, rfl, ⟨t', [], by simp⟩, ?_⟩
            rintro v member admits
            obtain rfl : u = v := by simpa using member
            exact notEnd (by simpa using stops.admits (fun _ => mayPrecede_eof) admits)
    · next noRoot =>
      rw [unexpected_eq] at run
      obtain rfl := Except.error.inj run
      refine .inr ⟨[], t :: ts, rfl, rfl, viable_nil _, ?_⟩
      rintro u member ⟨t', rest, more, first, same⟩
      cases t'
      grind

theorem Refused.cases {body : List Token} {last : Token} {e : ParseError}
    (inside : ∀ t ∈ body, t.kind ≠ .eof) (ends : last.kind = .eof)
    (refused : Refused (· = .eof) .query (body ++ [last]) e) :
    (∃ before t after, body = before ++ t :: after ∧
      e = .fault (.syntactic (.unexpected t.text t.offset)) ∧
      Viable .query before ∧ ¬ Viable .query (before ++ [t])) ∨
    e = .fault (.syntactic (.unexpectedEnd last.offset)) ∧ Viable .query body ∧
      ¬ InLanguage body := by
  obtain ⟨before, us, same, rfl, viable, never⟩ := refused
  have atEnd (whole : before = body) (left : us = [last]) :
      refusal us = .fault (.syntactic (.unexpectedEnd last.offset)) ∧ Viable .query body ∧
        ¬ InLanguage body := by
    subst whole left
    refine ⟨by simp [refusal, ends], viable, ?_⟩
    rintro ⟨t, rfl⟩
    exact never last (by simp) ⟨t, [last], [], by simp [ends], by simp⟩
  rcases List.append_eq_append_iff.mp same with ⟨front, reached, split⟩ | ⟨front, reached, split⟩
  · -- The end is no token of a derivation, so what comes before `us` is no more than the body.
    have outside : ∀ t ∈ front, t.kind ≠ .eof := by
      obtain ⟨t', more, tokens⟩ := viable
      exact fun t member => t'.ne_eof t (by simp [tokens, reached, member])
    cases front with
    | nil => exact .inr (atEnd (by simpa using reached) (by simpa using split.symm))
    | cons u front =>
      obtain rfl : last = u := (List.cons.inj split).1
      exact absurd ends (outside last (by simp))
  · cases front with
    | nil => exact .inr (atEnd (by simpa using reached.symm) (by simpa using split))
    | cons u front =>
      obtain rfl : us = u :: (front ++ [last]) := split
      have open' : u.kind ≠ .eof := inside u (by simp [reached])
      exact .inl ⟨before, u, front, reached, by simp [refusal, open'], viable,
        fun longer => never u (by simp) longer.admits⟩

end Grammar

namespace Query

open Grammar

/-- A syntax error on the tokens of a text has the place of the first token that cannot stand after
the tokens before it, or of the end where they are no query and more could follow. Tokens that are no
query are refused so, if no static check refuses them first. -/
structure BlamesFirst (text : List Char) (ts : List Token) (x : Except ParseError Query) : Prop where
  token : ∀ found offset, x = .error (.fault (.syntactic (.unexpected found offset))) →
    ∃ before t after, ts = before ++ t :: after ∧ t.text = found ∧ t.offset = offset ∧
      Viable .query before ∧ ¬ Viable .query (before ++ [t])
  ending : ∀ offset, x = .error (.fault (.syntactic (.unexpectedEnd offset))) →
    offset = text.length ∧ Viable .query ts ∧ ¬ InLanguage ts
  outside : ¬ InLanguage ts → (∃ e, x = .error e ∧ Static e) ∨
    (∃ found offset, x = .error (.fault (.syntactic (.unexpected found offset)))) ∨
    ∃ offset, x = .error (.fault (.syntactic (.unexpectedEnd offset)))

theorem parse_blamesFirst {text : String} {limit : Int} {ts : List Token}
    (scanned : Token.scan text.toList = .ok ts) (within : NestsWithin limit ts) :
    BlamesFirst text.toList (beforeEnd ts) (parse text limit) := by
  have shallow := checkNesting_eq_ok_iff_nestsWithin.mpr within
  have run : parse text limit = ofTokens ts := by
    simp [parse, scanned, shallow, bind, Except.bind]
  obtain ⟨body, last, same, inside, ends⟩ := Token.scan_eq_append scanned
  have end' : last.offset = text.toList.length := by
    have final := Token.scan_getLast? scanned
    rw [same, List.getLast?_concat] at final
    rw [Option.some.inj final]
  have front : beforeEnd ts = body := by rw [same, beforeEnd_append inside (by simp [ends])]
  have refused (e : ParseError) (failed : parse text limit = .error e) : Static e ∨ _ :=
    (query_refused (run ▸ failed) (Nat.le_refl _)).imp_right fun refused =>
      Refused.cases inside ends (same ▸ refused)
  rw [front]
  refine ⟨fun found offset failed => ?_, fun offset failed => ?_, fun outside => ?_⟩
  · rcases refused _ failed with static | ⟨before, t, after, split, error, viable, never⟩ | ⟨error, -⟩
    · contradiction
    · cases error
      exact ⟨before, t, after, split, rfl, rfl, viable, never⟩
    · cases error
  · rcases refused _ failed with static | ⟨before, t, after, -, error, -⟩ | ⟨error, viable, never⟩
    · contradiction
    · cases error
    · cases error
      exact ⟨end', viable, never⟩
  · rcases result : parse text limit with e | q
    · rcases refused e result with static | ⟨before, t, after, -, error, -⟩ | ⟨error, -⟩
      · exact .inl ⟨e, rfl, static⟩
      · exact .inr (.inl ⟨_, _, by rw [error]⟩)
      · exact .inr (.inr ⟨_, by rw [error]⟩)
    · obtain ⟨t, tokens, -⟩ := (ofTokens_eq_ok_iff scanned).mp (run ▸ result)
      exact absurd ⟨t, tokens.trans front⟩ outside

theorem parse_blamesFirst_chained :
    ∃ ts, Token.scan "$[?@.a==1==2]".toList = .ok ts ∧ NestsWithin 1 ts ∧
      BlamesFirst "$[?@.a==1==2]".toList (beforeEnd ts) (parse "$[?@.a==1==2]" 1) ∧
      parse "$[?@.a==1==2]" 1 = .error (.fault (.syntactic (.unexpected ['=', '='] 9))) := by
  have scanned : ∃ ts, Token.scan "$[?@.a==1==2]".toList = .ok ts ∧ checkNesting 1 0 ts = .ok () :=
    ⟨_, by rfl, by rfl⟩
  obtain ⟨ts, scanned, shallow⟩ := scanned
  have within := checkNesting_eq_ok_iff_nestsWithin.mp shallow
  let second : ParseError := .fault (.syntactic (.unexpected ['=', '='] 9))
  have refused : (match parse "$[?@.a==1==2]" 1 with
      | .error e => decide (e = second)
      | .ok _ => false) = true := by
    decide +kernel
  refine ⟨ts, scanned, within, parse_blamesFirst scanned within, ?_⟩
  cases parsed : parse "$[?@.a==1==2]" 1 with
  | error e => rw [show e = second by simpa [parsed] using refused]
  | ok q => simp [parsed] at refused

end Query

end JsonPath
