import JsonPath.Proofs.Session.Answer

namespace JsonPath

open Token.Scan (LongInteger)

theorem Query.ofText_eq_error_iff {text : String} {limit : Int} {failure : Failure} :
    ofText text limit = .error failure ↔
      (∃ fault, parse text limit = .error (.fault fault) ∧ failure = .query ⟨.parse fault, some text⟩) ∨
      ∃ digits, failure = .integerTooLong digits ∧ LongInteger 0 text.toList digits := by
  have long (digits : Nat) : LongInteger 0 text.toList digits ↔
      parse text limit = .error (.integerTooLong digits) := parse_eq_integerTooLong_iff.symm
  simp only [long, ofText]
  rcases parse text limit with e | q
  · cases e <;> simp [Except.mapError, Failure.ofParse, eq_comm]
  · simp [Except.mapError]

theorem Query.ofText_eq_ok_iff {text : String} {limit : Int} {q : Query} :
    ofText text limit = .ok q ↔ parse text limit = .ok q := by
  unfold ofText
  rcases parse text limit with e | q <;> simp [Except.mapError]

namespace Compiled

theorem nodes_eq_error {c : Compiled} {document : Value} {failure : Failure}
    (failed : c.nodes document = .error failure) :
    ∃ e p, c.query.evaluate document c.options = .error e p ∧ failure = .ofEval c.text e := by
  unfold nodes at failed
  split at failed
  · contradiction
  · next e p run =>
    cases failed
    exact ⟨e, p, run, rfl⟩

variable {text : String} {limit : Int} {q : Query} (parsed : Query.parse text limit = .ok q)
  (options : Options) (text? : Option String) (document : Value)

include parsed

theorem evaluation_finishes {allowed : EvalError → Prop} (admits : Eval.AdmitsStops allowed options)
    {e : EvalError} {p : Progress} (run : q.evaluate document options = .error e p) : allowed e := by
  obtain ⟨t, meaning⟩ := Query.derivation_of_parse_eq_ok parsed
  have typed : (Phrase.query q).WellTyped := t.typed meaning
  have finishes := Eval.query_finishes ⟨document, options⟩ admits q typed (.root document)
  exact finishes.of_error run

theorem nodes_error {failure : Failure}
    (failed : nodes ⟨q, options, text?⟩ document = .error failure) :
    (∃ e, failure = .query e) ∨ ∃ digits, failure = .integerTooLong digits := by
  obtain ⟨e, p, run, rfl⟩ := nodes_eq_error failed
  rcases evaluation_finishes parsed options document (Eval.admitsStops_excessiveOrLong options) run with ⟨x, rfl⟩ | ⟨digits, rfl⟩
  · exact .inl ⟨_, rfl⟩
  · exact .inr ⟨digits, rfl⟩

theorem nodes_error_of_short (short : options.maxPatternLength ≤ maxIntegerDigits) {failure : Failure}
    (failed : nodes ⟨q, options, text?⟩ document = .error failure) :
    ∃ x, failure = .query ⟨.excess x, text?⟩ := by
  obtain ⟨e, p, run, rfl⟩ := nodes_eq_error failed
  obtain ⟨x, rfl⟩ := evaluation_finishes parsed options document (Eval.admitsStops_excessive short) run
  exact ⟨x, rfl⟩

end Compiled

namespace Session

/-- An answer is a failure exactly where the text has an integer that is too long. -/
def FailsForLongInteger {α : Type} (text : String) (answer : Except Failure α) : Prop :=
  ∀ failure, answer = .error failure ↔
    ∃ digits, failure = .integerTooLong digits ∧ LongInteger 0 text.toList digits

section

variable {α β : Type}

theorem settle_false_eq_error_iff {x : Except Failure α} {failure : Failure} :
    settle false x = .error failure ↔ x = .error failure ∧ ∀ e, failure ≠ .query e := by
  rcases x with f | a
  · cases f <;> simp [settle] <;> rintro rfl <;> simp
  · simp [settle]

theorem map_eq_error_iff {x : Except Failure α} {f : α → β} {failure : Failure} :
    x.map f = .error failure ↔ x = .error failure := by
  cases x <;> simp [Except.map]

theorem FailsForLongInteger.map {text : String} {x : Except Failure α} (fails : FailsForLongInteger text x)
    (f : α → β) : FailsForLongInteger text (x.map f) := fun failure => by
  rw [map_eq_error_iff, fails failure]

end

theorem settle_ofText_fails (text : String) (limit : Int) :
    FailsForLongInteger text (settle false (Query.ofText text limit)) := by
  intro failure
  rw [settle_false_eq_error_iff, Query.ofText_eq_error_iff]
  constructor
  · rintro ⟨⟨fault, -, rfl⟩ | long, other⟩
    · exact absurd rfl (other _)
    · exact long
  · rintro ⟨digits, rfl, long⟩
    exact ⟨.inr ⟨digits, rfl, long⟩, by simp⟩

section

variable (text : String) (options : Option Options) (document : Value) (log : List LogEntry)

theorem isValidQuery_fails : FailsForLongInteger text (answer (isValidQuery text options) log) := by
  rw [answer_isValidQuery]
  exact (settle_ofText_fails _ _).map _

theorem parseQuery_fails :
    FailsForLongInteger text (answer (parseQuery text options (some false)) log) := by
  rw [answer_parseQuery]
  exact settle_ofText_fails _ _

theorem compileQuery_fails :
    FailsForLongInteger text (answer (compileQuery (.text text) options (some false)) log) := by
  rw [answer_compileQuery]
  intro failure
  have parsed := settle_ofText_fails text (resolve options (some false)).maxExpressionDepth failure
  rw [settle_false_eq_error_iff] at parsed
  rw [← parsed]
  exact settle_false_eq_error_iff.trans (and_congr_left' map_eq_error_iff)

theorem queryNodes_eq_error_iff {failure : Failure} :
    answer (queryNodes document (.text text) options (some false)) log = .error failure ↔
      (∃ digits, failure = .integerTooLong digits ∧ LongInteger 0 text.toList digits) ∨
      ∃ q, Query.parse text (resolve options (some false)).maxExpressionDepth = .ok q ∧
        settle false (Compiled.nodes ⟨q, resolve options (some false), some text⟩ document) =
          .error failure := by
  rw [answer_queryNodes]
  have parsed := settle_ofText_fails text (resolve options (some false)).maxExpressionDepth failure
  rw [← parsed]
  simp only [← Query.ofText_eq_ok_iff]
  have tolerant : (resolve options (some false)).strict = false := rfl
  rcases Query.ofText text (resolve options (some false)).maxExpressionDepth with f | q
  · rw [tolerant]
    cases f <;> simp [settle]
  · simp [settle, tolerant]

theorem queryNodes_fails (short : (options.getD {}).maxPatternLength ≤ maxIntegerDigits) :
    FailsForLongInteger text (answer (queryNodes document (.text text) options (some false)) log) := by
  intro failure
  rw [queryNodes_eq_error_iff]
  -- The patterns are too short for an integer that is too long, so an evaluation only goes beyond limits,
  -- and those failures are tolerated.
  refine or_iff_left ?_
  rintro ⟨q, parsed, failed⟩
  obtain ⟨failed, other⟩ := settle_false_eq_error_iff.mp failed
  obtain ⟨x, rfl⟩ :=
    Compiled.nodes_error_of_short parsed (resolve options (some false)) _ document short failed
  exact other _ rfl

theorem queryNodes_error {failure : Failure}
    (failed : answer (queryNodes document (.text text) options (some false)) log = .error failure) :
    ∃ digits, failure = .integerTooLong digits := by
  rcases (queryNodes_eq_error_iff text options document log).mp failed with
    ⟨digits, same, -⟩ | ⟨q, parsed, failed⟩
  · exact ⟨digits, same⟩
  · obtain ⟨failed, other⟩ := settle_false_eq_error_iff.mp failed
    rcases Compiled.nodes_error parsed _ _ document failed with ⟨e, rfl⟩ | long
    · exact absurd rfl (other e)
    · exact long

end

theorem longInteger_index {n : Nat} (many : maxIntegerDigits < n) :
    LongInteger 0 ('$' :: '[' :: (List.replicate n '1' ++ [']'])) n := by
  have whole : Numeral.IsWhole (List.replicate n '1') := by
    obtain ⟨k, rfl⟩ : ∃ k, n = k + 1 := ⟨n - 1, by omega⟩
    refine .inr ⟨by simp, by simp [List.replicate_succ], fun d member => ?_⟩
    rw [List.eq_of_mem_replicate member]
    decide
  have writes : Numeral.Writes ⟨false, List.replicate n '1', [], none⟩ (List.replicate n '1') := by
    have written : Numeral.Writes ⟨false, List.replicate n '1', [], none⟩ _ :=
      .parts whole .absent .absent
    simpa [Numeral.signText] using written
  have index : Token.Scan.Integer (List.replicate n '1') 2 (List.replicate n '1' ++ [']']) :=
    .here writes rfl rfl (by simp [Numeral.Ends, Numeral.isDigit])
  have opens : Token.Scan.step 1 '[' (List.replicate n '1' ++ [']']) =
      .ok ([⟨.lbracket, 1, ['[']⟩], List.replicate n '1' ++ [']']) := rfl
  have bracket : Token.Scan.Integer (List.replicate n '1') 1 ('[' :: (List.replicate n '1' ++ [']'])) :=
    .token (by decide) opens index
  have begins : Token.Scan.step 0 '$' ('[' :: (List.replicate n '1' ++ [']'])) =
      .ok ([⟨.root, 0, ['$']⟩], '[' :: (List.replicate n '1' ++ [']'])) := rfl
  have root : Token.Scan.Integer (List.replicate n '1') 0
      ('$' :: '[' :: (List.replicate n '1' ++ [']'])) :=
    .token (by decide) begins bracket
  exact ⟨_, root, List.length_replicate, many⟩

end Session

end JsonPath
