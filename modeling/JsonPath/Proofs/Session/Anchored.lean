import JsonPath.Proofs.Session.Tolerance

namespace JsonPath

open Token.Scan (LongInteger)

/-- An error names the text of its query. A fault of the text is introduced as such and has a place in it,
its end included. Only a call that returns a value and is used as a test has none. -/
structure QueryError.Anchored (text : String) (e : QueryError) : Prop where
  named : e.query = some text
  introduced : ∀ fault, e.fault = .parse fault → ∃ rest, e.message = "Invalid JSONPath query: " ++ rest
  inside : ∀ place ∈ e.offset?, place ≤ text.length
  placeless : ∀ fault, e.fault = .parse fault → e.offset? = none →
    ∃ f : Function, fault = .typing (.valueAsTest f) ∧ f.result = .value
  placed : ∀ fault, e.fault = .parse fault → (∀ typeFault, fault ≠ .typing typeFault) → e.offset?.isSome

theorem ParseFault.message_introduced (fault : ParseFault) :
    ∃ rest, fault.message = "Invalid JSONPath query: " ++ rest := by
  unfold message
  exact ⟨_, String.append_assoc⟩

namespace QueryError

theorem anchored_parse {text : String} {fault : ParseFault} (placed : fault.Placed text.length) :
    Anchored text ⟨.parse fault, some text⟩ where
  named := rfl
  introduced _ _ := fault.message_introduced
  inside place member := by
    rw [ParseFault.Placed, show fault.offset? = some place from member] at placed
    exact placed
  placeless other same noPlace := by
    obtain rfl : fault = other := Fault.parse.inj same
    rwa [ParseFault.Placed, show fault.offset? = none from noPlace] at placed
  placed other same notTyping := by
    obtain rfl : fault = other := Fault.parse.inj same
    cases fault with
    | scan cause place => rfl
    | syntactic fault => rfl
    | typing fault => exact absurd rfl (notTyping fault)

theorem anchored_excess (text : String) (x : Excess) : Anchored text ⟨.excess x, some text⟩ where
  named := rfl
  introduced _ same := nomatch same
  inside _ member := nomatch member
  placeless _ same := nomatch same
  placed _ same := nomatch same

end QueryError

theorem Query.ofText_outcome {text : String} (short : ∀ digits, ¬ LongInteger 0 text.toList digits)
    (limit : Int) : (∃ q, ofText text limit = .ok q) ∨
      ∃ e, ofText text limit = .error (.query e) ∧ e.Anchored text := by
  rcases parse_outcome text limit with ⟨q, run⟩ | ⟨fault, run, placed⟩ | ⟨digits, -, long⟩
  · exact .inl ⟨q, ofText_eq_ok_iff.mpr run⟩
  · refine .inr ⟨_, ofText_eq_error_iff.mpr (.inl ⟨fault, run, rfl⟩), ?_⟩
    exact QueryError.anchored_parse (by rwa [String.length_toList] at placed)
  · exact absurd long (short digits)

/-- What was parsed selects nodes, or goes beyond a limit, or meets a pattern with an integer that is too
long, which is longer still. -/
theorem Compiled.nodes_outcome {text : String} {limit : Int} {q : Query}
    (parsed : Query.parse text limit = .ok q) (options : Options) (document : Value) :
    (∃ ns, nodes ⟨q, options, some text⟩ document = .ok ns) ∨
    (∃ e, nodes ⟨q, options, some text⟩ document = .error (.query e) ∧ e.Anchored text) ∨
    ∃ digits, nodes ⟨q, options, some text⟩ document = .error (.integerTooLong digits) ∧
      maxIntegerDigits < options.maxPatternLength := by
  rcases run : nodes ⟨q, options, some text⟩ document with failure | ns
  · by_cases few : options.maxPatternLength ≤ maxIntegerDigits
    · obtain ⟨x, rfl⟩ := nodes_error_of_short parsed options (some text) document few run
      exact .inr (.inl ⟨_, rfl, QueryError.anchored_excess text x⟩)
    · obtain ⟨e, p, stopped, rfl⟩ := nodes_eq_error run
      rcases evaluation_finishes parsed options document (Eval.admitsStops_excessiveOrLong options) stopped with ⟨x, rfl⟩ | ⟨digits, rfl⟩
      · exact .inr (.inl ⟨_, rfl, QueryError.anchored_excess text x⟩)
      · exact .inr (.inr ⟨digits, rfl, by omega⟩)
  · exact .inl ⟨ns, rfl⟩

namespace Session

inductive Reports {α : Type} (text : String) : Except Failure (Option α) → Prop
  | result (a : α) : Reports text (.ok (some a))
  | error {e : QueryError} (anchored : e.Anchored text) : Reports text (.error (.query e))

/-- What strict calls of the entry points report of a text. -/
structure ErrorsAnchored (text : String) (options : Option Options) (strict? : Option Bool)
    (document : Value) (log : List LogEntry) : Prop where
  parse : Reports text (answer (parseQuery text options strict?) log)
  compile : Reports text (answer (compileQuery (.text text) options strict?) log)
  /-- Only a pattern longer than the longest integer can hold an integer that is too long, and that is
  no query error. -/
  nodes : Reports text (answer (queryNodes document (.text text) options strict?) log) ∨
    ∃ digits, answer (queryNodes document (.text text) options strict?) log =
      .error (.integerTooLong digits) ∧ 4300 < (resolve options strict?).maxPatternLength

end Session

end JsonPath
