import JsonPath.Proofs.Evaluation.Congruence
import JsonPath.Proofs.Session.Tolerance

namespace JsonPath

open Token.Scan (LongInteger)

def Options.withStrict (options : Options) (strict : Bool) : Options := { options with strict }

namespace Eval

theorem strictness_congruence (options : Options) (strict strict' : Bool) :
    Congruence (options.withStrict strict) (options.withStrict strict') Eq where
  pure _ := rfl
  throw _ := rfl
  bind := by
    rintro α β m - f f' rfl same
    rw [funext same]
  visit _ := rfl
  checkDepth _ := rfl
  runPattern _ _ _ := rfl

end Eval

theorem Query.evaluate_withStrict (q : Query) (document : Value) (options : Options)
    (strict strict' : Bool) :
    q.evaluate document (options.withStrict strict) = q.evaluate document (options.withStrict strict') :=
  congrFun ((Eval.strictness_congruence options strict strict').query q (.root document)) {}

/-- Attaches the text of the query to a query error where it was not known. -/
def Failure.withQuery (text : String) : Failure → Failure
  | .query e => .query (e.withQuery text)
  | failure => failure

def Compiled.SameButStrict (c c' : Compiled) : Prop :=
  c.query = c'.query ∧ c.text = c'.text ∧
    ∃ options : Options, c.options = options.withStrict true ∧ c'.options = options.withStrict false

theorem Compiled.nodes_withStrict (q : Query) (options : Options) (text? : Option String)
    (document : Value) (strict strict' : Bool) :
    nodes ⟨q, options.withStrict strict, text?⟩ document =
      nodes ⟨q, options.withStrict strict', text?⟩ document := by
  simp only [nodes, q.evaluate_withStrict document options strict strict']

theorem Compiled.nodes_withText (q : Query) (options : Options) (text : String) (document : Value) :
    nodes ⟨q, options, some text⟩ document =
      (nodes ⟨q, options, none⟩ document).mapError (Failure.withQuery text) := by
  unfold nodes
  cases q.evaluate document options with
  | ok nodes p => rfl
  | error e p => cases e <;> rfl

namespace Session

/-- What a strict and a tolerant call of an entry point answer: the same result, or a query error and
none. -/
inductive Agree {α : Type} (same : α → α → Prop) :
    Except Failure (Option α) → Except Failure (Option α) → Prop
  | result {a b : α} (related : same a b) : Agree same (.ok (some a)) (.ok (some b))
  | failed (e : QueryError) : Agree same (.error (.query e)) (.ok none)

section

variable {α β : Type}

def OnlyQueryErrors (x : Except Failure α) : Prop := ∀ failure, x = .error failure → ∃ e, failure = .query e

theorem OnlyQueryErrors.settle {x : Except Failure α} (only : OnlyQueryErrors x) :
    Agree Eq (settle true x) (settle false x) := by
  rcases x with failure | a
  · obtain ⟨e, rfl⟩ := only failure rfl
    exact .failed e
  · exact .result rfl

theorem Agree.map {same : α → α → Prop} {same' : β → β → Prop} {x y : Except Failure (Option α)}
    (agree : Agree same x y) {f g : α → β} (kept : ∀ a b, same a b → same' (f a) (g b)) :
    Agree same' (x.map (·.map f)) (y.map (·.map g)) := by
  cases agree with
  | result related => exact .result (kept _ _ related)
  | failed e => exact .failed e

theorem settle_map (strict : Bool) (x : Except Failure α) (f : α → β) :
    settle strict (x.map f) = (settle strict x).map (·.map f) := by
  rcases x with failure | a
  · cases failure <;> cases strict <;> rfl
  · rfl

theorem settle_eq_some_iff {strict : Bool} {x : Except Failure α} {a : α} :
    settle strict x = .ok (some a) ↔ x = .ok a := by
  rcases x with failure | a
  · cases failure <;> cases strict <;> simp [settle]
  · simp [settle]

theorem settle_mapError_withQuery (strict : Bool) (x : Except Failure α) (text : String) :
    settle strict (x.mapError (Failure.withQuery text)) =
      (settle strict x).mapError (Failure.withQuery text) := by
  rcases x with failure | a
  · cases failure <;> cases strict <;> rfl
  · rfl

end

section

variable {text : String} (short : ∀ digits, ¬ LongInteger 0 text.toList digits)

include short

theorem ofText_onlyQueryErrors (limit : Int) : OnlyQueryErrors (Query.ofText text limit) := by
  intro failure failed
  rcases Query.ofText_eq_error_iff.mp failed with ⟨fault, -, rfl⟩ | ⟨digits, -, long⟩
  · exact ⟨_, rfl⟩
  · exact absurd long (short digits)

variable (document : Value) {options : Options} (few : options.maxPatternLength ≤ maxIntegerDigits)
  {strictOptions tolerantOptions : Option Options} {strict? tolerant? : Option Bool}
  (strictly : resolve strictOptions strict? = options.withStrict true)
  (tolerantly : resolve tolerantOptions tolerant? = options.withStrict false)
  (log log' : List LogEntry)

include strictly tolerantly

theorem parseQuery_agree :
    Agree Eq (answer (parseQuery text strictOptions strict?) log)
      (answer (parseQuery text tolerantOptions tolerant?) log') := by
  rw [answer_parseQuery, answer_parseQuery, strictly, tolerantly]
  exact (ofText_onlyQueryErrors short options.maxExpressionDepth).settle

theorem compileQuery_agree :
    Agree Compiled.SameButStrict (answer (compileQuery (.text text) strictOptions strict?) log)
      (answer (compileQuery (.text text) tolerantOptions tolerant?) log') := by
  rw [answer_compileQuery, answer_compileQuery, strictly, tolerantly]
  simp only [settle_map]
  refine (ofText_onlyQueryErrors short options.maxExpressionDepth).settle.map ?_
  rintro q - rfl
  exact ⟨rfl, rfl, options, rfl, rfl⟩

include few

theorem queryNodes_agree :
    Agree Eq (answer (queryNodes document (.text text) strictOptions strict?) log)
      (answer (queryNodes document (.text text) tolerantOptions tolerant?) log') := by
  rw [answer_queryNodes, answer_queryNodes, strictly, tolerantly]
  simp only [Options.withStrict]
  rcases parsed : Query.ofText text options.maxExpressionDepth with failure | q
  · obtain ⟨e, rfl⟩ := ofText_onlyQueryErrors short _ failure parsed
    exact .failed e
  · have only (strict : Bool) :
        OnlyQueryErrors (Compiled.nodes ⟨q, options.withStrict strict, some text⟩ document) := by
      intro failure failed
      obtain ⟨x, rfl⟩ := Compiled.nodes_error_of_short (Query.ofText_eq_ok_iff.mp parsed)
        (options.withStrict strict) _ document few failed
      exact ⟨_, rfl⟩
    -- Both modes settle one and the same run, so the one that is evaluated tolerantly is replaced.
    have agree := (only true).settle
    nth_rewrite 2 [Compiled.nodes_withStrict q options (some text) document true false] at agree
    exact agree

theorem queryValues_agree :
    Agree Eq (answer (queryValues document (.text text) strictOptions strict?) log)
      (answer (queryValues document (.text text) tolerantOptions tolerant?) log') := by
  rw [answer_queryValues, answer_queryValues]
  exact (queryNodes_agree short document few strictly tolerantly log log').map fun a b same => same ▸ rfl

end

section

variable (document : Value) (text : String) (options : Option Options) (strict? : Option Bool)
  (log log' : List LogEntry)

theorem queryNodes_text_eq_query {q : Query}
    (parsed : answer (parseQuery text options strict?) log = .ok (some q)) :
    answer (queryNodes document (.text text) options strict?) log =
      (answer (queryNodes document (.query q) options strict?) log').mapError (Failure.withQuery text) := by
  rw [answer_parseQuery] at parsed
  rw [answer_queryNodes, answer_queryNodes_query]
  simp only [settle_eq_some_iff.mp parsed, Compiled.nodes_withText, settle_mapError_withQuery]

theorem isValidQuery_eq_true_iff :
    answer (isValidQuery text options) log = .ok true ↔
      ∃ c, answer (compileQuery (.text text) options strict?) log' = .ok (some c) := by
  have limit (strict? : Option Bool) :
      (resolve options strict?).maxExpressionDepth = (options.getD {}).maxExpressionDepth := by
    cases strict? <;> rfl
  rw [answer_isValidQuery, answer_compileQuery]
  simp only [settle_eq_some_iff, limit]
  rcases Query.ofText text (options.getD {}).maxExpressionDepth with failure | q
  · cases failure <;> simp [settle, Except.map]
  · simp [settle, Except.map]

theorem queryNodes_of_evaluate {q : Query} {nodes : List Node} {p : Progress}
    (parsed : Query.parse text (resolve options strict?).maxExpressionDepth = .ok q)
    (evaluated : q.evaluate document (resolve options strict?) = .ok nodes p) :
    answer (queryNodes document (.text text) options strict?) log = .ok (some nodes) := by
  rw [answer_queryNodes]
  simp [Query.ofText_eq_ok_iff.mpr parsed, Compiled.nodes, evaluated, settle]

end

end Session

end JsonPath
