import JsonPath.Proofs.Evaluation.Progress
import JsonPath.Proofs.Grammar.Faults
import JsonPath.Session

namespace JsonPath

def Failure.ofParse (text : String) : ParseError → Failure
  | .fault fault => .query ⟨.parse fault, some text⟩
  | .integerTooLong digits => .integerTooLong digits

def Failure.ofEval (text : Option String) : EvalError → Failure
  | .excess e => .query ⟨.excess e, text⟩
  | .unsupportedComparison symbol => .query ⟨.unsupportedComparison symbol, text⟩
  | .argumentCount f given => .argumentCount f given
  | .integerTooLong digits => .integerTooLong digits

def Query.ofText (text : String) (limit : Int) : Except Failure Query :=
  (parse text limit).mapError (Failure.ofParse text)

def Compiled.nodes (c : Compiled) (document : Value) : Except Failure (List Node) :=
  match c.query.evaluate document c.options with
  | .ok nodes _ => .ok nodes
  | .error e _ => .error (.ofEval c.text e)

namespace Session

section

variable {α β : Type}

def answer (action : Session α) (log : List LogEntry) : Except Failure α :=
  match action log with
  | .ok a _ => .ok a
  | .error failure _ => .error failure

/-- What strictness makes of an answer. A query error is no answer where it is tolerated. -/
def settle (strict : Bool) : Except Failure α → Except Failure (Option α)
  | .ok a => .ok (some a)
  | .error (.query e) => if strict then .error (.query e) else .ok none
  | .error failure => .error failure

variable (log : List LogEntry)

theorem answer_bind (action : Session α) {f : α → Session β} {g : α → Except Failure β}
    (later : ∀ a log, answer (f a) log = g a) : answer (action >>= f) log = answer action log >>= g := by
  simp only [answer, bind, EStateM.bind]
  cases action log with
  | ok a log' => exact later a log'
  | error failure log' => rfl

theorem answer_map (action : Session α) (f : α → β) :
    answer (do return f (← action)) log = (answer action log).map f := by
  rw [answer_bind log action (g := fun a => .ok (f a)) fun _ _ => rfl]
  cases answer action log <;> rfl

theorem answer_tolerate (strict : Bool) (describe : QueryError → String) (action : Session α) :
    answer (tolerate strict describe action) log = settle strict (answer action log) := by
  unfold answer tolerate
  cases action log with
  | ok a log' => rfl
  | error failure log' =>
    cases failure with
    | query e => cases strict <;> rfl
    | integerTooLong digits => rfl
    | argumentCount f given => rfl

theorem answer_parseStrictly (text : String) (limit : Int) :
    answer (parseStrictly text limit) log = Query.ofText text limit := by
  unfold parseStrictly Query.ofText
  rcases Query.parse text limit with e | q
  · cases e <;> rfl
  · rfl

theorem answer_ofText (text : String) (options : Options) :
    answer (Compiled.ofText text options) log =
      (Query.ofText text options.maxExpressionDepth).map (⟨·, options, some text⟩) := by
  unfold Compiled.ofText parseStrictly Query.ofText
  rcases Query.parse text options.maxExpressionDepth with e | q
  · cases e <;> rfl
  · rfl

theorem answer_select (c : Compiled) (document : Value) :
    answer (c.select document) log = c.nodes document := by
  unfold answer Compiled.select Compiled.nodes
  cases c.query.evaluate document c.options with
  | ok nodes p => rfl
  | error e p => cases e <;> rfl

theorem answer_run (c : Compiled) (document : Value) :
    answer (c.run document) log = settle c.options.strict (c.nodes document) := by
  rw [Compiled.run, answer_tolerate, answer_select]

theorem answer_parseQuery (text : String) (options : Option Options) (strict? : Option Bool) :
    answer (parseQuery text options strict?) log =
      let resolved := resolve options strict?
      settle resolved.strict (Query.ofText text resolved.maxExpressionDepth) := by
  rw [parseQuery, answer_tolerate, answer_parseStrictly]

theorem answer_isValidQuery (text : String) (options : Option Options) :
    answer (isValidQuery text options) log =
      (settle false (Query.ofText text (resolve options (some false)).maxExpressionDepth)).map
        Option.isSome := by
  rw [isValidQuery, answer_map, answer_parseQuery]
  rfl

theorem answer_compileQuery (text : String) (options : Option Options) (strict? : Option Bool) :
    answer (compileQuery (.text text) options strict?) log =
      let resolved := resolve options strict?
      settle resolved.strict
        ((Query.ofText text resolved.maxExpressionDepth).map (⟨·, resolved, some text⟩)) := by
  rw [compileQuery, answer_tolerate, answer_ofText]

theorem answer_queryNodes (document : Value) (text : String) (options : Option Options)
    (strict? : Option Bool) :
    answer (queryNodes document (.text text) options strict?) log =
      let resolved := resolve options strict?
      match Query.ofText text resolved.maxExpressionDepth with
      | .ok q => settle resolved.strict (Compiled.nodes ⟨q, resolved, some text⟩ document)
      | .error failure => settle resolved.strict (.error failure) := by
  let next (c? : Option Compiled) : Except Failure (Option (List Node)) :=
    c?.elim (.ok none) fun c => settle c.options.strict (c.nodes document)
  rw [queryNodes, answer_bind (g := next), answer_compileQuery]
  case later =>
    intro c? log
    cases c? with
    | none => rfl
    | some c => exact answer_run log c document
  simp only
  rcases Query.ofText text (resolve options strict?).maxExpressionDepth with failure | q
  · cases failure with
    | query e => cases (resolve options strict?).strict <;> rfl
    | integerTooLong digits => rfl
    | argumentCount f given => rfl
  · rfl

theorem answer_queryNodes_query (document : Value) (q : Query) (options : Option Options)
    (strict? : Option Bool) :
    answer (queryNodes document (.query q) options strict?) log =
      let resolved := resolve options strict?
      settle resolved.strict (Compiled.nodes ⟨q, resolved, none⟩ document) := by
  rw [queryNodes, compileQuery, pure_bind]
  exact answer_run log _ document

theorem answer_queryValues (document : Value) (source : Source) (options : Option Options)
    (strict? : Option Bool) :
    answer (queryValues document source options strict?) log =
      (answer (queryNodes document source options strict?) log).map (·.map (·.map (·.value))) := by
  rw [queryValues, answer_map]

end

end Session

end JsonPath
