import JsonPath.Command.Query
import JsonPath.Command.Validate
import JsonPath.Proofs.Session.Modes

namespace JsonPath

open Session
open Token.Scan (LongInteger)

namespace QueryRequest

def compile (r : QueryRequest) (saved : SavedQueries) : Command (Format × Compiled) := do
  let format ← match r.check with
    | .ok format => pure format
    | .error refusal => Command.refuse refusal
  let text ← Command.resolveQuery saved r.query
  let compiled ← Command.ofSession .query (Compiled.ofText text r.options)
  return (format, compiled)

def display (r : QueryRequest) (input : Input) (format : Format) (compiled : Compiled) :
    Command Unit := do
  let document ← Command.document input r.file
  let nodes ← Command.ofSession .evaluation (compiled.select document)
  let displayed := r.window nodes
  Command.log [selection nodes displayed]
  let report := Report.prepare format displayed (useColor r.color false) r.outTheme
  Command.print (report.flatMap Operation.calls)

theorem run_eq (r : QueryRequest) (saved : SavedQueries) (input : Input) :
    r.run saved input = (do
      let (format, compiled) ← r.compile saved
      r.display input format compiled) := by
  unfold run compile display
  cases r.check <;> simp only [bind_assoc, pure_bind]

end QueryRequest

abbrev Settings.savedText (saved : SavedQueries) (query : String) : String :=
  (resolveQuery saved query).1

open Settings (savedText)

namespace Command

variable {α β : Type}

/-- A command is refused for a query: it has no form that is accepted. -/
def RefusesQuery (command : Command α) (t : Transcript) : Prop :=
  ∃ e u, command t = .error (.refused (.query e)) u

theorem resolveQuery_run (saved : SavedQueries) (query : String) (t : Transcript) :
    resolveQuery saved query t =
      .ok (savedText saved query) { t with log := t.log ++ (Settings.resolveQuery saved query).2 } := rfl

theorem bind_run {command : Command α} {f : α → Command β} {t u : Transcript} {a : α}
    (first : command t = .ok a u) : (command >>= f) t = f a u := by
  simp [bind, EStateM.bind, first]

theorem ofSession_refusesQuery {refusal : QueryError → Refusal} (other : ∀ e e', refusal e ≠ .query e')
    (action : Session α) (t : Transcript) : ¬ RefusesQuery (ofSession refusal action) t := by
  rintro ⟨e, u, refused⟩
  unfold ofSession at refused
  split at refused
  · contradiction
  · simp only [EStateM.Result.error.injEq, CommandFailure.refused.injEq] at refused
    exact other _ _ refused.1
  · simp at refused
  · simp at refused

theorem document_refusesQuery (input : Input) (file : Option String) (t : Transcript) :
    ¬ RefusesQuery (document input file) t := by
  have text (place : String) (x : Except TextFailure Value) : ¬ RefusesQuery (ofText place x) t := by
    rintro ⟨e, u, refused⟩
    rcases x with failure | v
    · cases failure <;> cases refused
    · cases refused
  have standard : ¬ RefusesQuery (standardInput input) t := by
    unfold standardInput
    split
    · exact text _ _
    · rintro ⟨e, u, ⟨⟩⟩
  unfold document
  split
  · exact standard
  · split
    · exact standard
    · split
      case h_7 => exact text _ _
      all_goals rintro ⟨e, u, ⟨⟩⟩

theorem RefusesQuery.bind_iff {command : Command α} {f : α → Command β} {t : Transcript}
    (later : ∀ a u, ¬ RefusesQuery (f a) u) :
    RefusesQuery (command >>= f) t ↔ RefusesQuery command t := by
  unfold RefusesQuery at *
  simp only [bind, EStateM.bind]
  cases command t with
  | ok a u => simpa using later a u
  | error e u => simp

end Command

open Command (RefusesQuery)

theorem validateQuery_eq_ok_iff (saved : SavedQueries) (query : String) (color : Bool) (t : Transcript) :
    ((∃ u, validateQuery saved query color t = .ok true u) ↔
      ∃ q, Query.parse (savedText saved query) ({} : Options).maxExpressionDepth = .ok q) ∧
    ((∃ u, validateQuery saved query color t = .ok false u) ↔
      ∃ fault, Query.parse (savedText saved query) ({} : Options).maxExpressionDepth =
        .error (.fault fault)) := by
  have said (calls : List ConsoleCall) (valid : Bool) (t : Transcript) :
      (do
        Command.print calls
        return valid : Command Bool) t = .ok valid { t with calls := t.calls ++ calls } := rfl
  rw [validateQuery, Command.bind_run (Command.resolveQuery_run saved query t)]
  rcases Query.parse (savedText saved query) ({} : Options).maxExpressionDepth with e | q
  · cases e with
    | fault fault => simp [said]
    | integerTooLong digits => simp [EStateM.throw_run]
  · simp [said]

namespace QueryRequest

variable {r : QueryRequest} {saved : SavedQueries} {format : Format} (checked : r.check = .ok format)
  (t : Transcript)

include checked

theorem compile_run : r.compile saved t =
    match Query.parse (savedText saved r.query) ({} : Options).maxExpressionDepth with
    | .ok q => .ok (format, ⟨q, r.options, some (savedText saved r.query)⟩)
        { t with log := t.log ++ (Settings.resolveQuery saved r.query).2 ++
          [⟨.debug, "Compiled query " ++ savedText saved r.query⟩] }
    | .error (.fault fault) =>
      .error (.refused (.query ⟨.parse fault, some (savedText saved r.query)⟩))
        { t with log := t.log ++ (Settings.resolveQuery saved r.query).2 }
    | .error (.integerTooLong digits) =>
      .error (.integerTooLong digits) { t with log := t.log ++ (Settings.resolveQuery saved r.query).2 } := by
  have limit : r.options.maxExpressionDepth = ({} : Options).maxExpressionDepth := rfl
  unfold compile
  simp only [checked, pure_bind]
  rw [Command.bind_run (Command.resolveQuery_run saved r.query t)]
  unfold Command.ofSession Compiled.ofText parseStrictly
  rw [limit]
  simp only [bind, EStateM.bind]
  rcases Query.parse (savedText saved r.query) ({} : Options).maxExpressionDepth with e | q
  · cases e <;> rfl
  · rfl

omit checked in
theorem display_refusesQuery (input : Input) (compiled : Compiled) :
    ¬ RefusesQuery (r.display input format compiled) t := by
  unfold display
  rw [RefusesQuery.bind_iff]
  · exact Command.document_refusesQuery input r.file t
  · intro document t
    rw [RefusesQuery.bind_iff]
    · exact Command.ofSession_refusesQuery (by simp) _ t
    · rintro nodes t ⟨e, u, ⟨⟩⟩

theorem compile_eq_ok_iff : (∃ c u, r.compile saved t = .ok c u) ↔
    ∃ q, Query.parse (savedText saved r.query) ({} : Options).maxExpressionDepth = .ok q := by
  rw [compile_run checked]
  rcases Query.parse (savedText saved r.query) ({} : Options).maxExpressionDepth with e | q
  · cases e <;> simp
  · simp

theorem run_refusesQuery_iff (input : Input) : RefusesQuery (r.run saved input) t ↔
    ∃ fault, Query.parse (savedText saved r.query) ({} : Options).maxExpressionDepth =
      .error (.fault fault) := by
  have shown (c : Format × Compiled) (u : Transcript) :
      ¬ RefusesQuery (r.display input c.1 c.2) u := display_refusesQuery u input c.2
  rw [run_eq, RefusesQuery.bind_iff shown, RefusesQuery, compile_run checked]
  rcases Query.parse (savedText saved r.query) ({} : Options).maxExpressionDepth with e | q
  · cases e <;> simp
  · simp

end QueryRequest

/-- What the entry points say of a text under the limits of some options. -/
structure EntryPointsAgree (text : String) (options : Options) (document : Value) : Prop where
  strictness : ∀ given : Option Options, resolve given none = given.getD {} ∧
    ∀ strict, resolve given (some strict) = (given.getD {}).withStrict strict
  modes : ∀ strictOptions strict? tolerantOptions tolerant?,
    resolve strictOptions strict? = options.withStrict true →
    resolve tolerantOptions tolerant? = options.withStrict false → ∀ log log',
      Agree Eq (answer (parseQuery text strictOptions strict?) log)
        (answer (parseQuery text tolerantOptions tolerant?) log') ∧
      Agree Compiled.SameButStrict (answer (compileQuery (.text text) strictOptions strict?) log)
        (answer (compileQuery (.text text) tolerantOptions tolerant?) log') ∧
      Agree Eq (answer (queryNodes document (.text text) strictOptions strict?) log)
        (answer (queryNodes document (.text text) tolerantOptions tolerant?) log') ∧
      Agree Eq (answer (queryValues document (.text text) strictOptions strict?) log)
        (answer (queryValues document (.text text) tolerantOptions tolerant?) log')
  query : ∀ given strict? log log' q,
    answer (parseQuery text given strict?) log = .ok (some q) →
      answer (queryNodes document (.text text) given strict?) log =
        (answer (queryNodes document (.query q) given strict?) log').mapError (Failure.withQuery text)
  values : ∀ source given strict? log,
    answer (queryValues document source given strict?) log =
      (answer (queryNodes document source given strict?) log).map (·.map (·.map (·.value)))
  validity : ∀ given strict? log log', answer (isValidQuery text given) log = .ok true ↔
    ∃ c, answer (compileQuery (.text text) given strict?) log' = .ok (some c)
  result : ∀ given strict? log q nodes p,
    Query.parse text (resolve given strict?).maxExpressionDepth = .ok q →
    q.evaluate document (resolve given strict?) = .ok nodes p →
      answer (queryNodes document (.text text) given strict?) log = .ok (some nodes)
  /-- A request whose options pass their checks gets past the compilation of its query exactly if that is
  valid, and is refused for it exactly if it is not. -/
  commands : ∀ saved (r : QueryRequest) format, savedText saved r.query = text → r.check = .ok format →
    ∀ input color t t',
      (∃ valid u, validateQuery saved r.query color t = .ok valid u) ∧
      ((∃ u, validateQuery saved r.query color t = .ok true u) ↔ ∃ c u, r.compile saved t' = .ok c u) ∧
      ((∃ u, validateQuery saved r.query color t = .ok false u) ↔
        RefusesQuery (r.run saved input) t')

end JsonPath
