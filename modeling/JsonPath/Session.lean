import JsonPath.Evaluation.Run
import JsonPath.Query.Error
import JsonPath.Query.Parser

namespace JsonPath

/-- Why an entry point failed. Only a query error can be tolerated. -/
inductive Failure
  | query (e : QueryError)
  | integerTooLong (digits : Nat)
  | argumentCount (function : Function) (given : Nat)
  deriving DecidableEq

/-- An entry point leaves a log, also when it fails. -/
abbrev Session := EStateM Failure (List LogEntry)

namespace Session

def log (level : LogLevel) (message : String) : Session Unit :=
  modify (· ++ [⟨level, message⟩])

def resolve (options : Option Options) (strict? : Option Bool) : Options :=
  let options := options.getD {}
  match strict? with
  | none => options
  | some strict => { options with strict }

/-- A query error is thrown if strict, and otherwise logged as told. -/
def tolerate {α : Type} (strict : Bool) (describe : QueryError → String) (action : Session α) :
    Session (Option α) := fun log =>
  match action log with
  | .ok a log => .ok (some a) log
  | .error (.query e) log =>
    if strict then .error (.query e) log else .ok none (log ++ [⟨.debug, describe e⟩])
  | .error failure log => .error failure log

def rejected (text : String) (e : QueryError) : String :=
  "Rejected query " ++ quoted text ++ ": " ++ e.message

def parseStrictly (text : String) (maxDepth : Int) : Session Query :=
  match Query.parse text maxDepth with
  | .ok q => return q
  | .error (.fault fault) => throw (.query ⟨.parse fault, some text⟩)
  | .error (.integerTooLong digits) => throw (.integerTooLong digits)

/-- The query of a text, or none where the text is no query and that is tolerated. -/
def parseQuery (text : String) (options : Option Options) (strict? : Option Bool) :
    Session (Option Query) :=
  let resolved := resolve options strict?
  tolerate resolved.strict (rejected text) (parseStrictly text resolved.maxExpressionDepth)

def isValidQuery (text : String) (options : Option Options) : Session Bool := do
  return (← parseQuery text options (some false)).isSome

end Session

/-- A query with the options that it is evaluated under, and its text if it was made from one. -/
structure Compiled where
  query : Query
  options : Options
  text : Option String

namespace Compiled

def ofQuery (q : Query) (options : Options) : Compiled := ⟨q, options, none⟩

def ofText (text : String) (options : Options) : Session Compiled := do
  let q ← Session.parseStrictly text options.maxExpressionDepth
  Session.log .debug ("Compiled query " ++ text)
  return ⟨q, options, some text⟩

def select (c : Compiled) (document : Value) : Session (List Node) := fun log =>
  match c.query.evaluate document c.options with
  | .ok nodes p => .ok nodes (log ++ p.log)
  | .error (.excess e) p => .error (.query ⟨.excess e, c.text⟩) (log ++ p.log)
  | .error (.unsupportedComparison symbol) p =>
    .error (.query ⟨.unsupportedComparison symbol, c.text⟩) (log ++ p.log)
  | .error (.argumentCount f given) p => .error (.argumentCount f given) (log ++ p.log)
  | .error (.integerTooLong digits) p => .error (.integerTooLong digits) (log ++ p.log)

def run (c : Compiled) (document : Value) : Session (Option (List Node)) :=
  Session.tolerate c.options.strict (fun e => "Query evaluation failed: " ++ e.message)
    (c.select document)

def values (c : Compiled) (document : Value) : Session (Option (List Value)) := do
  return (← c.run document).map (·.map (·.value))

def paths (c : Compiled) (document : Value) : Session (Option (List String)) := do
  return (← c.run document).map (·.map (·.path))

end Compiled

inductive Source
  | text (text : String)
  | query (q : Query)

namespace Session

def compileQuery (source : Source) (options : Option Options) (strict? : Option Bool) :
    Session (Option Compiled) :=
  let resolved := resolve options strict?
  match source with
  | .query q => return some (.ofQuery q resolved)
  | .text text => tolerate resolved.strict (rejected text) (Compiled.ofText text resolved)

def queryNodes (document : Value) (source : Source) (options : Option Options)
    (strict? : Option Bool) : Session (Option (List Node)) := do
  match ← compileQuery source options strict? with
  | none => return none
  | some compiled => compiled.run document

def queryValues (document : Value) (source : Source) (options : Option Options)
    (strict? : Option Bool) : Session (Option (List Value)) := do
  return (← queryNodes document source options strict?).map (·.map (·.value))

end Session

end JsonPath
