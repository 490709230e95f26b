import JsonPath.Report.Console
import JsonPath.Settings.Load

namespace JsonPath

/-- Why a command does not accept what it was asked to do. -/
inductive Refusal
  | negative (flag : String)
  | notPositive (flag : String)
  | format (name : String)
  | query (e : QueryError)
  | evaluation (e : QueryError)
  | missing (file : String)
  | denied (file : String)
  | malformed (place message : String)
  deriving DecidableEq

namespace Refusal

def named (file : String) : String := "'" ++ file ++ "'"

def message : Refusal → String
  | negative flag => flag ++ " must be non-negative"
  | notPositive flag => flag ++ " must be positive"
  | format name => Format.unsupported name
  | query e => e.formatted
  | evaluation e => e.message
  | missing file => "File " ++ named file ++ " not found"
  | denied file => "Permission denied for " ++ named file
  | malformed place message => "Invalid JSON in " ++ place ++ ": " ++ message

/-- Whether the value of an option or argument is at fault, rather than how it was used. -/
def isOfValue : Refusal → Bool
  | format _ | query _ | evaluation _ => false
  | _ => true

end Refusal

/-- How a command fails: with a refusal, or beyond what it provides for. -/
inductive CommandFailure
  | refused (r : Refusal)
  | encoding (invalid : Utf8.Invalid)
  | directory (file : String)
  | notDirectory (file : String)
  | nameTooLong (file : String)
  | nameWithNull
  | integerTooLong (digits : Nat)
  | argumentCount (function : Function) (given : Nat)

/-- What a command leaves behind, also when it fails. -/
structure Transcript where
  log : List LogEntry := []
  calls : List ConsoleCall := []

abbrev Command := EStateM CommandFailure Transcript

/-- What a command can read: the standard input, if it is text, and files by their names. -/
structure Input where
  stdin : Except Utf8.Invalid String
  file : String → FileState

namespace Command

def refuse {α : Type} (r : Refusal) : Command α := throw (.refused r)

def log (entries : List LogEntry) : Command Unit :=
  modify fun t => { t with log := t.log ++ entries }

def print (calls : List ConsoleCall) : Command Unit :=
  modify fun t => { t with calls := t.calls ++ calls }

def ofSession {α : Type} (refusal : QueryError → Refusal) (action : Session α) : Command α :=
  fun t =>
    match action t.log with
    | .ok a log => .ok a { t with log }
    | .error (.query e) log => .error (.refused (refusal e)) { t with log }
    | .error (.integerTooLong digits) log => .error (.integerTooLong digits) { t with log }
    | .error (.argumentCount f given) log => .error (.argumentCount f given) { t with log }

def resolveQuery (saved : SavedQueries) (query : String) : Command String := do
  let (text, entries) := Settings.resolveQuery saved query
  log entries
  return text

def ofText (place : String) : Except TextFailure Value → Command Value
  | .ok v => return v
  | .error (.encoding invalid) => throw (.encoding invalid)
  | .error (.malformed message) => refuse (.malformed place message)
  | .error (.integerTooLong digits) => throw (.integerTooLong digits)

def standardInput (input : Input) : Command Value :=
  match input.stdin with
  | .ok text => ofText "stdin" (readText text)
  | .error invalid => throw (.encoding invalid)

def document (input : Input) : Option String → Command Value
  | none => standardInput input
  | some name =>
    if name = "-" then standardInput input
    else match input.file name with
    | .missing => refuse (.missing name)
    | .denied => refuse (.denied name)
    | .directory => throw (.directory name)
    | .notDirectory => throw (.notDirectory name)
    | .nameTooLong => throw (.nameTooLong name)
    | .nameWithNull => throw .nameWithNull
    | .content bytes => ofText (Refusal.named name) (readBytes bytes)

end Command

end JsonPath
