import JsonPath.Command.Arguments
import JsonPath.Command.Query
import JsonPath.Command.Validate
import JsonPath.Logger
import JsonPath.Text.Integer

namespace JsonPath

inductive Invocation
  | help
  | query (r : QueryRequest)
  | validate (r : ValidateRequest)

namespace Invocation

def helpSpelling : String × Parameter × Effect := ("--help", .help, .sets true)

def globalSpellings : Spellings :=
  [("-v", .verbose, .sets true), ("--verbose", .verbose, .sets true), helpSpelling]

def colorSpellings : Spellings :=
  [("--color", .color, .sets true), ("--no-color", .color, .sets false)]

def validateSpellings : Spellings :=
  ("--config", .config, .takes) :: colorSpellings ++ [helpSpelling]

def querySpellings : Spellings :=
  validateSpellings ++ [
    ("-n", .maxResults, .takes),
    ("--max-results", .maxResults, .takes),
    ("--offset", .offset, .takes),
    ("--out", .out, .takes),
    ("--out-theme", .outTheme, .takes),
    ("--max-depth", .maxDepth, .takes),
    ("--max-nodes-visited", .maxNodesVisited, .takes)]

def boolDefault? (defaults : Defaults) (name : String) : Option Bool :=
  match defaults.lookup name with
  | some (.bool b) => some b
  | _ => none

def intDefault? (defaults : Defaults) (name : String) : Option Int :=
  match defaults.lookup name with
  | some (.number (.int n)) => some n
  | _ => none

def textDefault? (defaults : Defaults) (name : String) : Option String :=
  match defaults.lookup name with
  | some (.string s) => some s
  | _ => none

def color (a : Arguments) (defaults : Defaults) : Option Bool :=
  (a.flag? .color).or (boolDefault? defaults "color_flag")

def text (a : Arguments) (p : Parameter) (default : String) : String := (a.text? p).getD default

def int? (a : Arguments) (p : Parameter) (default : Int) : Option Int :=
  match a.text? p with
  | some s => Integer.read? s
  | none => some default

def queryRequest? (defaults : Defaults) (a : Arguments) (query : String) (file : Option String) :
    Option QueryRequest := do
  let base : QueryRequest := { query, file }
  let maxResults ← int? a .maxResults ((intDefault? defaults "max_results").getD base.maxResults)
  let offset ← int? a .offset ((intDefault? defaults "offset").getD base.offset)
  let maxDepth ← int? a .maxDepth ((intDefault? defaults "max_depth").getD base.maxDepth)
  let maxNodesVisited ← int? a .maxNodesVisited
    ((intDefault? defaults "max_nodes_visited").getD base.maxNodesVisited)
  return { base with
    config := text a .config base.config
    color := color a defaults
    maxResults
    offset
    out := text a .out ((textDefault? defaults "out").getD base.out)
    outTheme := text a .outTheme ((textDefault? defaults "out_theme").getD base.outTheme)
    maxDepth
    maxNodesVisited }

/-- Reads what follows the name of the query command. Help goes before what else is wrong, as long as
all options are known. -/
def query? (defaults : Defaults) (args : List String) : Option Invocation :=
  (Arguments.read? querySpellings true args).bind fun a =>
    if (a.flag? .help).isSome then some help
    else match a.operands with
    | [text] => (queryRequest? defaults a text none).map .query
    | [text, file] => (queryRequest? defaults a text (some file)).map .query
    | _ => none

def validate? (defaults : Defaults) (args : List String) : Option Invocation :=
  (Arguments.read? validateSpellings true args).bind fun a =>
    if (a.flag? .help).isSome then some help
    else if a.operands.isEmpty then none
    else
      let base : ValidateRequest := { queries := a.operands }
      some (.validate
        { base with config := text a .config base.config, color := color a defaults })

def read? (defaults : Defaults) (args : List String) : Option (Bool × Invocation) :=
  (Arguments.read? globalSpellings false args).bind fun a =>
    let verbose := (a.flag? .verbose).isSome
    if (a.flag? .help).isSome then some (verbose, help)
    else
      let defaultsOf (command : String) := ((Settings.commandDefaults defaults).lookup command).getD []
      match a.operands with
      | "query" :: rest => (query? (defaultsOf "query") rest).map (verbose, ·)
      | "validate" :: rest => (validate? (defaultsOf "validate") rest).map (verbose, ·)
      | _ => none

end Invocation

/-- What a run of the program leaves behind. `complaint` says why it failed, after all else. -/
structure Outcome where
  exit : UInt8
  stdout : String := ""
  stderr : String := ""
  complaint : String := ""

namespace Program

def help : String := "\n".intercalate [
  "Usage: jsonpath [-v | --verbose] query [options] QUERY [FILE]",
  "       jsonpath [-v | --verbose] validate [options] QUERY...",
  "",
  "Query JSON documents with RFC 9535 JSONPath expressions.",
  "",
  "query     Select nodes of a JSON document, or of the standard input where FILE is left out or -.",
  "validate  Check that queries are well-formed and well-typed.",
  "",
  "--config FILE            Settings file, .rfcpath.json by default",
  "--color / --no-color     Force coloured or plain output",
  "-n, --max-results N      Greatest number of results to display, 0 for all",
  "--offset N               Number of results to skip before displaying",
  "--out FORMAT             values, nodes, paths or json",
  "--out-theme THEME        Theme for highlighted output",
  "--max-depth N            Greatest nesting depth of the document",
  "--max-nodes-visited N    Greatest number of nodes visited",
  ""]

def settingsFile (args : List String) : String :=
  Settings.location (Settings.fileArgument args)

def nullInName : String := "The name of a file holds a null character\n"

/-- Ends a command. Refusals exit with 2 and all other failures with 1. -/
def finish {α : Type} (logger : Logger) (exit : α → UInt8) (command : Command α) : Outcome :=
  let written (t : Transcript) : Outcome :=
    { exit := 0
      stdout := Console.outputAll t.calls
      stderr := String.join (t.log.map logger.written) }
  match command {} with
  | .ok a t => { written t with exit := exit a }
  | .error (.refused r) t => { written t with exit := 2, complaint := r.message ++ "\n" }
  | .error (.encoding invalid) t => { written t with exit := 1, complaint := invalid.message ++ "\n" }
  | .error (.directory file) t =>
    { written t with exit := 1, complaint := Refusal.named file ++ " is a directory\n" }
  | .error (.notDirectory file) t =>
    { written t with exit := 1, complaint := Refusal.named file ++ " leads through a file\n" }
  | .error (.nameTooLong file) t =>
    { written t with exit := 1, complaint := Refusal.named file ++ " is too long for a file name\n" }
  | .error .nameWithNull t => { written t with exit := 1, complaint := nullInName }
  | .error (.integerTooLong digits) t =>
    { written t with
      exit := 1
      complaint := "An integer of " ++ toString digits ++ " digits is too long\n" }
  | .error (.argumentCount f _) t =>
    { written t with exit := 1, complaint := "Wrong number of arguments for " ++ f.name ++ "()\n" }

def runQuery (defaults : Defaults) (saved : SavedQueries) (input : Input) (r : QueryRequest) :
    Command Unit := do
  Command.log (Settings.appliedDefaults "query" defaults)
  Command.log [r.logEntry]
  r.run saved input

def runWith (defaults : Defaults) (saved : SavedQueries) (args : List String) (input : Input) :
    Outcome :=
  let remaining := defaults.filter fun (key, _) => key != "verbose"
  match Invocation.read? remaining args with
  | none => { exit := 2, complaint := help }
  | some (verbose, invocation) =>
    let verbose := verbose || (defaults.lookup "verbose").any Settings.isTrue
    let logger := Logger.configure verbose
    match invocation with
    | .help => { exit := 0, stdout := help }
    | .query r => finish logger (fun _ => 0) (runQuery remaining saved input r)
    | .validate r => finish logger (fun valid => if valid then 0 else 1) (r.run saved)

/-- Runs a command line. Its settings are loaded before it is looked at. -/
def run (args : List String) (input : Input) : Outcome :=
  match Settings.load (input.file (settingsFile args)) with
  | .ok (defaults, saved) => runWith defaults saved args input
  | .error .malformed => { exit := 2, stderr := "Error: Malformed config\n" }
  | .error (.encoding invalid) => { exit := 1, complaint := invalid.message ++ "\n" }
  | .error .nameWithNull => { exit := 1, complaint := nullInName }
  | .error (.failure _) => { exit := 1, complaint := "An integer in the settings is too long\n" }

def documentFile? (args : List String) : Option String :=
  match Invocation.read? [] args with
  | some (_, .query r) => r.file.filter (· ≠ "-")
  | _ => none

def readsStandardInput (args : List String) : Bool :=
  match Invocation.read? [] args with
  | some (_, .query r) => r.file.all (· = "-")
  | _ => false

end Program

end JsonPath
