import JsonPath.Report
import JsonPath.Session
import JsonPath.Value.Shown

namespace JsonPath

abbrev Defaults := List (String × Value)

abbrev SavedQueries := List (String × String)

namespace Settings

def defaultFile : String := ".rfcpath.json"

/-- The settings with a whole number: the flag, the parameter, and the least value. -/
def intSettings : List (String × String × Int) := [
  ("--max-results", "max_results", 0),
  ("--offset", "offset", 0),
  ("--max-depth", "max_depth", 1),
  ("--max-nodes-visited", "max_nodes_visited", 1)]

def boolSettings : List (String × String) := [("--verbose", "verbose")]

def textSettings : List (String × String) := [("--out", "out"), ("--out-theme", "out_theme")]

def flags : List (String × String) := [
  ("color_flag", "--color/--no-color"),
  ("max_depth", "--max-depth"),
  ("max_nodes_visited", "--max-nodes-visited"),
  ("max_results", "--max-results"),
  ("offset", "--offset"),
  ("out", "--out"),
  ("out_theme", "--out-theme"),
  ("verbose", "--verbose")]

def isBool : Value → Bool
  | .bool _ => true
  | _ => false

def isTrue : Value → Bool
  | .bool b => b
  | _ => false

/-- The default for colours that two opposite flags give. Both take a truth value, and only one of them
may be true. -/
def colorDefaults (config : List (String × Value)) : Option Defaults :=
  let on := config.lookup "--color"
  let off := config.lookup "--no-color"
  if on.any (!isBool ·) || off.any (!isBool ·) then none
  else match on.any isTrue, off.any isTrue with
  | true, true => none
  | true, false => some [("color_flag", .bool true)]
  | false, true => some [("color_flag", .bool false)]
  | false, false => some []

def intOption? (low : Option Int) : Value → Option Int
  | .number (.int n) => if low.any (n < ·) then none else some n
  | _ => none

def textOption? (flag : String) : Value → Option String
  | .string s =>
    if (trimBlanks s).isEmpty then none
    else if flag = "--out" && (Format.ofName? s).isNone then none
    else some s
  | _ => none

def setting? (flag : String) (value : Value) : Option (String × Value) :=
  match intSettings.lookup flag with
  | some (key, low) => (intOption? (some low) value).map fun n => (key, .int n)
  | none =>
    match boolSettings.lookup flag with
    | some key => if isBool value then some (key, value) else none
    | none =>
      (textSettings.lookup flag).bind fun key =>
        (textOption? flag value).map fun s => (key, .string s)

def applySetting? (flag : String) (value : Value) (defaults : Defaults) : Option Defaults :=
  (setting? flag value).map fun (key, v) => putMember key v defaults

def applySettings? : List (String × Value) → Defaults → Option Defaults
  | [], defaults => some defaults
  | (flag, value) :: rest, defaults =>
    if flag = "--color" ∨ flag = "--no-color" then applySettings? rest defaults
    else (applySetting? flag value defaults).bind (applySettings? rest)

/-- The defaults of a section. One invalid entry makes all of it invalid. -/
def defaults? (config : List (String × Value)) : Option Defaults :=
  (colorDefaults config).bind (applySettings? config)

def texts? : List (String × Value) → Option SavedQueries
  | [] => some []
  | (name, .string s) :: rest => (texts? rest).map ((name, s) :: ·)
  | _ => none

def stringObject? : Value → Option SavedQueries
  | .object members => texts? members
  | _ => none

/-- The two sections of a file, each empty where it is absent. No other is allowed. -/
def sections? (config : List (String × Value)) : Option (List (String × Value) × SavedQueries) :=
  if config.any fun (name, _) => name != "defaults" && name != "queries" then none
  else match (config.lookup "defaults").getD (.object []) with
  | .object defaults =>
    (stringObject? ((config.lookup "queries").getD (.object []))).map fun saved => (defaults, saved)
  | _ => none

def savedQueriesValid : SavedQueries → Session Bool
  | [] => return true
  | (name, text) :: rest => do
    if (trimBlanks name).isEmpty then return false
    else if ← Session.isValidQuery text none then savedQueriesValid rest
    else return false

def fileFlag : List Char := "--config=".toList

/-- The file named on a command line: the first mention counts, also where a command would not read it
as an option. -/
def fileArgument : List String → String
  | [] => defaultFile
  | arg :: rest =>
    if arg = "--config" then
      match rest with
      | name :: _ => name
      | [] => defaultFile
    else if fileFlag.isPrefixOf arg.toList then String.ofList (arg.toList.drop fileFlag.length)
    else fileArgument rest

def parts : List Char → List (List Char)
  | [] => [[]]
  | c :: cs =>
    if c = '/' then [] :: parts cs
    else match parts cs with
    | [] => [[c]]
    | part :: rest => (c :: part) :: rest

/-- A file name without what leaves the place the same: empty parts and single dots. -/
def location (name : String) : String :=
  let path := ['/'].intercalate ((parts name.toList).filter fun part => part ≠ [] ∧ part ≠ ['.'])
  let start := name.toList.takeWhile (· = '/')
  let path := start.take 1 ++ path
  if path.isEmpty then "." else String.ofList path

def commandDefaults (defaults : Defaults) : List (String × Defaults) := [
  ("query", defaults.filter fun (key, _) => key != "verbose"),
  ("validate", defaults.filter fun (key, _) => key == "color_flag")]

def resolveQuery (saved : SavedQueries) (query : String) : String × List LogEntry :=
  match saved.lookup query with
  | none => (query, [])
  | some text => (text, [⟨.info, "Using saved query '" ++ query ++ "': " ++ text⟩])

def shownPairs (pairs : List (String × String)) : String :=
  ", ".intercalate (pairs.map fun (name, value) => name ++ "=" ++ value)

def appliedDefaults (command : String) (defaults : Defaults) : List LogEntry :=
  let sorted := defaults.mergeSort fun a b => a.1 ≤ b.1
  let entries := sorted.filterMap fun (key, value) =>
    (flags.lookup key).map fun flag => (flag, value.shown)
  if entries.isEmpty then []
  else [⟨.info, "Config defaults applied (" ++ command ++ "): " ++ shownPairs entries⟩]

end Settings

end JsonPath
