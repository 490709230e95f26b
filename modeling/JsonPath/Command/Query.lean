import JsonPath.Command

namespace JsonPath

structure QueryRequest where
  query : String
  file : Option String := none
  config : String := Settings.defaultFile
  color : Option Bool := none
  maxResults : Int := 0
  offset : Int := 0
  out : String := Format.values.name
  outTheme : String := Report.defaultTheme
  maxDepth : Int := ({} : Options).maxDepth
  maxNodesVisited : Int := ({} : Options).maxNodesVisited

namespace QueryRequest

def shownArguments (r : QueryRequest) : List (String × Value) := [
  ("color_flag", (r.color.map Value.bool).getD .null),
  ("config", .string r.config),
  ("file", (r.file.map Value.string).getD .null),
  ("max_depth", .int r.maxDepth),
  ("max_nodes_visited", .int r.maxNodesVisited),
  ("max_results", .int r.maxResults),
  ("offset", .int r.offset),
  ("out", .string r.out),
  ("out_theme", .string r.outTheme),
  ("query", .string r.query)]

def logEntry (r : QueryRequest) : LogEntry :=
  ⟨.info, "Command arguments (query): "
    ++ Settings.shownPairs (r.shownArguments.map fun (name, v) => (name, v.shown))⟩

/-- The format, if every option has a value that the command accepts. -/
def check (r : QueryRequest) : Except Refusal Format :=
  if r.offset < 0 then .error (.negative "--offset")
  else if r.maxResults < 0 then .error (.negative "--max-results")
  else if r.maxDepth < 1 then .error (.notPositive "--max-depth")
  else if r.maxNodesVisited < 1 then .error (.notPositive "--max-nodes-visited")
  else match Format.ofName? r.out with
  | some format => .ok format
  | none => .error (.format r.out)

def options (r : QueryRequest) : Options :=
  { strict := true, maxDepth := r.maxDepth, maxNodesVisited := r.maxNodesVisited }

/-- The nodes from the offset on, up to the greatest count if it is not zero. -/
def window (r : QueryRequest) (nodes : List Node) : List Node :=
  let rest := nodes.drop r.offset.toNat
  if r.maxResults = 0 then rest else rest.take r.maxResults.toNat

def selection (selected displayed : List Node) : LogEntry :=
  ⟨.info, "Selected " ++ toString selected.length ++ " nodes, displaying "
    ++ toString displayed.length⟩

def run (r : QueryRequest) (saved : SavedQueries) (input : Input) : Command Unit := do
  let format ← match r.check with
    | .ok format => pure format
    | .error refusal => Command.refuse refusal
  let text ← Command.resolveQuery saved r.query
  let compiled ← Command.ofSession .query (Compiled.ofText text r.options)
  let document ← Command.document input r.file
  let nodes ← Command.ofSession .evaluation (compiled.select document)
  let displayed := r.window nodes
  Command.log [selection nodes displayed]
  let report := Report.prepare format displayed (useColor r.color false) r.outTheme
  Command.print (report.flatMap Operation.calls)

end QueryRequest

end JsonPath
