import JsonPath.Command

namespace JsonPath

structure ValidateRequest where
  queries : List String
  config : String := Settings.defaultFile
  color : Option Bool := none

/-- What a validation says of one query. The query is shown as it was given, also where its name stands
for a saved one. -/
def verdict (query : String) (fault : Option QueryError) (color : Bool) : List ConsoleCall :=
  match fault with
  | none => [.print (brightGreen "valid" color ++ " " ++ escapeText query color) color]
  | some e =>
    [.print (brightRed "invalid" color ++ " " ++ escapeText query color) color,
      .print (escapeText e.formatted color) color]

def validateQuery (saved : SavedQueries) (query : String) (color : Bool) : Command Bool := do
  let text ← Command.resolveQuery saved query
  match Query.parse text ({} : Options).maxExpressionDepth with
  | .ok _ =>
    Command.print (verdict query none color)
    return true
  | .error (.fault fault) =>
    Command.print (verdict query (some ⟨.parse fault, some text⟩) color)
    return false
  | .error (.integerTooLong digits) => throw (.integerTooLong digits)

namespace ValidateRequest

def run (r : ValidateRequest) (saved : SavedQueries) : Command Bool := do
  let verdicts ← r.queries.mapM fun query => validateQuery saved query (useColor r.color false)
  return verdicts.all id

end ValidateRequest

end JsonPath
