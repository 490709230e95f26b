import JsonPath.Files
import JsonPath.Settings

namespace JsonPath

/-- Why settings could not be loaded. A name with a null character, bytes that are no text and integers
that are too long are failures of their own; all else that is no proper file of settings is malformed. -/
inductive LoadFailure
  | malformed
  | nameWithNull
  | encoding (invalid : Utf8.Invalid)
  | failure (f : Failure)

namespace Settings

/-- The members of the object in a file, and whether the file is malformed. A missing file is an empty
object. -/
def ofFile : FileState → Except LoadFailure (List (String × Value) × Bool)
  | .missing => .ok ([], false)
  | .denied | .directory | .notDirectory | .nameTooLong => .ok ([], true)
  | .nameWithNull => .error .nameWithNull
  | .content bytes =>
    match readBytes bytes with
    | .ok (.object members) => .ok (members, false)
    | .ok _ => .ok ([], true)
    | .error (.malformed _) => .ok ([], true)
    | .error (.encoding invalid) => .error (.encoding invalid)
    | .error (.integerTooLong digits) => .error (.failure (.integerTooLong digits))

def load (file : FileState) : Except LoadFailure (Defaults × SavedQueries) := do
  let (config, malformed) ← ofFile file
  if malformed then throw .malformed
  match sections? config with
  | none => throw .malformed
  | some (given, saved) =>
    match defaults? given with
    | none => throw .malformed
    | some defaults =>
      match savedQueriesValid saved [] with
      | .ok true _ => return (defaults, saved)
      | .ok false _ => throw .malformed
      | .error f _ => throw (.failure f)

end Settings

end JsonPath
