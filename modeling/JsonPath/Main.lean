import JsonPath.Command.Program

namespace JsonPath

namespace Main

def fileState (name : String) : IO FileState := do
  if name.toList.contains '\x00' then return .nameWithNull
  try
    return .content (← IO.FS.readBinFile name).toList
  catch
    | .noFileOrDirectory .. => return .missing
    | .permissionDenied .. => return .denied
    | .inappropriateType (some _) .. => return .notDirectory
    | .invalidArgument .. => return .nameTooLong
    | _ => return .directory

/-- All of the standard input, with every line end as a line feed. -/
def standardInput : IO (Except Utf8.Invalid String) := do
  let bytes ← (← IO.getStdin).readBinToEnd
  return (Utf8.decode bytes.toList).map fun text => String.ofList (unifyLineEnds text.toList)

def inputFor (args : List String) : IO Input := do
  let names := Program.settingsFile args :: (Program.documentFile? args).toList
  let files ← names.mapM fun name => do return (name, ← fileState name)
  let stdin ← if Program.readsStandardInput args then standardInput else pure (.ok "")
  return ⟨stdin, fun name => (files.lookup name).getD .missing⟩

end Main

end JsonPath

open JsonPath

def main (args : List String) : IO UInt32 := do
  let outcome := Program.run args (← Main.inputFor args)
  (← IO.getStdout).putStr outcome.stdout
  (← IO.getStderr).putStr (outcome.stderr ++ outcome.complaint)
  return outcome.exit.toUInt32
