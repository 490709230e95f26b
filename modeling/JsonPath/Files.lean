import JsonPath.Text.Utf8
import JsonPath.Value.Reader

namespace JsonPath

/-- What is found under the name of a file. A name can lead through a file as if it were a directory, and
no file has a name that is too long or holds a null character. -/
inductive FileState
  | missing
  | denied
  | directory
  | notDirectory
  | nameTooLong
  | nameWithNull
  | content (bytes : List UInt8)

inductive TextFailure
  | encoding (invalid : Utf8.Invalid)
  | malformed (message : String)
  | integerTooLong (digits : Nat)

def readText (text : String) : Except TextFailure Value :=
  match Value.read text with
  | .ok v => .ok v
  | .error (.malformed cause offset) => .error (.malformed (cause.located text offset))
  | .error (.integerTooLong digits) => .error (.integerTooLong digits)

/-- The value that the bytes of a file write, with every line end read as a line feed. -/
def readBytes (bytes : List UInt8) : Except TextFailure Value :=
  match Utf8.decode bytes with
  | .error invalid => .error (.encoding invalid)
  | .ok text => readText (String.ofList (unifyLineEnds text.toList))

end JsonPath
