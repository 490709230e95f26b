import JsonPath.Query
import JsonPath.Token.Scan

namespace JsonPath

inductive SyntaxFault
  | unexpected (text : List Char) (offset : Nat)
  | unexpectedEnd (offset : Nat)
  | tooDeep (limit : Int) (offset : Nat)
  | integerOutOfRange (value : Int) (offset : Nat)
  | detachedArguments (name : String) (offset : Nat)
  deriving DecidableEq

inductive Found
  | type (t : DeclaredType)
  | nonSingularQuery
  | literal
  deriving DecidableEq

def Found.name : Found → String
  | type t => t.name
  | nonSingularQuery => "non-singular query"
  | literal => "literal"

inductive TypeFault
  | unknownFunction (name : String) (offset : Nat)
  | argumentCount (function : Function) (given : Nat) (offset : Nat)
  | argumentType (place : Nat) (function : Function) (expected : DeclaredType) (found : Found)
      (offset : Nat)
  | nonSingularComparison (offset : Nat)
  | incomparableCall (function : Function) (offset : Nat)
  | valueAsTest (function : Function)
  deriving DecidableEq

namespace SyntaxFault

def message : SyntaxFault → String
  | unexpected text _ => "unexpected " ++ quoted (String.ofList text)
  | unexpectedEnd _ => "unexpected end of query"
  | tooDeep limit _ => "maximum expression depth (" ++ toString limit ++ ") exceeded"
  | integerOutOfRange value _ => "integer " ++ toString value ++ " is out of range"
  | detachedArguments name _ => "function name " ++ name ++ " must be followed directly by '('"

def offset : SyntaxFault → Nat
  | unexpected _ offset => offset
  | unexpectedEnd offset => offset
  | tooDeep _ offset => offset
  | integerOutOfRange _ offset => offset
  | detachedArguments _ offset => offset

end SyntaxFault

namespace TypeFault

def message : TypeFault → String
  | unknownFunction name _ => "unknown function " ++ name ++ "()"
  | argumentCount f given _ =>
    f.name ++ "() takes " ++ toString f.arity ++ " argument(s), got " ++ toString given
  | argumentType place f expected found _ =>
    "argument " ++ toString place ++ " of " ++ f.name ++ "() must be " ++ expected.name
      ++ ", got " ++ found.name
  | nonSingularComparison _ => "non-singular query used in comparison"
  | incomparableCall f _ => f.name ++ "() returns " ++ f.result.name ++ " and cannot be compared"
  | valueAsTest f => "result of " ++ f.name ++ "() must be compared, it cannot be used as a test"

/-- A value that is used as a test is reported without a place. -/
def offset? : TypeFault → Option Nat
  | unknownFunction _ offset => some offset
  | argumentCount _ _ offset => some offset
  | argumentType _ _ _ _ offset => some offset
  | nonSingularComparison offset => some offset
  | incomparableCall _ offset => some offset
  | valueAsTest _ => none

end TypeFault

inductive ParseFault
  | scan (cause : ScanCause) (offset : Nat)
  | syntactic (fault : SyntaxFault)
  | typing (fault : TypeFault)
  deriving DecidableEq

namespace ParseFault

def offset? : ParseFault → Option Nat
  | scan _ offset => some offset
  | syntactic fault => some fault.offset
  | typing fault => fault.offset?

def message (fault : ParseFault) : String :=
  let cause := match fault with
    | scan cause _ => cause.message
    | syntactic fault => fault.message
    | typing fault => fault.message
  let place := match fault.offset? with
    | some offset => " at offset " ++ toString offset
    | none => ""
  "Invalid JSONPath query: " ++ cause ++ place

end ParseFault

/-- An integer literal with too many digits is refused apart from the faults of a query. -/
inductive ParseError
  | fault (fault : ParseFault)
  | integerTooLong (digits : Nat)
  deriving DecidableEq

end JsonPath
