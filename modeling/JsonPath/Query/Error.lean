import JsonPath.Options
import JsonPath.Query.Fault
import JsonPath.Text.Lines

namespace JsonPath

inductive Fault
  | parse (fault : ParseFault)
  | excess (e : Excess)
  | unsupportedComparison (symbol : String)
  deriving DecidableEq

namespace Fault

def message : Fault → String
  | parse fault => fault.message
  | excess e => e.message
  | unsupportedComparison symbol => "Unsupported comparison operator: " ++ symbol

def offset? : Fault → Option Nat
  | parse fault => fault.offset?
  | _ => none

end Fault

structure QueryError where
  fault : Fault
  query : Option String
  deriving DecidableEq

namespace Caret

/-- The line that an offset falls into, and the offset within it. Each line is followed by one
character, and an offset beyond the last line falls at its end. -/
def locate : List (List Char) → Int → List Char × Int
  | [], _ => ([], 0)
  | [line], offset => (line, min offset line.length)
  | line :: rest, offset =>
    if offset ≤ line.length then (line, offset) else locate rest (offset - (line.length + 1))

def point (message : String) (offset : Int) (query : String) : String :=
  let (line, column) := locate (lines query.toList) offset
  let pointer := List.replicate column.toNat ' ' ++ ['^']
  message ++ "\n\n" ++ String.ofList line ++ "\n" ++ String.ofList pointer

def format (message : String) (offset? : Option Int) (query? : Option String) : String :=
  match query?, offset? with
  | some query, some offset => point message offset query
  | _, _ => message

end Caret

namespace QueryError

def message (e : QueryError) : String := e.fault.message

def offset? (e : QueryError) : Option Nat := e.fault.offset?

def withQuery (e : QueryError) (query : String) : QueryError :=
  { e with query := e.query.or (some query) }

def formatted (e : QueryError) : String :=
  Caret.format e.message (e.offset?.map Int.ofNat) e.query

end QueryError

end JsonPath
