import JsonPath.Value

namespace JsonPath

inductive Step
  | member (name : String)
  | index (position : Int)
  deriving DecidableEq

/-- The steps from the root of a document to a place in it. -/
abbrev Location := List Step

namespace Value

def child? (v : Value) : Step → Option Value
  | .member name => v.member? name
  | .index position => v.item? position

def at? (v : Value) : Location → Option Value
  | [] => some v
  | step :: rest => (v.child? step).bind (·.at? rest)

end Value

/-- A character of a member name as a normalized path writes it. -/
def escapeChar (c : Char) : List Char :=
  if c = '\\' then ['\\', '\\']
  else if c = '\'' then ['\\', '\'']
  else if c = '\x08' then ['\\', 'b']
  else if c = '\x0c' then ['\\', 'f']
  else if c = '\n' then ['\\', 'n']
  else if c = '\r' then ['\\', 'r']
  else if c = '\t' then ['\\', 't']
  else if c.toNat ≤ 0x1F then
    '\\' :: 'u' :: '0' :: '0' :: [Nat.digitChar (c.toNat / 16), Nat.digitChar (c.toNat % 16)]
  else [c]

def escapeName (name : String) : String := String.ofList (name.toList.flatMap escapeChar)

def Step.text : Step → String
  | .member name => "['" ++ escapeName name ++ "']"
  | .index position => "[" ++ toString position ++ "]"

/-- The normalized path of a location. -/
def Location.text (location : Location) : String :=
  "$" ++ String.join (location.map Step.text)

end JsonPath
