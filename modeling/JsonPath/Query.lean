import JsonPath.Function
import JsonPath.Value

namespace JsonPath

/-- Comparison operators. One that the language does not have keeps its symbol. -/
inductive Comparison
  | eq | ne | lt | le | gt | ge
  | other (symbol : String)
  deriving DecidableEq

namespace Comparison

def symbol : Comparison → String
  | eq => "=="
  | ne => "!="
  | lt => "<"
  | le => "<="
  | gt => ">"
  | ge => ">="
  | other symbol => symbol

def ofSymbol (symbol : String) : Comparison :=
  match symbol with
  | "==" => eq
  | "!=" => ne
  | "<" => lt
  | "<=" => le
  | ">" => gt
  | ">=" => ge
  | _ => other symbol

end Comparison

inductive Anchor
  | root
  | current
  deriving DecidableEq

def Anchor.symbol : Anchor → String
  | root => "$"
  | current => "@"

mutual

inductive Selector
  | name (name : String)
  | wildcard
  | index (index : Int)
  | slice (start stop step : Option Int)
  | filter (condition : Condition)

/-- Selectors that are applied to the nodes reached so far, or to them and all below them. -/
inductive Segment
  | child (selectors : List Selector)
  | descendant (selectors : List Selector)

inductive Query
  | mk (anchor : Anchor) (segments : List Segment)

/-- A logical expression. `selects` holds where its query selects a node. -/
inductive Condition
  | any (operands : List Condition)
  | all (operands : List Condition)
  | negation (operand : Condition)
  | compare (operator : Comparison) (left right : Operand)
  | selects (query : Query)
  | call (function : Function) (arguments : List Argument)

inductive Operand
  | literal (value : Value)
  | query (query : Query)
  | call (function : Function) (arguments : List Argument)

inductive Argument
  | literal (value : Value)
  | query (query : Query)
  | condition (condition : Condition)

end

namespace Segment

def selectors : Segment → List Selector
  | child ss => ss
  | descendant ss => ss

def isSingular : Segment → Bool
  | child [.name _] => true
  | child [.index _] => true
  | _ => false

end Segment

namespace Query

def anchor : Query → Anchor
  | mk anchor _ => anchor

def segments : Query → List Segment
  | mk _ segments => segments

def isSingular (q : Query) : Bool := q.segments.all (·.isSingular)

end Query

end JsonPath
