namespace JsonPath

inductive DeclaredType
  | value
  | logical
  | nodes
  deriving DecidableEq

def DeclaredType.name : DeclaredType → String
  | value => "ValueType"
  | logical => "LogicalType"
  | nodes => "NodesType"

inductive Function
  | length
  | count
  | fullMatch
  | search
  | value
  deriving DecidableEq

namespace Function

def all : List Function := [length, count, fullMatch, search, value]

def name : Function → String
  | length => "length"
  | count => "count"
  | fullMatch => "match"
  | search => "search"
  | value => "value"

def ofName? (name : String) : Option Function := all.find? (·.name = name)

def parameters : Function → List DeclaredType
  | length => [.value]
  | count => [.nodes]
  | fullMatch => [.value, .value]
  | search => [.value, .value]
  | value => [.nodes]

def result : Function → DeclaredType
  | length => .value
  | count => .value
  | fullMatch => .logical
  | search => .logical
  | value => .value

def arity (f : Function) : Nat := f.parameters.length

end Function

end JsonPath
