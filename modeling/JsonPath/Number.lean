import JsonPath.Double.Shortest

namespace JsonPath

attribute [local instance] corePow

/-- A JSON number keeps the form it was written in: whole numbers have any size, and all others are
binary64. -/
inductive Number
  | int (value : Int)
  | double (value : Double)
  deriving DecidableEq

/-- A point of the number line in steps of `2 ^ -1074`, with a point beyond each end. -/
inductive Place
  | below
  | steps (count : Int)
  | above
  deriving DecidableEq

namespace Place

def lt : Place → Place → Bool
  | below, below => false
  | below, _ => true
  | steps a, steps b => a < b
  | steps _, above => true
  | _, _ => false

end Place

namespace Number

def place? : Number → Option Place
  | int n => some (.steps (n * 2 ^ (1074 : Nat)))
  | double (.finite s e f) =>
    some (.steps (if s then -(Double.steps e f : Int) else Double.steps e f))
  | double (.infinite s) => some (if s then .below else .above)
  | double .nan => none

def same (a b : Number) : Bool :=
  match a.place?, b.place? with
  | some x, some y => x = y
  | _, _ => false

def less (a b : Number) : Bool :=
  match a.place?, b.place? with
  | some x, some y => x.lt y
  | _, _ => false

end Number

end JsonPath
