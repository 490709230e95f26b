import JsonPath.Evaluation.Compare

namespace JsonPath

/-- What a function is given: one value at most, or a list of nodes. -/
inductive Passed
  | one (d : Denoted)
  | nodes (ns : List Node)

def utf16Length (s : String) : Nat := s.length + (s.toList.filter fun c => 0xFFFF < c.toNat).length

namespace Function

/-- Texts have a length in UTF-16 code units, and containers a number of children. -/
def lengthOf : Passed → Denoted
  | .one (.value (.string s) _) => .ofNat (utf16Length s)
  | .one (.value (.array items) _) => .ofNat items.length
  | .one (.value (.object members) _) => .ofNat members.length
  | .nodes ns => .ofNat ns.length
  | _ => .nothing

def countOf : Passed → Denoted
  | .nodes ns => .ofNat ns.length
  | .one (.value (.array items) _) => .ofNat items.length
  | _ => .ofNat 0

def valueOf : Passed → Denoted
  | .nodes ns => .ofNodes ns
  | _ => .nothing

/-- Only a text matches, and only a text is a pattern. -/
def matchOf (options : Options) (anchored : Bool) : Passed → Passed → Eval Denoted
  | .one (.value (.string text) _), .one (.value (.string source) _) =>
    return .ofBool (← Eval.runPattern options source text anchored)
  | _, _ => return .ofBool false

def apply (options : Options) (f : Function) (arguments : List Passed) : Eval Denoted :=
  match f, arguments with
  | length, [a] => return lengthOf a
  | count, [a] => return countOf a
  | value, [a] => return valueOf a
  | fullMatch, [text, source] => matchOf options true text source
  | search, [text, source] => matchOf options false text source
  | _, _ => throw (.argumentCount f arguments.length)

end Function

/-- A call used as a test holds if its result is true, or an array with items. -/
def Denoted.isTrue : Denoted → Bool
  | value (.bool b) _ => b
  | value (.array items) _ => !items.isEmpty
  | _ => false

end JsonPath
