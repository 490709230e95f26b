import JsonPath.Text.Quoted
import JsonPath.Value

namespace JsonPath

namespace Value

mutual

/-- A value as log lines show it: with quoted texts, and with names for null and the truth values. -/
def shown : Value → String
  | null => "None"
  | bool b => if b then "True" else "False"
  | number (.int n) => toString n
  | number (.double d) => d.text
  | string s => quoted s
  | array [] => "[]"
  | array (v :: vs) => "[" ++ v.shown ++ shownItems vs ++ "]"
  | object [] => "\x7b\x7d"
  | object ((name, v) :: ms) =>
    "\x7b" ++ quoted name ++ ": " ++ v.shown ++ shownMembers ms ++ "\x7d"

def shownItems : List Value → String
  | [] => ""
  | v :: vs => ", " ++ v.shown ++ shownItems vs

def shownMembers : List (String × Value) → String
  | [] => ""
  | (name, v) :: ms => ", " ++ quoted name ++ ": " ++ v.shown ++ shownMembers ms

end

end Value

end JsonPath
