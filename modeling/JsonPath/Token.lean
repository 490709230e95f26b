import JsonPath.Number

namespace JsonPath

inductive TokenKind
  | root | current | dot | dotdot | lbracket | rbracket | lparen | rparen | colon | comma
  | wildcard | question | not | and | or | eq | ne | lt | le | gt | ge
  | string (value : String)
  | number (value : Number)
  | name (value : String)
  | true | false | null
  | eof
  deriving DecidableEq

/-- A token with the offset of its first character and the characters it covers. -/
structure Token where
  kind : TokenKind
  offset : Nat
  text : List Char
  deriving DecidableEq

namespace Token

def stop (t : Token) : Nat := t.offset + t.text.length

/-- A number in integer form, other than minus zero. -/
def isInteger (t : Token) : Bool :=
  match t.kind with
  | .number _ => t.text != ['-', '0'] && !t.text.any fun c => c == '.' || c == 'e' || c == 'E'
  | _ => Bool.false

end Token

end JsonPath
