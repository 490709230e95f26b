import JsonPath.Value

namespace JsonPath

def Number.json : Number → String
  | .int n => toString n
  | .double .nan => "NaN"
  | .double (.infinite s) => if s then "-Infinity" else "Infinity"
  | .double d => d.text

namespace Value

namespace Writer

/-- A character inside a string. Only the quote, the backslash and the controls below the blank are
escaped. -/
def escapeChar (c : Char) : List Char :=
  if c = '"' then ['\\', '"']
  else if c = '\\' then ['\\', '\\']
  else if c = '\x08' then ['\\', 'b']
  else if c = '\x0c' then ['\\', 'f']
  else if c = '\n' then ['\\', 'n']
  else if c = '\r' then ['\\', 'r']
  else if c = '\t' then ['\\', 't']
  else if c.toNat < 0x20 then
    '\\' :: 'u' :: '0' :: '0' :: [Nat.digitChar (c.toNat / 16), Nat.digitChar (c.toNat % 16)]
  else [c]

def quote (s : String) : String := "\"" ++ String.ofList (s.toList.flatMap escapeChar) ++ "\""

/-- How a container is laid out: on one line, or with each item on a line of its own that is indented
by so many blanks a level. -/
inductive Layout
  | line
  | block (indent : Nat)

namespace Layout

def newline (indent depth : Nat) : String :=
  "\n" ++ String.ofList (List.replicate (indent * depth) ' ')

def opening : Layout → Nat → String
  | line, _ => ""
  | block indent, depth => newline indent (depth + 1)

def separator : Layout → Nat → String
  | line, _ => ", "
  | block indent, depth => "," ++ newline indent (depth + 1)

def closing : Layout → Nat → String
  | line, _ => ""
  | block indent, depth => newline indent depth

end Layout

mutual

def value (layout : Layout) (depth : Nat) : Value → String
  | .null => "null"
  | .bool b => if b then "true" else "false"
  | .number n => n.json
  | .string s => quote s
  | .array [] => "[]"
  | .array (v :: vs) =>
    "[" ++ layout.opening depth ++ value layout (depth + 1) v ++ items layout depth vs
      ++ layout.closing depth ++ "]"
  | .object [] => "\x7b\x7d"
  | .object ((name, v) :: ms) =>
    "\x7b" ++ layout.opening depth ++ quote name ++ ": " ++ value layout (depth + 1) v
      ++ members layout depth ms ++ layout.closing depth ++ "\x7d"

def items (layout : Layout) (depth : Nat) : List Value → String
  | [] => ""
  | v :: vs => layout.separator depth ++ value layout (depth + 1) v ++ items layout depth vs

def members (layout : Layout) (depth : Nat) : List (String × Value) → String
  | [] => ""
  | (name, v) :: ms =>
    layout.separator depth ++ quote name ++ ": " ++ value layout (depth + 1) v
      ++ members layout depth ms

end

end Writer

/-- The text of a value on one line. Every value that is read has one, so there is no failure here: what
cannot be written, as an integer of more than 4300 digits, is never read. -/
def write (v : Value) : String := Writer.value .line 0 v

def writeBlock (indent : Nat) (v : Value) : String := Writer.value (.block indent) 0 v

end Value

end JsonPath
