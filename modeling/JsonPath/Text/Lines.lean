namespace JsonPath

/-- The characters that end a line. A carriage return and a line feed together end one line. -/
def isLineBreak (c : Char) : Bool :=
  let n := c.toNat
  (0x0A ≤ n && n ≤ 0x0D) || (0x1C ≤ n && n ≤ 0x1E) || n == 0x85 || n == 0x2028 || n == 0x2029

def splitLine : List Char → List Char × Option (List Char)
  | [] => ([], none)
  | '\r' :: '\n' :: rest => ([], some rest)
  | c :: rest =>
    if isLineBreak c then ([], some rest)
    else
      let (line, following) := splitLine rest
      (c :: line, following)

/-- The lines of a text. No line follows a break at the very end. -/
def linesFrom : Nat → List Char → List (List Char)
  | 0, _ => []
  | _, [] => []
  | fuel + 1, text =>
    match splitLine text with
    | (line, some rest) => line :: linesFrom fuel rest
    | (line, none) => [line]

def lines (text : List Char) : List (List Char) := linesFrom text.length text

/-- The line of an offset and its column there, both counted from one. Only a line feed ends a line
here. -/
def lineAndColumn (text : List Char) (offset : Nat) : Nat × Nat :=
  let before := text.take offset
  (before.count '\n' + 1, (before.reverse.takeWhile (· ≠ '\n')).length + 1)

end JsonPath
