namespace JsonPath

namespace Markup

def isTagFirst (c : Char) : Bool := ('a' ≤ c && c ≤ 'z') || c == '#' || c == '/' || c == '@'

/-- Whether the text after a bracket makes it a tag: one that closes before the next bracket opens. -/
def opensTag : List Char → Bool
  | [] => false
  | c :: rest =>
    isTagFirst c && ((rest.dropWhile fun d => d != '[' && d != ']').head? == some ']')

def backslashes (n : Nat) : List Char := List.replicate n '\\'

/-- Backslashes before a tag are doubled and one more is added. `held` counts those just before the
text. -/
def escapeFrom : Nat → List Char → List Char
  | held, [] => backslashes held
  | held, c :: rest =>
    if c = '\\' then escapeFrom (held + 1) rest
    else if c = '[' ∧ opensTag rest then
      backslashes (2 * held + 1) ++ c :: escapeFrom 0 rest
    else backslashes held ++ c :: escapeFrom 0 rest

/-- A single backslash at the very end would escape what comes after the text. -/
def guardEnd (cs : List Char) : List Char :=
  if cs.reverse.takeWhile (· = '\\') = ['\\'] then cs ++ ['\\'] else cs

def escape (s : String) : String := String.ofList (guardEnd (escapeFrom 0 s.toList))

/-- Markup without its tags. Of the backslashes before a tag half are shown, and an odd one shows the
tag instead. `held` counts those just before the text, and `inTag` tells whether it begins in a tag. -/
def visibleFrom : Nat → Bool → List Char → List Char
  | held, _, [] => backslashes held
  | held, inTag, c :: rest =>
    if inTag then visibleFrom held (c != ']') rest
    else if c = '\\' then visibleFrom (held + 1) false rest
    else if c = '[' ∧ opensTag rest then
      if held % 2 = 1 then backslashes (held / 2) ++ c :: visibleFrom 0 false rest
      else backslashes (held / 2) ++ visibleFrom 0 true rest
    else backslashes held ++ c :: visibleFrom 0 false rest

def visible (s : String) : String := String.ofList (visibleFrom 0 false s.toList)

end Markup

def escapeText (s : String) (enabled : Bool) : String := if enabled then Markup.escape s else s

def styled (style s : String) (enabled : Bool) : String :=
  if enabled then "[" ++ style ++ "]" ++ Markup.escape s ++ "[/]" else s

def stylePath : String → Bool → String := styled "cyan"

def brightGreen : String → Bool → String := styled "bold green"

def brightRed : String → Bool → String := styled "bold red"

/-- Colours follow the flag, and without one whether the output is a terminal. -/
def useColor (flag : Option Bool) (terminal : Bool) : Bool := flag.getD terminal

end JsonPath
