import JsonPath.Report
import JsonPath.Report.Picture
import JsonPath.Text.Width

namespace JsonPath

namespace Console

/-- A text from a colon on: the code up to the next colon, if no white space comes before it, and what
follows that colon. -/
def code? (text : List Char) : Option (List Char × List Char) :=
  let (code, rest) := text.span fun c => c != ':' && !isBlankChar c
  match rest with
  | ':' :: rest => some (code, rest)
  | _ => none

/-- Shows codes as pictures. The colons around an unknown code belong to no other code. -/
def showPictures : Nat → List Char → List Char
  | 0, text => text
  | _, [] => []
  | fuel + 1, c :: text =>
    if c = ':' then
      match code? text with
      | none => c :: showPictures fuel text
      | some (code, rest) =>
        let shown := match Picture.ofCode? code with
          | some picture => picture.toList
          | none => ':' :: code ++ [':']
        shown ++ showPictures fuel rest
    else c :: showPictures fuel text

def isDropped (c : Char) : Bool :=
  c == '\x07' || c == '\x08' || c == '\x0b' || c == '\x0c' || c == '\r'

/-- Blanks in place of tabulators, up to the next multiple of eight columns. A piece between
tabulators is measured together with the first of these blanks; `piece` holds what was read of it, in
reverse, and `column` is where it begins. -/
def expandTabs : Nat → List Char → List Char → List Char
  | _, piece, [] => piece.reverse
  | column, piece, c :: rest =>
    if c = '\t' then
      let shown := (' ' :: piece).reverse
      let next := column + Width.ofText shown
      let fill := (8 - next % 8) % 8
      shown ++ List.replicate fill ' ' ++ expandTabs (next + fill) [] rest
    else if c = '\n' then piece.reverse ++ c :: expandTabs 0 [] rest
    else expandTabs column (c :: piece) rest

def plain (text : String) : String :=
  let shown := showPictures text.length text.toList
  String.ofList (expandTabs 0 [] (shown.filter (!isDropped ·))) ++ "\n"

/-- What a call adds to the output. Styles are not shown. -/
def output : ConsoleCall → String
  | .write text => text
  | .flush => ""
  | .print text markup => plain (if markup then Markup.visible text else text)
  | .highlight code _ => plain code

def outputAll (calls : List ConsoleCall) : String := String.join (calls.map output)

end Console

end JsonPath
