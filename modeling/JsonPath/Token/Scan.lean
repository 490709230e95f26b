import JsonPath.Number.Numeral
import JsonPath.Text.Quoted
import JsonPath.Token

namespace JsonPath

inductive ScanCause
  | unexpectedCharacter (c : Char)
  | lonelyOperator (c : Char)
  | shorthandExpected (afterDescent : Bool)
  | shorthandAfterBlank (afterDescent : Bool)
  | shorthandAtEnd (afterDescent : Bool)
  | openString
  | controlCharacter
  | openEscape
  | invalidEscape (c : Char)
  | unicodeEscape
  | unpairedLowSurrogate
  | missingLowSurrogate
  | invalidLowSurrogate
  | digitExpected
  | leadingZero
  | fractionExpected
  | exponentExpected
  deriving DecidableEq

namespace ScanCause

def shorthand (afterDescent : Bool) : String :=
  if afterDescent then "member name, '*' or '['" else "member name or '*'"

def message : ScanCause → String
  | unexpectedCharacter c => "unexpected character " ++ quoted (String.singleton c)
  | lonelyOperator c => "expected '" ++ String.ofList [c, c] ++ "'"
  | shorthandExpected d => "expected " ++ shorthand d
  | shorthandAfterBlank d => "whitespace is not allowed here, expected " ++ shorthand d
  | shorthandAtEnd d => "unexpected end of query, expected " ++ shorthand d
  | openString => "unterminated string literal"
  | controlCharacter => "control character in string literal"
  | openEscape => "unterminated escape sequence"
  | invalidEscape c => "invalid escape sequence '\\" ++ String.singleton c ++ "'"
  | unicodeEscape => "invalid unicode escape"
  | unpairedLowSurrogate => "unpaired low surrogate in unicode escape"
  | missingLowSurrogate => "high surrogate must be followed by a low surrogate"
  | invalidLowSurrogate => "invalid low surrogate in unicode escape"
  | digitExpected => "expected digit"
  | leadingZero => "leading zeros are not allowed"
  | fractionExpected => "expected digit after decimal point"
  | exponentExpected => "expected digit in exponent"

end ScanCause

/-- A numeral in integer form with too many digits is refused apart from the rules of the language. -/
inductive ScanError
  | malformed (cause : ScanCause) (offset : Nat)
  | integerTooLong (digits : Nat)
  deriving DecidableEq

namespace Token

namespace Scan

def fail {α : Type} (cause : ScanCause) (offset : Nat) : Except ScanError α :=
  .error (.malformed cause offset)

def isBlank (c : Char) : Bool := c == ' ' || c == '\t' || c == '\n' || c == '\r'

/-- ASCII letters, the underscore, and every character beyond ASCII. -/
def isNameFirst (c : Char) : Bool := c.isAlpha || c == '_' || 0x80 ≤ c.toNat

def isNameChar (c : Char) : Bool := isNameFirst c || c.isDigit

/-- What a backslash and one letter stand for; each quote is escaped only inside its own kind. -/
def simpleEscape? (quote : Char) : Char → Option Char
  | 'b' => some '\x08'
  | 'f' => some '\x0c'
  | 'n' => some '\n'
  | 'r' => some '\r'
  | 't' => some '\t'
  | '/' => some '/'
  | '\\' => some '\\'
  | c => if c = quote then some c else none

def badHexOffset (offset : Nat) (text : List Char) : Nat :=
  offset + ((text.take 4).takeWhile fun c => (hexDigit? c).isSome).length

/-- The characters of a string up to its closing quote, with their spelling. `offset` counts the
characters before the text. -/
def content (quote : Char) : Nat → List Char → Except ScanError (Lexeme (List Char))
  | offset, [] => fail .openString offset
  | offset, '\\' :: 'u' :: text =>
    match text with
    | a :: b :: c :: d :: rest =>
      match hexValue? [a, b, c, d] with
      | none => fail .unicodeEscape (badHexOffset (offset + 2) text)
      | some unit =>
        if isLowSurrogate unit then fail .unpairedLowSurrogate offset
        else if isHighSurrogate unit then
          match rest with
          | '\\' :: 'u' :: text =>
            match text with
            | e :: f :: g :: h :: rest =>
              match hexValue? [e, f, g, h] with
              | none => fail .unicodeEscape (badHexOffset (offset + 8) text)
              | some low =>
                if isLowSurrogate low then do
                  let l ← content quote (offset + 12) rest
                  return ⟨Char.ofNat (joinSurrogates unit low) :: l.value,
                    '\\' :: 'u' :: a :: b :: c :: d :: '\\' :: 'u' :: e :: f :: g :: h :: l.text,
                    l.rest⟩
                else fail .invalidLowSurrogate (offset + 8)
            | _ => fail .unicodeEscape (badHexOffset (offset + 8) text)
          | _ => fail .missingLowSurrogate (offset + 6)
        else do
          let l ← content quote (offset + 6) rest
          return ⟨Char.ofNat unit :: l.value, '\\' :: 'u' :: a :: b :: c :: d :: l.text, l.rest⟩
    | _ => fail .unicodeEscape (badHexOffset (offset + 2) text)
  | offset, ['\\'] => fail .openEscape (offset + 1)
  | offset, '\\' :: c :: rest =>
    match simpleEscape? quote c with
    | none => fail (.invalidEscape c) offset
    | some meaning => do
      let l ← content quote (offset + 2) rest
      return ⟨meaning :: l.value, '\\' :: c :: l.text, l.rest⟩
  | offset, c :: rest =>
    if c = quote then .ok ⟨[], [c], rest⟩
    else if c.toNat ≤ 0x1F then fail .controlCharacter offset
    else do
      let l ← content quote (offset + 1) rest
      return ⟨c :: l.value, c :: l.text, l.rest⟩

/-- What makes the text after a numeral refuse it: a digit after a zero, a point without digits, or an
exponent mark without digits. -/
def afterNumeral (numeral : Numeral) (offset : Nat) : List Char → Except ScanError Unit
  | [] => .ok ()
  | c :: rest =>
    if c.isDigit && numeral.isPlain then fail .leadingZero offset
    else if c = '.' && numeral.isPlain then fail .fractionExpected (offset + 1)
    else if (c = 'e' || c = 'E') && numeral.exponent.isNone then
      fail .exponentExpected (offset + 1 + (Numeral.exponentSign rest).1.length)
    else .ok ()

/-- The value of a numeral: whole in integer form, and otherwise binary64. Minus zero is binary64. -/
def numberValue (numeral : Numeral) : Except ScanError Number :=
  if numeral.isPlain && !numeral.isMinusZero then
    if numeral.whole.length > maxIntegerDigits then .error (.integerTooLong numeral.whole.length)
    else .ok (.int numeral.toInt)
  else .ok (.double numeral.toDouble)

def number (offset : Nat) (text : List Char) : Except ScanError (Lexeme Number) :=
  match Numeral.read? text with
  | none => fail .digitExpected (offset + 1)
  | some l => do
    afterNumeral l.value (offset + l.text.length) l.rest
    let value ← numberValue l.value
    return { value, text := l.text, rest := l.rest }

def name (c : Char) (text : List Char) : Lexeme String :=
  let (tail, rest) := text.span isNameChar
  ⟨String.ofList (c :: tail), c :: tail, rest⟩

def keyword (name : String) : TokenKind :=
  if name = "true" then .true
  else if name = "false" then .false
  else if name = "null" then .null
  else .name name

def single? : Char → Option TokenKind
  | '$' => some .root
  | '@' => some .current
  | '[' => some .lbracket
  | ']' => some .rbracket
  | '(' => some .lparen
  | ')' => some .rparen
  | ':' => some .colon
  | ',' => some .comma
  | '*' => some .wildcard
  | '?' => some .question
  | _ => none

def operator (offset : Nat) (c : Char) (text : List Char) : Except ScanError (Lexeme TokenKind) :=
  match c, text with
  | '=', '=' :: rest => .ok ⟨.eq, ['=', '='], rest⟩
  | '!', '=' :: rest => .ok ⟨.ne, ['!', '='], rest⟩
  | '<', '=' :: rest => .ok ⟨.le, ['<', '='], rest⟩
  | '>', '=' :: rest => .ok ⟨.ge, ['>', '='], rest⟩
  | '&', '&' :: rest => .ok ⟨.and, ['&', '&'], rest⟩
  | '|', '|' :: rest => .ok ⟨.or, ['|', '|'], rest⟩
  | '!', _ => .ok ⟨.not, ['!'], text⟩
  | '<', _ => .ok ⟨.lt, ['<'], text⟩
  | '>', _ => .ok ⟨.gt, ['>'], text⟩
  | _, _ =>
    if c = '=' ∨ c = '&' ∨ c = '|' then fail (.lonelyOperator c) (offset + 1)
    else fail (.unexpectedCharacter c) offset

def lexeme (offset : Nat) (c : Char) (text : List Char) : Except ScanError (Lexeme TokenKind) :=
  match single? c with
  | some kind => .ok ⟨kind, [c], text⟩
  | none =>
    if c = '"' ∨ c = '\'' then do
      let l ← content c (offset + 1) text
      return ⟨.string (String.ofList l.value), c :: l.text, l.rest⟩
    else if c = '-' ∨ c.isDigit then do
      let l ← number offset (c :: text)
      return ⟨.number l.value, l.text, l.rest⟩
    else if isNameFirst c then
      let l := name c text
      .ok ⟨keyword l.value, l.text, l.rest⟩
    else operator offset c text

/-- What follows a dot or two with nothing between. A bracket after two dots is left to be scanned. -/
def shorthand (afterDescent : Bool) (offset : Nat) :
    List Char → Except ScanError (List Token × List Char)
  | [] => fail (.shorthandAtEnd afterDescent) offset
  | c :: rest =>
    if c = '*' then .ok ([⟨.wildcard, offset, ['*']⟩], rest)
    else if c = '[' ∧ afterDescent then .ok ([], c :: rest)
    else if isNameFirst c then
      let l := name c rest
      .ok ([⟨.name l.value, offset, l.text⟩], l.rest)
    else if isBlank c then fail (.shorthandAfterBlank afterDescent) offset
    else fail (.shorthandExpected afterDescent) offset

/-- The tokens that begin with a given character: two where a dot is followed by its name or wildcard,
and otherwise one. -/
def step (offset : Nat) (c : Char) (text : List Char) :
    Except ScanError (List Token × List Char) :=
  if c = '.' then
    match text with
    | '.' :: rest => do
      let (ts, rest) ← shorthand true (offset + 2) rest
      return (⟨.dotdot, offset, ['.', '.']⟩ :: ts, rest)
    | _ => do
      let (ts, rest) ← shorthand false (offset + 1) text
      return (⟨.dot, offset, ['.']⟩ :: ts, rest)
  else do
    let l ← lexeme offset c text
    return ([⟨l.value, offset, l.text⟩], l.rest)

/-- The tokens of a text with `offset` characters before it, the end last. Each step takes a character
or more, so the length of the text is fuel enough. -/
def scanFrom : Nat → Nat → List Char → Except ScanError (List Token)
  | _, offset, [] => .ok [⟨.eof, offset, []⟩]
  | 0, offset, _ => .ok [⟨.eof, offset, []⟩]
  | fuel + 1, offset, c :: text =>
    if isBlank c then scanFrom fuel (offset + 1) text
    else do
      let (ts, rest) ← step offset c text
      let length := (ts.flatMap (·.text)).length
      let more ← scanFrom fuel (offset + length) rest
      return ts ++ more

end Scan

def scan (text : List Char) : Except ScanError (List Token) := Scan.scanFrom text.length 0 text

end Token

end JsonPath
