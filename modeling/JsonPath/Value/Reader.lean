import JsonPath.Number.Numeral
import JsonPath.Text.Lines
import JsonPath.Value

namespace JsonPath

namespace Value

inductive ReadCause
  | byteOrderMark
  | value
  | extraData
  | nameOrClose
  | colon
  | comma
  | openString
  | controlCharacter
  | escape
  | unicodeEscape
  deriving DecidableEq

def ReadCause.message : ReadCause → String
  | byteOrderMark => "Unexpected UTF-8 BOM (decode using utf-8-sig)"
  | value => "Expecting value"
  | extraData => "Extra data"
  | nameOrClose => "Expecting property name enclosed in double quotes"
  | colon => "Expecting ':' delimiter"
  | comma => "Expecting ',' delimiter"
  | openString => "Unterminated string starting at"
  | controlCharacter => "Invalid control character at"
  | escape => "Invalid \\escape"
  | unicodeEscape => "Invalid \\uXXXX escape"

inductive ReadError
  | malformed (cause : ReadCause) (offset : Nat)
  | integerTooLong (digits : Nat)
  deriving DecidableEq

def ReadCause.located (cause : ReadCause) (text : String) (offset : Nat) : String :=
  let (line, column) := lineAndColumn text.toList offset
  cause.message ++ ": line " ++ toString line ++ " column " ++ toString column
    ++ " (char " ++ toString offset ++ ")"

namespace Reader

def isBlank (c : Char) : Bool := c == ' ' || c == '\t' || c == '\n' || c == '\r'

def skipBlanks (c : Cursor) : Cursor := c.skipWhile isBlank

def fail {α : Type} (cause : ReadCause) (offset : Nat) : Except ReadError α :=
  .error (.malformed cause offset)

def simpleEscape? : Char → Option Char
  | '"' => some '"'
  | '\\' => some '\\'
  | '/' => some '/'
  | 'b' => some '\x08'
  | 'f' => some '\x0c'
  | 'n' => some '\n'
  | 'r' => some '\r'
  | 't' => some '\t'
  | _ => none

/-- The character that a code unit alone stands for. An escaped surrogate without its other half is read as
U+FFFD, as strings hold scalar values only, so names and strings that differ in such halves alone come
together. -/
def unitChar (unit : Nat) : Char := if Nat.isValidChar unit then Char.ofNat unit else '\uFFFD'

/-- The characters up to the closing quote. `start` is where the string began and `offset` counts the
characters before the text. Four hexadecimal digits are never the last of the text, and two surrogates
in a row are one character. -/
def content (start : Nat) : Nat → List Char → Except ReadError (List Char × Cursor)
  | _, [] => fail .openString start
  | offset, '"' :: rest => .ok ([], ⟨offset + 1, rest⟩)
  | _, ['\\'] => fail .openString start
  | offset, '\\' :: 'u' :: a :: b :: c :: d :: rest =>
    if rest.isEmpty then fail .unicodeEscape (offset + 1) else
    match hexValue? [a, b, c, d] with
    | none => fail .unicodeEscape (offset + 1)
    | some high =>
      let alone (_ : Unit) := do
        let (text, cursor) ← content start (offset + 6) rest
        return (unitChar high :: text, cursor)
      if isHighSurrogate high then
        match rest with
        | '\\' :: 'u' :: a :: b :: c :: d :: rest =>
          if rest.isEmpty then alone () else
          match hexValue? [a, b, c, d] with
          | none => fail .unicodeEscape (offset + 7)
          | some low =>
            if isLowSurrogate low then do
              let (text, cursor) ← content start (offset + 12) rest
              return (Char.ofNat (joinSurrogates high low) :: text, cursor)
            else alone ()
        | _ => alone ()
      else alone ()
  | offset, '\\' :: c :: rest =>
    if c = 'u' then fail .unicodeEscape (offset + 1) else
    match simpleEscape? c with
    | none => fail .escape offset
    | some meaning => do
      let (text, cursor) ← content start (offset + 2) rest
      return (meaning :: text, cursor)
  | offset, c :: rest =>
    if c.toNat ≤ 0x1F then fail .controlCharacter offset else do
      let (text, cursor) ← content start (offset + 1) rest
      return (c :: text, cursor)

def string (c : Cursor) : Except ReadError (String × Cursor) := do
  let (text, cursor) ← content (c.offset - 1) c.offset c.rest
  return (String.ofList text, cursor)

/-- The literals, among them three that are no JSON but are read all the same. -/
def literals : List (List Char × Value) := [
  ("null".toList, .null),
  ("true".toList, .bool true),
  ("false".toList, .bool false),
  ("NaN".toList, .number (.double .nan)),
  ("Infinity".toList, .number (.double (.infinite false))),
  ("-Infinity".toList, .number (.double (.infinite true)))]

def literal? (c : Cursor) : Option (Value × Cursor) :=
  (literals.find? fun (text, _) => text.isPrefixOf c.rest).map fun (text, value) =>
    (value, c.advance text.length)

def number (c : Cursor) : Except ReadError (Value × Cursor) :=
  match Numeral.read? c.rest with
  | none => fail .value c.offset
  | some lexeme =>
    let cursor := ⟨c.offset + lexeme.text.length, lexeme.rest⟩
    if lexeme.value.isPlain then
      if lexeme.value.whole.length > maxIntegerDigits then
        .error (.integerTooLong lexeme.value.whole.length)
      else .ok (.int lexeme.value.toInt, cursor)
    else .ok (.number (.double lexeme.value.toDouble), cursor)

mutual

/-- A value at the cursor. Two steps into a value or on to the next one use up some text, so twice the
length of the text is fuel enough. -/
def value : Nat → Cursor → Except ReadError (Value × Cursor)
  | 0, c => fail .value c.offset
  | fuel + 1, c =>
    match c.rest with
    | '"' :: rest => do
      let (text, cursor) ← string ⟨c.offset + 1, rest⟩
      return (.string text, cursor)
    | '{' :: rest =>
      let c := skipBlanks ⟨c.offset + 1, rest⟩
      match c.rest with
      | '}' :: rest => .ok (.object [], ⟨c.offset + 1, rest⟩)
      | _ => do
        let (ms, cursor) ← members fuel c
        return (.object (ms.foldl (fun acc (name, v) => putMember name v acc) []), cursor)
    | '[' :: rest =>
      let c := skipBlanks ⟨c.offset + 1, rest⟩
      match c.rest with
      | ']' :: rest => .ok (.array [], ⟨c.offset + 1, rest⟩)
      | _ => do
        let (vs, cursor) ← items fuel c
        return (.array vs, cursor)
    | _ =>
      match literal? c with
      | some result => .ok result
      | none => number c

def items : Nat → Cursor → Except ReadError (List Value × Cursor)
  | 0, c => fail .value c.offset
  | fuel + 1, c => do
    let (v, c) ← value fuel c
    let c := skipBlanks c
    match c.rest with
    | ']' :: rest => return ([v], ⟨c.offset + 1, rest⟩)
    | ',' :: rest => do
      let (vs, c) ← items fuel (skipBlanks ⟨c.offset + 1, rest⟩)
      return (v :: vs, c)
    | _ => fail .comma c.offset

def members : Nat → Cursor → Except ReadError (List (String × Value) × Cursor)
  | 0, c => fail .nameOrClose c.offset
  | fuel + 1, c => do
    match c.rest with
    | '"' :: rest => do
      let (name, c) ← string ⟨c.offset + 1, rest⟩
      let c := skipBlanks c
      match c.rest with
      | ':' :: rest => do
        let (v, c) ← value fuel (skipBlanks ⟨c.offset + 1, rest⟩)
        let c := skipBlanks c
        match c.rest with
        | '}' :: rest => return ([(name, v)], ⟨c.offset + 1, rest⟩)
        | ',' :: rest => do
          let (ms, c) ← members fuel (skipBlanks ⟨c.offset + 1, rest⟩)
          return ((name, v) :: ms, c)
        | _ => fail .comma c.offset
      | _ => fail .colon c.offset
    | _ => fail .nameOrClose c.offset

end

end Reader

def read (text : String) : Except ReadError Value :=
  let start := Cursor.ofString text
  match start.rest with
  | '\uFEFF' :: _ => .error (.malformed .byteOrderMark 0)
  | _ => do
    let (v, c) ← Reader.value (2 * start.rest.length + 1) (Reader.skipBlanks start)
    let c := Reader.skipBlanks c
    if c.rest.isEmpty then return v else .error (.malformed .extraData c.offset)

end Value

end JsonPath
