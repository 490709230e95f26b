namespace JsonPath

namespace Utf8

inductive Cause
  | start
  | continuation
  | truncated
  deriving DecidableEq

/-- Bytes that are no UTF-8: `first` is the place of the first of them and `bytes` holds them all. -/
structure Invalid where
  cause : Cause
  first : Nat
  bytes : List UInt8

def hexByte (b : UInt8) : String :=
  String.ofList [Nat.digitChar (b.toNat / 16), Nat.digitChar (b.toNat % 16)]

def Cause.message : Cause → String
  | .start => "invalid start byte"
  | .continuation => "invalid continuation byte"
  | .truncated => "unexpected end of data"

def Invalid.message (e : Invalid) : String :=
  let place := match e.bytes with
    | [b] => "byte 0x" ++ hexByte b ++ " in position " ++ toString e.first
    | bs => "bytes in position " ++ toString e.first ++ "-" ++ toString (e.first + bs.length - 1)
  "'utf-8' codec can't decode " ++ place ++ ": " ++ e.cause.message

/-- What a first byte announces: the bits it gives, how many bytes follow, and the range of the next.
The narrow ranges keep out long forms, surrogates and numbers beyond the last code point. -/
def lead? (b : UInt8) : Option (Nat × Nat × UInt8 × UInt8) :=
  if b < 0x80 then some (b.toNat, 0, 0x80, 0xBF)
  else if b < 0xC2 then none
  else if b < 0xE0 then some (b.toNat - 0xC0, 1, 0x80, 0xBF)
  else if b = 0xE0 then some (0, 2, 0xA0, 0xBF)
  else if b = 0xED then some (0xD, 2, 0x80, 0x9F)
  else if b < 0xF0 then some (b.toNat - 0xE0, 2, 0x80, 0xBF)
  else if b = 0xF0 then some (0, 3, 0x90, 0xBF)
  else if b = 0xF4 then some (4, 3, 0x80, 0x8F)
  else if b < 0xF4 then some (b.toNat - 0xF0, 3, 0x80, 0xBF)
  else none

/-- The character whose first byte has been read. `seen` holds the bytes read so far, last first. -/
def finish (first : Nat) (seen : List UInt8) :
    Nat → Nat → UInt8 → UInt8 → List UInt8 → Except Invalid (Char × List UInt8)
  | bits, 0, _, _, rest => .ok (Char.ofNat bits, rest)
  | _, _ + 1, _, _, [] => .error ⟨.truncated, first, seen.reverse⟩
  | bits, count + 1, low, high, b :: rest =>
    if low ≤ b ∧ b ≤ high then
      finish first (b :: seen) (bits * 64 + (b.toNat - 0x80)) count 0x80 0xBF rest
    else .error ⟨.continuation, first, seen.reverse⟩

def decodeFrom : Nat → Nat → List UInt8 → Except Invalid (List Char)
  | 0, _, _ => .ok []
  | _, _, [] => .ok []
  | fuel + 1, first, b :: rest =>
    match lead? b with
    | none => .error ⟨.start, first, [b]⟩
    | some (bits, count, low, high) => do
      let (c, rest) ← finish first [b] bits count low high rest
      let cs ← decodeFrom fuel (first + count + 1) rest
      return c :: cs

def decode (bytes : List UInt8) : Except Invalid String :=
  (decodeFrom bytes.length 0 bytes).map String.ofList

end Utf8

def unifyLineEnds : List Char → List Char
  | [] => []
  | '\r' :: '\n' :: rest => '\n' :: unifyLineEnds rest
  | '\r' :: rest => '\n' :: unifyLineEnds rest
  | c :: rest => c :: unifyLineEnds rest

end JsonPath
