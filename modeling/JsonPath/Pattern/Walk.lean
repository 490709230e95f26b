import JsonPath.Pattern.First

namespace JsonPath

/-- A form laid over one text. A set of places in the text is a number with a bit for each, and a
step leads from the marked places to the ones after them. -/
inductive Walk
  | stay
  | step (marks : Nat)
  | sequence (first rest : Walk)
  | alternatives (first rest : Walk)
  | repeated (body : Walk) (low : Nat) (high? : Option Nat)

namespace Walk

def marks (p : Char → Bool) (text : List Char) : Nat :=
  text.foldr (fun c m => 2 * m + (p c).toNat) 0

/-- Moves a set of places so many times, or until it stays as it is. -/
def iterate (move : Nat → Nat) : Nat → Nat → Nat
  | 0, s => s
  | n + 1, s => if move s = s then s else iterate move n (move s)

def spread (move : Nat → Nat) : Nat → Nat → Nat
  | 0, s => s
  | n + 1, s => if s ||| move s = s then s else spread move n (s ||| move s)

/-- The places where a walk ends that begins at one of the places `s` of a text so long. More moves
than the text has places lead nowhere new. -/
def ends (length : Nat) : Walk → Nat → Nat
  | stay, s => s
  | step marks, s => (s &&& marks) <<< 1
  | sequence first rest, s => rest.ends length (first.ends length s)
  | alternatives first rest, s => first.ends length s ||| rest.ends length s
  | repeated body low high?, s =>
    let more := match high? with
      | none => length + 1
      | some high => min (high - low) (length + 1)
    spread (body.ends length) more (iterate (body.ends length) (min low (length + 1)) s)

end Walk

def Normal.walk (text : List Char) : Normal → Walk
  | empty => .stay
  | any => .step (Walk.marks (fun _ => true) text)
  | test t => .step (Walk.marks t.holds text)
  | anyOf ts => .step (Walk.marks (CharTest.anyHolds ts) text)
  | sequence first rest => .sequence (first.walk text) (rest.walk text)
  | branches first rest => .alternatives (first.walk text) (rest.walk text)
  | repeated body low high? => .repeated (body.walk text) low high?

def Normal.starts (n : Normal) (text : List Char) : Nat :=
  match n.firstClass? with
  | some ts => Walk.marks (CharTest.anyHolds ts) text
  | none => 1 <<< (text.length + 1) - 1

namespace Pattern

def matchesWhole (p : Pattern) (text : List Char) : Bool :=
  ((p.normal.walk text).ends text.length (1 &&& p.normal.starts text)).testBit text.length

def matchesPart (p : Pattern) (text : List Char) : Bool :=
  (p.normal.walk text).ends text.length (p.normal.starts text) ≠ 0

end Pattern

end JsonPath
