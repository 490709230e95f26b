import JsonPath.Pattern

namespace JsonPath

namespace Pattern

def hasQuantifier : Pattern → Bool
  | group p => p.hasQuantifier
  | quantified _ _ => true
  | sequence p ps => p.hasQuantifier || ps.hasQuantifier
  | alternatives p ps => p.hasQuantifier || ps.hasQuantifier
  | _ => false

inductive Head
  | nothing
  | char (c : Char)
  | unknown
  deriving DecidableEq

/-- A group with several branches and everything with a quantifier may begin in more than one way. -/
def head : Pattern → Head
  | empty => .nothing
  | char c _ => .char c
  | group p => p.head
  | sequence p _ => p.head
  | _ => .unknown

def heads : Pattern → List Head
  | alternatives p ps => p.head :: ps.heads
  | p => [p.head]

/-- Two of several branches may begin alike: one is empty, or two begin with one character. -/
def headsOverlap (hs : List Head) : Bool :=
  1 < hs.length && (hs.contains .nothing || !((hs.filter (· ≠ .unknown)).Nodup : Bool))

/-- Somewhere a group repeats that holds a quantifier, or branches that may begin alike. Such patterns
can take very long to match. -/
def isUnsafe : Pattern → Bool
  | group p => p.isUnsafe
  | quantified (group p) q =>
    p.isUnsafe || (q.repeats && (p.hasQuantifier || headsOverlap p.heads))
  | quantified p _ => p.isUnsafe
  | sequence p ps => p.isUnsafe || ps.isUnsafe
  | alternatives p ps => p.isUnsafe || ps.isUnsafe
  | _ => false

end Pattern

end JsonPath
