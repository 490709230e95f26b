import JsonPath.Text.Category.Unicode17

namespace JsonPath

inductive Quantifier
  | star
  | plus
  | optional
  | exactly (count : Nat)
  | atLeast (low : Nat)
  | between (low high : Nat)
  deriving DecidableEq

namespace Quantifier

def low : Quantifier → Nat
  | star => 0
  | plus => 1
  | optional => 0
  | exactly n => n
  | atLeast n => n
  | between n _ => n

def high? : Quantifier → Option Nat
  | star => none
  | plus => none
  | optional => some 1
  | exactly n => some n
  | atLeast _ => none
  | between _ n => some n

def repeats (q : Quantifier) : Bool :=
  match q.high? with
  | none => true
  | some n => 1 < n

end Quantifier

/-- A member of a character class. `escaped` tells whether a backslash was written before a character. -/
inductive ClassItem
  | char (c : Char) (escaped : Bool)
  | range (low : Char) (lowEscaped : Bool) (high : Char) (highEscaped : Bool)
  | category (negated : Bool) (name : String)
  deriving DecidableEq

/-- An I-Regexp. A branch is a sequence of pieces, and alternatives are branches. -/
inductive Pattern
  | empty
  | char (c : Char) (escaped : Bool)
  | dot
  | set (negated : Bool) (items : List ClassItem)
  | category (negated : Bool) (name : String)
  | group (body : Pattern)
  | quantified (atom : Pattern) (quantifier : Quantifier)
  | sequence (first rest : Pattern)
  | alternatives (first rest : Pattern)
  deriving DecidableEq

namespace Pattern

/-- The names of categories: those of one letter stand for all categories that begin with it. -/
def categoryNames : List String := [
  "L", "Ll", "Lm", "Lo", "Lt", "Lu", "M", "Mc", "Me", "Mn", "N", "Nd", "Nl", "No",
  "P", "Pc", "Pd", "Pe", "Pf", "Pi", "Po", "Ps", "Z", "Zl", "Zp", "Zs",
  "S", "Sc", "Sk", "Sm", "So", "C", "Cc", "Cf", "Cn", "Co"]

def inCategory (name : String) (c : Char) : Bool :=
  name.toList.isPrefixOf (Category.unicode17.category c).name.toList

end Pattern

def ClassItem.holds (item : ClassItem) (c : Char) : Bool :=
  match item with
  | char d _ => c == d
  | range low _ high _ => low ≤ c && c ≤ high
  | category negated name => Pattern.inCategory name c != negated

end JsonPath
