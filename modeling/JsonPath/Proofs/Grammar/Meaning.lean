import JsonPath.Proofs.Grammar.Derivation
import Mathlib.Algebra.Group.Int.Defs

namespace JsonPath

def Condition.isLogical : Condition → Bool
  | .call f _ => f.result ≠ .value
  | _ => true

def Operand.isComparable : Operand → Bool
  | .literal _ => true
  | .query q => q.isSingular
  | .call f _ => f.result = .value

def isIndex (n : Int) : Bool := -(2 ^ 53 - 1) ≤ n ∧ n ≤ 2 ^ 53 - 1

namespace Argument

def isWritten : Argument → Bool
  | query _ => false
  | _ => true

/-- What a written argument passes to a parameter of a declared type. -/
def passed? : DeclaredType → Argument → Option Argument
  | .value, literal v => some (literal v)
  | .value, condition (.selects q) => if q.isSingular then some (query q) else none
  | .value, condition (.call f as) => if f.result = .value then some (condition (.call f as)) else none
  | .nodes, condition (.selects q) => some (query q)
  | .nodes, condition (.call f as) => if f.result = .nodes then some (condition (.call f as)) else none
  | .logical, condition c => if c.isLogical then some (condition c) else none
  | _, _ => none

def allPassed? : List DeclaredType → List Argument → Option (List Argument)
  | [], [] => some []
  | type :: types, a :: as =>
    (passed? type a).bind fun a => (allPassed? types as).map (a :: ·)
  | _, _ => none

end Argument

namespace Grammar

abbrev Meaning : Symbol → Type
  | .query | .filterQuery => Query
  | .segments => List Segment
  | .segment => Segment
  | .bracketedSelection | .selectors => List Selector
  | .selector => Selector
  | .disjuncts | .conjuncts => List Condition
  | .logicalExpr | .logicalAnd | .basicExpr | .parenExpr | .testExpr => Condition
  | .comparable => Operand
  | .functionExpr => Function × List Argument
  | .arguments => List Argument
  | .functionArgument => Argument

/-- One operand stands for itself, and only logical expressions are joined. -/
def joined? (join : List Condition → Condition) : List Condition → Option Condition
  | [c] => some c
  | cs => if cs.all (·.isLogical) then some (join cs) else none

/-- A call of a known function with its parenthesis right after the name. -/
def call? (name : Leaf name?) (left : Mark .lparen) (as : List Argument) :
    Option (Function × List Argument) :=
  if left.token.offset = name.token.stop then
    (Function.ofName? name.value).bind fun f => (Argument.allPassed? f.parameters as).map (f, ·)
  else none

def bound? : Option (Leaf integer?) → Option (Option Int)
  | none => some none
  | some n => if isIndex n.value then some (some n.value) else none

def SliceForm.selector? (form : SliceForm) : Option Selector := do
  let start ← bound? form.start
  let stop ← bound? form.stop
  let step ← bound? (form.step.bind (·.2))
  return .slice start stop step

/-- What a derivation stands for, if it passes the static checks on calls, comparisons, tests and
integers. -/
@[simp]
def Derivation.meaning? : {s : Symbol} → Derivation s → Option (Meaning s)
  | _, query _ ss => ss.meaning?.map (.mk .root)
  | _, noSegment => some []
  | _, moreSegments s ss => do return (← s.meaning?) :: (← ss.meaning?)
  | _, childName _ name => some (.child [.name name.value])
  | _, childWildcard _ _ => some (.child [.wildcard])
  | _, childBracketed b => b.meaning?.map .child
  | _, descendantName _ name => some (.descendant [.name name.value])
  | _, descendantWildcard _ _ => some (.descendant [.wildcard])
  | _, descendantBracketed _ b => b.meaning?.map .descendant
  | _, bracketedSelection _ ss _ => ss.meaning?
  | _, lastSelector s => s.meaning?.map ([·])
  | _, moreSelectors s _ ss => do return (← s.meaning?) :: (← ss.meaning?)
  | _, nameSelector name => some (.name name.value)
  | _, wildcardSelector _ => some .wildcard
  | _, indexSelector n => if isIndex n.value then some (.index n.value) else none
  | _, sliceSelector form => form.selector?
  | _, filterSelector _ c => (c.meaning?.filter (·.isLogical)).map .filter
  | _, logicalExpr cs => cs.meaning?.bind (joined? .any)
  | _, lastDisjunct c => c.meaning?.map ([·])
  | _, moreDisjuncts c _ cs => do return (← c.meaning?) :: (← cs.meaning?)
  | _, logicalAnd cs => cs.meaning?.bind (joined? .all)
  | _, lastConjunct c => c.meaning?.map ([·])
  | _, moreConjuncts c _ cs => do return (← c.meaning?) :: (← cs.meaning?)
  | _, paren p => p.meaning?
  | _, notParen _ p => p.meaning?.map .negation
  | _, comparison left operator right => do
    let left ← left.meaning?.filter (·.isComparable)
    let right ← right.meaning?.filter (·.isComparable)
    return .compare operator.value left right
  | _, test t => t.meaning?
  | _, notTest _ t => (t.meaning?.filter (·.isLogical)).map .negation
  | _, parenExpr _ c _ => c.meaning?.filter (·.isLogical)
  | _, queryTest q => q.meaning?.map .selects
  | _, callTest c => c.meaning?.map fun (f, as) => .call f as
  | _, literalComparable literal => some (.literal literal.value)
  | _, queryComparable q => q.meaning?.map .query
  | _, callComparable c => c.meaning?.map fun (f, as) => .call f as
  | _, filterQuery anchor ss => ss.meaning?.map (.mk anchor.value)
  | _, emptyCall name left _ => call? name left []
  | _, call name left as _ => as.meaning?.bind (call? name left)
  | _, lastArgument a => a.meaning?.map ([·])
  | _, moreArguments a _ as => do return (← a.meaning?) :: (← as.meaning?)
  | _, literalArgument literal => some (.literal literal.value)
  | _, logicalArgument c => c.meaning?.map .condition

end Grammar

end JsonPath
