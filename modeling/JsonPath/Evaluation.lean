import JsonPath.Function
import JsonPath.Node
import JsonPath.Pattern.Matcher

namespace JsonPath

/-- Why an evaluation stopped. The parser lets through no call with a wrong number of arguments and no
operator that the language does not have. -/
inductive EvalError
  | excess (e : Excess)
  | unsupportedComparison (symbol : String)
  | argumentCount (function : Function) (given : Nat)
  | integerTooLong (digits : Nat)
  deriving DecidableEq

structure Progress where
  visited : Nat := 0
  matcher : Matcher := {}
  log : List LogEntry := []

abbrev Eval := EStateM EvalError Progress

def push {α : Type} (stack things : List α) : List α := things.foldl (fun stack a => a :: stack) stack

theorem push_eq {α : Type} (stack things : List α) : push stack things = things.reverse ++ stack := by
  rw [push, List.foldl_flip_cons_eq_append, List.map_id']

namespace Eval

def visit (options : Options) (count : Nat) : Eval Unit := fun p =>
  let p := { p with visited := p.visited + count }
  if p.visited > options.maxNodesVisited then
    .error (.excess (.nodesVisited options.maxNodesVisited)) p
  else .ok () p

def checkDepth (options : Options) (depth : Nat) : Eval Unit :=
  if depth > options.maxDepth then throw (.excess (.depth options.maxDepth)) else pure ()

def charged (options : Options) (nodes : List Node) : Eval (List Node) := do
  visit options nodes.length
  return nodes

def runPattern (options : Options) (source text : String) (anchored : Bool) : Eval Bool := fun p =>
  let (result, log, matcher) := p.matcher.run options source text anchored
  let p := { p with matcher, log := p.log ++ log }
  match result with
  | .ok b => .ok b p
  | .error (.excess e) => .error (.excess e) p
  | .error (.integerTooLong digits) => .error (.integerTooLong digits) p

def flatMap {α : Type} (f : α → Eval (List Node)) : List α → Eval (List Node)
  | [] => pure []
  | a :: as => do
    let here ← f a
    let more ← flatMap f as
    return here ++ more

/-- What is still to be done in a descent. -/
inductive Turn
  | enter (n : Node)
  /-- Everything below the container at this location has been used. -/
  | leave (location : Location)

namespace Turn

/-- How many turns a stack takes at most: every container is entered and left. -/
def weight : List Turn → Nat
  | [] => 0
  | enter n :: stack => 2 * n.value.size + weight stack
  | leave _ :: stack => 1 + weight stack

theorem weight_enter (nodes : List Node) (stack : List Turn) :
    weight (nodes.map enter ++ stack) = 2 * Value.sizeItems (nodes.map Node.value) + weight stack := by
  induction nodes with
  | nil => simp [Value.sizeItems]
  | cons n nodes ih =>
    rw [List.map_cons, List.map_cons, List.cons_append, weight, ih, Value.sizeItems]
    omega

end Turn

/-- Uses the nodes on a stack and those below them. A container is active from its own turn until all
below it have had theirs, and an active container is not entered again, so that a cyclic document would
come to an end. Every node is charged and its depth checked when its turn comes. -/
def traverse (options : Options) (use : Node → Eval (List Node)) (active : List Location) :
    List Turn → Eval (List Node)
  | [] => pure []
  | .leave location :: stack => traverse options use (active.removeAll [location]) stack
  | .enter n :: stack => do
    checkDepth options n.location.length
    visit options 1
    let here ← use n
    let more ←
      (if n.value.isContainer then
        traverse options use (n.location :: active)
          (push (.leave n.location :: stack)
            ((n.childrenOutside (n.location :: active)).reverse.map .enter))
      else traverse options use active stack)
    return here ++ more
termination_by stack => Turn.weight stack
decreasing_by
  · simp [Turn.weight]
  · next container =>
    have whole := Node.size_children container
    have fewer := n.size_childrenOutside_le (n.location :: active)
    rw [push_eq, ← List.map_reverse, List.reverse_reverse, Turn.weight_enter, Turn.weight, Turn.weight]
    omega
  · have positive := n.value.size_pos
    rw [Turn.weight]
    omega

def descend (options : Options) (use : Node → Eval (List Node)) (location : Location) (v : Value) :
    Eval (List Node) :=
  traverse options use [] [.enter ⟨v, location⟩]

end Eval

end JsonPath
