import JsonPath.Evaluation.Call

namespace JsonPath

structure Scope where
  document : Value
  options : Options

namespace Eval

def keep (options : Options) (test : Node → Eval Bool) : List Node → Eval (List Node)
  | [] => pure []
  | n :: ns => do
    visit options 1
    let kept ← test n
    let more ← keep options test ns
    return if kept then n :: more else more

mutual

/-- The nodes that a query selects, with `current` for the node that a filter tests. -/
def query (scope : Scope) : Query → Node → Eval (List Node)
  | .mk anchor ss, current =>
    match anchor with
    | .root => segments scope ss [.root scope.document]
    | .current => segments scope ss [current]

def segments (scope : Scope) : List Segment → List Node → Eval (List Node)
  | [], nodes => pure nodes
  | s :: ss, nodes => do
    let nodes ← segment scope s nodes
    segments scope ss nodes

def segment (scope : Scope) : Segment → List Node → Eval (List Node)
  | .child ss, nodes => flatMap (fun n => selectors scope ss n) nodes
  | .descendant ss, nodes =>
    flatMap (fun n => descend scope.options (fun d => selectors scope ss d) n.location n.value) nodes

def selectors (scope : Scope) : List Selector → Node → Eval (List Node)
  | [], _ => pure []
  | s :: ss, n => do
    let here ← selector scope s n
    let more ← selectors scope ss n
    return here ++ more

def selector (scope : Scope) : Selector → Node → Eval (List Node)
  | .name name, n => charged scope.options (n.child? (.member name)).toList
  | .wildcard, n => charged scope.options n.children
  | .index index, n => charged scope.options (n.item? index).toList
  | .slice start stop step, n => charged scope.options (n.slice start stop step)
  | .filter c, n => keep scope.options (fun child => condition scope c child) n.children

def condition (scope : Scope) : Condition → Node → Eval Bool
  | .any cs, current => anyHolds scope cs current
  | .all cs, current => allHold scope cs current
  | .negation c, current => return !(← condition scope c current)
  | .compare operator left right, current => do
    let left ← operand scope left current
    let right ← operand scope right current
    compare scope.options operator left right
  | .selects q, current => return !(← query scope q current).isEmpty
  | .call f as, current => do
    let passed ← arguments scope f f.parameters as current
    return (← f.apply scope.options passed).isTrue

def anyHolds (scope : Scope) : List Condition → Node → Eval Bool
  | [], _ => return false
  | c :: cs, current => do
    if ← condition scope c current then return true else anyHolds scope cs current

def allHold (scope : Scope) : List Condition → Node → Eval Bool
  | [], _ => return true
  | c :: cs, current => do
    if ← condition scope c current then allHold scope cs current else return false

def operand (scope : Scope) : Operand → Node → Eval Denoted
  | .literal v, _ => return .value v none
  | .query q, current => return .ofNodes (← query scope q current)
  | .call f as, current => do
    let passed ← arguments scope f f.parameters as current
    f.apply scope.options passed

def arguments (scope : Scope) (f : Function) :
    List DeclaredType → List Argument → Node → Eval (List Passed)
  | [], [], _ => pure []
  | type :: types, a :: as, current => do
    let p ← argument scope type a current
    let ps ← arguments scope f types as current
    return p :: ps
  | types, as, _ => throw (.argumentCount f (f.arity - types.length + as.length))

def argument (scope : Scope) : DeclaredType → Argument → Node → Eval Passed
  | .nodes, .query q, current => return .nodes (← query scope q current)
  | _, .query q, current => return .one (.ofNodes (← query scope q current))
  | _, .literal v, _ => return .one (.value v none)
  | .logical, .condition c, current => return .one (.ofBool (← condition scope c current))
  | _, .condition (.call f as), current => do
    let passed ← arguments scope f f.parameters as current
    return .one (← f.apply scope.options passed)
  | _, .condition c, current => return .one (.ofBool (← condition scope c current))

end

end Eval

def Query.evaluate (q : Query) (document : Value) (options : Options) :
    EStateM.Result EvalError Progress (List Node) :=
  Eval.query ⟨document, options⟩ q (.root document) {}

end JsonPath
