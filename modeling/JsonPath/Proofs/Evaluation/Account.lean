import JsonPath.Evaluation.Run
import JsonPath.Proofs.Evaluation.Traversal

namespace JsonPath

structure QueryRun where
  query : Query
  current : Node
  start : Progress

/-- What is noted of an evaluation: how the notes of two parts are joined, and what is noted of a call
besides what is noted inside. -/
structure Account (M : Type) where
  nothing : M
  both : M → M → M
  onQuery : QueryRun → M → M
  onSelector : M → M
  onCondition : M → M
  onCall : M → M

def Scope.start (scope : Scope) : Anchor → Node → Node
  | .root, _ => .root scope.document
  | .current, current => current

namespace Eval

theorem query_eq (scope : Scope) (anchor : Anchor) (ss : List Segment) (current : Node) :
    query scope (.mk anchor ss) current = segments scope ss [scope.start anchor current] := by
  cases anchor <;> rw [query, Scope.start]

end Eval

namespace Account

variable {M : Type} (account : Account M)

def bind {α : Type} (m : Eval α) (first : Progress → M) (next : α → Progress → M) (p : Progress) : M :=
  match m p with
  | .ok a p' => account.both (first p) (next a p')
  | .error _ _ => first p

def each {α β : Type} (f : α → Eval β) (noted : α → Progress → M) : List α → Progress → M
  | [] => fun _ => account.nothing
  | a :: as => account.bind (f a) (noted a) fun _ => each f noted as

def charged {β : Type} (options : Options) (use : Node → Eval β) (noted : Node → Progress → M) :
    List Node → Progress → M :=
  account.each (fun n => do
      Eval.visit options 1
      use n) fun n => account.bind (Eval.visit options 1) (fun _ => account.nothing) fun _ => noted n

def descended (options : Options) (use : Node → Eval (List Node)) (noted : Node → Progress → M) :
    List Node → Progress → M :=
  account.each (Eval.useVisited options use) fun n =>
    account.bind (Eval.checkDepth options n.location.length) (fun _ => account.nothing) fun _ =>
      account.bind (Eval.visit options 1) (fun _ => account.nothing) fun _ => noted n

variable (scope : Scope)

mutual

def query : Query → Node → Progress → M
  | .mk anchor ss, current => fun p =>
    account.onQuery ⟨.mk anchor ss, current, p⟩ (segments ss [scope.start anchor current] p)

def segments : List Segment → List Node → Progress → M
  | [], _ => fun _ => account.nothing
  | s :: ss, nodes => account.bind (Eval.segment scope s nodes) (segment s nodes) fun nodes =>
    segments ss nodes

def segment : Segment → List Node → Progress → M
  | .child ss, nodes =>
    account.each (fun n => Eval.selectors scope ss n) (fun n => selectors ss n) nodes
  | .descendant ss, nodes =>
    account.descended scope.options (fun n => Eval.selectors scope ss n) (fun n => selectors ss n)
      (nodes.flatMap Node.preorder)

def selectors : List Selector → Node → Progress → M
  | [], _ => fun _ => account.nothing
  | s :: ss, n => account.bind (Eval.selector scope s n) (selector s n) fun _ => selectors ss n

def selector : Selector → Node → Progress → M
  | .filter c, n => fun p =>
    account.onSelector (account.charged scope.options (fun child => Eval.condition scope c child)
      (fun child => condition c child) n.children p)
  | _, _ => fun _ => account.onSelector account.nothing

def condition : Condition → Node → Progress → M
  | .any cs, current => fun p => account.onCondition (anyHolds cs current p)
  | .all cs, current => fun p => account.onCondition (allHold cs current p)
  | .negation c, current => fun p => account.onCondition (condition c current p)
  | .compare _ left right, current => fun p =>
    account.onCondition (account.bind (Eval.operand scope left current) (operand left current)
      (fun _ => operand right current) p)
  | .selects q, current => fun p => account.onCondition (query q current p)
  | .call f as, current => fun p =>
    account.onCondition (account.onCall (arguments f.parameters as current p))

def anyHolds : List Condition → Node → Progress → M
  | [], _ => fun _ => account.nothing
  | c :: cs, current =>
    account.bind (Eval.condition scope c current) (condition c current) fun holds =>
      if holds then fun _ => account.nothing else anyHolds cs current

def allHold : List Condition → Node → Progress → M
  | [], _ => fun _ => account.nothing
  | c :: cs, current =>
    account.bind (Eval.condition scope c current) (condition c current) fun holds =>
      if holds then allHold cs current else fun _ => account.nothing

def operand : Operand → Node → Progress → M
  | .literal _, _ => fun _ => account.nothing
  | .query q, current => query q current
  | .call f as, current => fun p => account.onCall (arguments f.parameters as current p)

def arguments : List DeclaredType → List Argument → Node → Progress → M
  | type :: types, a :: as, current =>
    account.bind (Eval.argument scope type a current) (argument type a current) fun _ =>
      arguments types as current
  | _, _, _ => fun _ => account.nothing

def argument : DeclaredType → Argument → Node → Progress → M
  | _, .query q, current => query q current
  | _, .literal _, _ => fun _ => account.nothing
  | .logical, .condition c, current => condition c current
  | _, .condition (.call f as), current => fun p => account.onCall (arguments f.parameters as current p)
  | _, .condition c, current => condition c current

end

end Account

end JsonPath
