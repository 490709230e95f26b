import JsonPath.Evaluation.Run
import JsonPath.Proofs.Evaluation.Descent
import JsonPath.Proofs.Evaluation.Pairs

namespace JsonPath

namespace Eval

theorem runPattern_eq_ok {options : Options} {source text : String} {anchored b : Bool}
    {p p' : Progress} : runPattern options source text anchored p = .ok b p' ↔
      ∃ p? log m, p.matcher.pattern options source = .ok (p?, log, m) ∧
        Matcher.test .standard options p? text anchored = .ok b ∧
        { p with matcher := m, log := p.log ++ log } = p' := by
  unfold runPattern Matcher.run Matcher.runWith
  cases p.matcher.pattern options source with
  | error e => cases e <;> simp
  | ok r =>
    obtain ⟨p?, log, m⟩ := r
    simp only [Except.ok.injEq, Prod.mk.injEq]
    constructor
    · intro run
      cases ready : Matcher.test .standard options p? text anchored with
      | error e => cases e <;> simp [ready] at run
      | ok b' =>
        simp only [ready, EStateM.Result.ok.injEq] at run
        obtain ⟨rfl, rfl⟩ := run
        exact ⟨p?, log, m, ⟨rfl, rfl, rfl⟩, ready, rfl⟩
    · rintro ⟨_, _, _, ⟨rfl, rfl, rfl⟩, ready, rfl⟩
      simp [ready]

theorem visit_eq_ok {options : Options} {count : Nat} {u : Unit} {p p' : Progress} :
    visit options count p = .ok u p' ↔
      (p.visited + count : Nat) ≤ options.maxNodesVisited ∧ { p with visited := p.visited + count } = p' := by
  unfold visit
  simp only
  split
  · next beyond => simp; omega
  · next inside => simp; omega

theorem checkDepth_eq_ok {options : Options} {depth : Nat} {u : Unit} {p p' : Progress} :
    checkDepth options depth p = .ok u p' ↔ (depth : Int) ≤ options.maxDepth ∧ p = p' := by
  unfold checkDepth
  split
  · next beyond => 
    have : ¬ (depth : Int) ≤ options.maxDepth := by omega
    simp [this, EStateM.throw_run]
  · next inside =>
    have : (depth : Int) ≤ options.maxDepth := by omega
    simp [this, pure, EStateM.pure]

def paths? : EStateM.Result EvalError Progress (List Node) → Option (List String)
  | .ok nodes _ => some (nodes.map Node.path)
  | .error _ _ => none

theorem exists_of_paths? {r : EStateM.Result EvalError Progress (List Node)} {paths : List String}
    (selected : paths? r = some paths) : ∃ nodes p, r = .ok nodes p ∧ nodes.map Node.path = paths := by
  cases r with
  | ok nodes p => exact ⟨nodes, p, rfl, Option.some.inj selected⟩
  | error e p => contradiction

/-- A relation between computations that is kept when they are put together, and that holds between
the steps that read the options. -/
structure Congruence (options options' : Options) (Rel : ∀ {α : Type}, Eval α → Eval α → Prop) :
    Prop where
  pure : ∀ {α : Type} (a : α), Rel (Pure.pure a) (Pure.pure a)
  throw : ∀ {α : Type} (e : EvalError), Rel (MonadExcept.throw e : Eval α) (MonadExcept.throw e)
  bind : ∀ {α β : Type} {m m' : Eval α} {f f' : α → Eval β},
    Rel m m' → (∀ a, Rel (f a) (f' a)) → Rel (m >>= f) (m' >>= f')
  visit : ∀ count, Rel (Eval.visit options count) (Eval.visit options' count)
  checkDepth : ∀ depth, Rel (Eval.checkDepth options depth) (Eval.checkDepth options' depth)
  runPattern : ∀ source text anchored,
    Rel (Eval.runPattern options source text anchored) (Eval.runPattern options' source text anchored)

namespace Congruence

section

variable {options options' : Options} {Rel : ∀ {α : Type}, Eval α → Eval α → Prop}
  (congruence : Congruence options options' Rel)

include congruence

omit congruence in
theorem ite {α : Type} {b : Bool} {m m' n n' : Eval α} (yes : Rel m m') (no : Rel n n') :
    Rel (if b then m else n) (if b then m' else n') := by
  cases b with
  | true => exact yes
  | false => exact no

theorem charged (nodes : List Node) :
    Rel (Eval.charged options nodes) (Eval.charged options' nodes) :=
  congruence.bind (congruence.visit nodes.length) fun _ => congruence.pure nodes

theorem append {first first' second second' : Eval (List Node)} (here : Rel first first')
    (more : Rel second second') :
    Rel (do
      let here ← first
      let more ← second
      return here ++ more) (do
      let here ← first'
      let more ← second'
      return here ++ more) :=
  congruence.bind here fun _ => congruence.bind more fun _ => congruence.pure _

theorem flatMap {α : Type} {f f' : α → Eval (List Node)} (each : ∀ a, Rel (f a) (f' a)) (as : List α) :
    Rel (Eval.flatMap f as) (Eval.flatMap f' as) := by
  induction as with
  | nil => exact congruence.pure []
  | cons a as ih => exact congruence.append (each a) ih

theorem keep {test test' : Node → Eval Bool} (tests : ∀ n, Rel (test n) (test' n)) (ns : List Node) :
    Rel (Eval.keep options test ns) (Eval.keep options' test' ns) := by
  induction ns with
  | nil => exact congruence.pure []
  | cons n ns ih =>
    apply congruence.bind (congruence.visit 1)
    intro _
    apply congruence.bind (tests n)
    intro kept
    apply congruence.bind ih
    intro more
    exact congruence.pure _

theorem visited {depth : Nat} {use use' : Eval (List Node)} (uses : Rel use use') :
    Rel (do
      Eval.checkDepth options depth
      Eval.visit options 1
      use) (do
      Eval.checkDepth options' depth
      Eval.visit options' 1
      use') :=
  congruence.bind (congruence.checkDepth depth) fun _ =>
    congruence.bind (congruence.visit 1) fun _ => uses

theorem descend {use use' : Node → Eval (List Node)} (uses : ∀ n, Rel (use n) (use' n)) (v : Value)
    (location : Location) :
    Rel (Eval.descend options use location v) (Eval.descend options' use' location v) := by
  rw [descend_eq_flatMap, descend_eq_flatMap]
  exact congruence.flatMap (fun n => congruence.visited (uses n)) _

theorem chargeLevels (depths : List Nat) :
    Rel (Eval.chargeLevels options depths) (Eval.chargeLevels options' depths) := by
  induction depths with
  | nil => exact congruence.pure ()
  | cons depth depths ih =>
    apply congruence.bind (congruence.visit 1)
    intro _
    exact congruence.bind (congruence.checkDepth depth) fun _ => ih

theorem equal (left right : Denoted) :
    Rel (Eval.equal options left right) (Eval.equal options' left right) := by
  rw [equal_eq, equal_eq]
  exact congruence.bind (congruence.chargeLevels _) fun _ => congruence.pure _

theorem compare (operator : Comparison) (left right : Denoted) :
    Rel (Eval.compare options operator left right) (Eval.compare options' operator left right) := by
  have equal := congruence.equal left right
  cases operator with
  | eq => exact equal
  | ne => exact congruence.bind equal fun _ => congruence.pure _
  | lt => exact congruence.pure _
  | le => exact Congruence.ite (congruence.pure true) equal
  | gt => exact congruence.pure _
  | ge => exact Congruence.ite (congruence.pure true) equal
  | other symbol => exact congruence.throw _

theorem apply (f : Function) (passed : List Passed) :
    Rel (f.apply options passed) (f.apply options' passed) := by
  have matched (anchored : Bool) (a b : Passed) :
      Rel (Function.matchOf options anchored a b) (Function.matchOf options' anchored a b) := by
    unfold Function.matchOf
    split
    · exact congruence.bind (congruence.runPattern _ _ _) fun _ => congruence.pure _
    · exact congruence.pure _
  unfold Function.apply
  split
  · exact congruence.pure _
  · exact congruence.pure _
  · exact congruence.pure _
  · exact matched true _ _
  · exact matched false _ _
  · exact congruence.throw _

end

section

variable {document : Value} {options options' : Options} {Rel : ∀ {α : Type}, Eval α → Eval α → Prop}

mutual

theorem query (congruence : Congruence options options' Rel) : ∀ (q : Query) (current : Node),
    Rel (Eval.query ⟨document, options⟩ q current) (Eval.query ⟨document, options'⟩ q current)
  | .mk .root ss, current => by
    rw [Eval.query, Eval.query]
    exact segments congruence ss _
  | .mk .current ss, current => by
    rw [Eval.query, Eval.query]
    exact segments congruence ss _

theorem segments (congruence : Congruence options options' Rel) : ∀ (ss : List Segment) (nodes : List Node),
    Rel (Eval.segments ⟨document, options⟩ ss nodes) (Eval.segments ⟨document, options'⟩ ss nodes)
  | [], nodes => by
    rw [Eval.segments, Eval.segments]
    exact congruence.pure nodes
  | s :: ss, nodes => by
    rw [Eval.segments, Eval.segments]
    exact congruence.bind (segment congruence s nodes) fun nodes => segments congruence ss nodes

theorem segment (congruence : Congruence options options' Rel) : ∀ (s : Segment) (nodes : List Node),
    Rel (Eval.segment ⟨document, options⟩ s nodes) (Eval.segment ⟨document, options'⟩ s nodes)
  | .child ss, nodes => by
    rw [Eval.segment, Eval.segment]
    exact congruence.flatMap (fun n => selectors congruence ss n) nodes
  | .descendant ss, nodes => by
    rw [Eval.segment, Eval.segment]
    exact congruence.flatMap
      (fun n => congruence.descend (fun d => selectors congruence ss d) n.value n.location) nodes

theorem selectors (congruence : Congruence options options' Rel) : ∀ (ss : List Selector) (n : Node),
    Rel (Eval.selectors ⟨document, options⟩ ss n) (Eval.selectors ⟨document, options'⟩ ss n)
  | [], n => by
    rw [Eval.selectors, Eval.selectors]
    exact congruence.pure []
  | s :: ss, n => by
    rw [Eval.selectors, Eval.selectors]
    exact congruence.append (selector congruence s n) (selectors congruence ss n)

theorem selector (congruence : Congruence options options' Rel) : ∀ (s : Selector) (n : Node),
    Rel (Eval.selector ⟨document, options⟩ s n) (Eval.selector ⟨document, options'⟩ s n)
  | .name name, n => by
    rw [Eval.selector, Eval.selector]
    exact congruence.charged _
  | .wildcard, n => by
    rw [Eval.selector, Eval.selector]
    exact congruence.charged _
  | .index index, n => by
    rw [Eval.selector, Eval.selector]
    exact congruence.charged _
  | .slice start stop step, n => by
    rw [Eval.selector, Eval.selector]
    exact congruence.charged _
  | .filter c, n => by
    rw [Eval.selector, Eval.selector]
    exact congruence.keep (fun child => condition congruence c child) n.children

theorem condition (congruence : Congruence options options' Rel) : ∀ (c : Condition) (current : Node),
    Rel (Eval.condition ⟨document, options⟩ c current) (Eval.condition ⟨document, options'⟩ c current)
  | .any cs, current => by
    rw [Eval.condition, Eval.condition]
    exact anyHolds congruence cs current
  | .all cs, current => by
    rw [Eval.condition, Eval.condition]
    exact allHold congruence cs current
  | .negation c, current => by
    rw [Eval.condition, Eval.condition]
    exact congruence.bind (condition congruence c current) fun _ => congruence.pure _
  | .compare operator left right, current => by
    rw [Eval.condition, Eval.condition]
    apply congruence.bind (operand congruence left current)
    intro l
    apply congruence.bind (operand congruence right current)
    intro r
    exact congruence.compare operator l r
  | .selects q, current => by
    rw [Eval.condition, Eval.condition]
    exact congruence.bind (query congruence q current) fun _ => congruence.pure _
  | .call f as, current => by
    rw [Eval.condition, Eval.condition]
    apply congruence.bind (arguments congruence f as f.parameters current)
    intro passed
    exact congruence.bind (congruence.apply f passed) fun _ => congruence.pure _

theorem anyHolds (congruence : Congruence options options' Rel) : ∀ (cs : List Condition) (current : Node),
    Rel (Eval.anyHolds ⟨document, options⟩ cs current) (Eval.anyHolds ⟨document, options'⟩ cs current)
  | [], current => by
    rw [Eval.anyHolds, Eval.anyHolds]
    exact congruence.pure false
  | c :: cs, current => by
    rw [Eval.anyHolds, Eval.anyHolds]
    exact congruence.bind (condition congruence c current) fun _ =>
      Congruence.ite (congruence.pure true) (anyHolds congruence cs current)

theorem allHold (congruence : Congruence options options' Rel) : ∀ (cs : List Condition) (current : Node),
    Rel (Eval.allHold ⟨document, options⟩ cs current) (Eval.allHold ⟨document, options'⟩ cs current)
  | [], current => by
    rw [Eval.allHold, Eval.allHold]
    exact congruence.pure true
  | c :: cs, current => by
    rw [Eval.allHold, Eval.allHold]
    exact congruence.bind (condition congruence c current) fun _ =>
      Congruence.ite (allHold congruence cs current) (congruence.pure false)

theorem operand (congruence : Congruence options options' Rel) : ∀ (o : Operand) (current : Node),
    Rel (Eval.operand ⟨document, options⟩ o current) (Eval.operand ⟨document, options'⟩ o current)
  | .literal v, current => by
    rw [Eval.operand, Eval.operand]
    exact congruence.pure _
  | .query q, current => by
    rw [Eval.operand, Eval.operand]
    exact congruence.bind (query congruence q current) fun _ => congruence.pure _
  | .call f as, current => by
    rw [Eval.operand, Eval.operand]
    exact congruence.bind (arguments congruence f as f.parameters current) fun passed =>
      congruence.apply f passed

theorem arguments (congruence : Congruence options options' Rel) (f : Function) :
    ∀ (as : List Argument) (types : List DeclaredType) (current : Node),
    Rel (Eval.arguments ⟨document, options⟩ f types as current)
      (Eval.arguments ⟨document, options'⟩ f types as current)
  | [], [], current => by
    simp only [Eval.arguments]
    exact congruence.pure []
  | [], _ :: _, current => by
    simp only [Eval.arguments]
    exact congruence.throw _
  | _ :: _, [], current => by
    simp only [Eval.arguments]
    exact congruence.throw _
  | a :: as, type :: types, current => by
    rw [Eval.arguments, Eval.arguments]
    apply congruence.bind (argument congruence a type current)
    intro p
    apply congruence.bind (arguments congruence f as types current)
    intro ps
    exact congruence.pure _

theorem argument (congruence : Congruence options options' Rel) :
    ∀ (a : Argument) (type : DeclaredType) (current : Node),
    Rel (Eval.argument ⟨document, options⟩ type a current)
      (Eval.argument ⟨document, options'⟩ type a current)
  | .literal v, type, current => by
    cases type <;> simp only [Eval.argument] <;> exact congruence.pure _
  | .query q, type, current => by
    have same := query congruence q current
    cases type <;> simp only [Eval.argument] <;> exact congruence.bind same fun _ => congruence.pure _
  | .condition c, type, current => by
    have same := condition congruence c current
    cases c with
    | call f as =>
      have passed := arguments congruence f as f.parameters current
      cases type with
      | logical =>
        simp only [Eval.argument]
        exact congruence.bind same fun _ => congruence.pure _
      | _ =>
        simp only [Eval.argument]
        exact congruence.bind passed fun ps =>
          congruence.bind (congruence.apply f ps) fun _ => congruence.pure _
    | _ =>
      cases type <;> simp only [Eval.argument] <;>
        exact congruence.bind same fun _ => congruence.pure _

end

end

end Congruence

def Preserves {α : Type} (I : Progress → Prop) (m : Eval α) : Prop :=
  ∀ p a p', I p → m p = .ok a p' → I p'

namespace Preserves

variable {I : Progress → Prop}

theorem pure {α : Type} (a : α) : Preserves I (Pure.pure a) := by
  intro p b p' holds run
  cases run
  exact holds

theorem bind {α β : Type} {m : Eval α} {f : α → Eval β} (first : Preserves I m)
    (next : ∀ a, Preserves I (f a)) : Preserves I (m >>= f) := by
  intro p b p' holds run
  obtain ⟨a, middle, here, rest⟩ := EStateM.bind_eq_ok.mp run
  exact next a middle b p' (first p a middle holds here) rest

theorem checkDepth (options : Options) (depth : Nat) : Preserves I (Eval.checkDepth options depth) := by
  intro p u p' holds run
  obtain ⟨-, rfl⟩ := checkDepth_eq_ok.mp run
  exact holds

theorem congruence {options : Options} (visit : ∀ count, Preserves I (Eval.visit options count))
    (runPattern : ∀ source text anchored, Preserves I (Eval.runPattern options source text anchored)) :
    Congruence options options fun m _ => Preserves I m where
  pure := pure
  throw e := by
    intro p a p' _ run
    contradiction
  bind first next := bind first next
  visit := visit
  checkDepth := checkDepth options
  runPattern := runPattern

end Preserves

end Eval

end JsonPath
