import JsonPath.Proofs.Evaluation.Moved
import JsonPath.Proofs.Typing.Phrase

namespace JsonPath

namespace Phrase

/-- No query in a phrase, at any depth, starts at the root of the document. -/
def RootFree (x : Phrase) : Prop := ∀ q, x.Contains (query q) → q.anchor = .current

variable {x y : Phrase}

theorem RootFree.part (free : x.RootFree) (part : y ∈ x.parts) : y.RootFree :=
  fun q contains => free q (.head part contains)

theorem RootFree.anchor {q : Query} (free : (query q).RootFree) : q.anchor = .current := free q .refl

theorem rootFree_iff :
    x.RootFree ↔ (∀ q, x = query q → q.anchor = .current) ∧ x.parts.Forall RootFree := by
  rw [List.forall_iff_forall_mem]
  constructor
  · intro free
    refine ⟨fun q same => ?_, fun y part => free.part part⟩
    subst same
    exact free.anchor
  · rintro ⟨here, below⟩ q contains
    rcases contains.cases_head with same | ⟨y, part, contains⟩
    · exact here q same
    · exact below y part q contains

end Phrase

namespace Eval

def mapped {α β : Type} (g : α → β) :
    EStateM.Result EvalError Progress α → EStateM.Result EvalError Progress β
  | .ok a p => .ok (g a) p
  | .error e p => .error e p

theorem mapped_map_under_nil (r : EStateM.Result EvalError Progress (List Node)) :
    mapped (List.map (Node.under [])) r = r := by
  cases r with
  | ok ns p => rw [mapped, Node.map_under_nil]
  | error e p => rfl

/-- Two computations return `g a` and `g' a` for some `a`, or fail with one error, and use up the same.
Where the first fails with an excused error, the second may end in any way. -/
inductive Alike (excused : EvalError → Prop) {α β γ : Type} (g : α → β) (g' : α → γ) :
    EStateM.Result EvalError Progress β → EStateM.Result EvalError Progress γ → Prop
  | ok (a : α) (p : Progress) : Alike excused g g' (.ok (g a) p) (.ok (g' a) p)
  | error (e : EvalError) (p : Progress) : Alike excused g g' (.error e p) (.error e p)
  | excused {e : EvalError} (p : Progress) (r : EStateM.Result EvalError Progress γ) :
    excused e → Alike excused g g' (.error e p) r

theorem Alike.mapped {excused : EvalError → Prop} {α β γ : Type} {g : α → β} {g' : α → γ}
    {r : EStateM.Result EvalError Progress β} {r' : EStateM.Result EvalError Progress γ}
    (alike : Alike excused g g' r r') (counts : ∀ e p, excused e → r ≠ .error e p) :
    ∃ s, Eval.mapped g s = r ∧ Eval.mapped g' s = r' := by
  cases alike with
  | ok a p => exact ⟨.ok a p, rfl, rfl⟩
  | error e p => exact ⟨.error e p, rfl, rfl⟩
  | excused p r' excuse => exact absurd rfl (counts _ p excuse)

def Follows (excused : EvalError → Prop) {α β γ : Type} (g : α → β) (g' : α → γ) (m : Eval β)
    (m' : Eval γ) : Prop :=
  ∀ p, Alike excused g g' (m p) (m' p)

/-- Below `l'` and under the second options, there is as much room as below `l` under the first. -/
structure Room (excused : EvalError → Prop) (l l' : Location) (options options' : Options) : Prop where
  agree : options' = { options with maxDepth := options'.maxDepth }
  deeper : options.maxDepth ≤ options'.maxDepth
  below : options.maxDepth - l.length ≤ options'.maxDepth - l'.length
  exact : excused (.excess (.depth options.maxDepth)) ∨ options = options' ∧ l.length = l'.length

namespace Follows

variable {excused : EvalError → Prop}

section

variable {α β γ δ ε ζ : Type} {g : α → β} {g' : α → γ} {h : δ → ε} {h' : δ → ζ} {m : Eval β} {m' : Eval γ}

theorem pure (a : α) : Follows excused g g' (Pure.pure (g a)) (Pure.pure (g' a)) := Alike.ok a

theorem throw (e : EvalError) :
    Follows excused g g' (MonadExcept.throw e) (MonadExcept.throw e) := Alike.error e

theorem of_eq {m m' : Eval α} (same : m = m') : Follows excused id id m m' := by
  subst same
  intro p
  cases m p with
  | ok a p' => exact .ok a p'
  | error e p' => exact .error e p'

theorem bind {f : β → Eval ε} {f' : γ → Eval ζ} (first : Follows excused g g' m m')
    (next : ∀ a, Follows excused h h' (f (g a)) (f' (g' a))) :
    Follows excused h h' (m >>= f) (m' >>= f') := by
  intro p
  have here : Alike excused g g' (m p) (m' p) := first p
  simp only [Bind.bind, EStateM.bind]
  generalize m p = r at here
  generalize m' p = r' at here
  cases here with
  | ok a middle => exact next a middle
  | error e p' => exact .error e p'
  | excused p' r' excuse => exact .excused p' _ excuse

theorem map {m m' : Eval α} (follows : Follows excused id id m m') :
    Follows excused g g' (g <$> m) (g' <$> m') := by
  rw [← bind_pure_comp, ← bind_pure_comp]
  exact follows.bind pure

theorem ite {b : Bool} {n : Eval β} {n' : Eval γ} (yes : Follows excused g g' m m')
    (no : Follows excused g g' n n') :
    Follows excused g g' (if b then m else n) (if b then m' else n') := by
  cases b with
  | true => exact yes
  | false => exact no

end

variable {l l' : Location} {options options' : Options}

abbrev Nodes (excused : EvalError → Prop) (l l' : Location) (m m' : Eval (List Node)) : Prop :=
  Follows excused (List.map (Node.under l)) (List.map (Node.under l')) m m'

theorem append {first second first' second' : Eval (List Node)} (here : Nodes excused l l' first first')
    (more : Nodes excused l l' second second') :
    Nodes excused l l' (do
      let here ← first
      let more ← second
      return here ++ more) (do
      let here ← first'
      let more ← second'
      return here ++ more) := by
  apply here.bind
  intro ns
  apply more.bind
  intro ms
  rw [← List.map_append, ← List.map_append]
  exact pure (ns ++ ms)

theorem flatMap {f f' : Node → Eval (List Node)}
    (each : ∀ n : Node, Nodes excused l l' (f (n.under l)) (f' (n.under l'))) (ns : List Node) :
    Nodes excused l l' (Eval.flatMap f (ns.map (Node.under l))) (Eval.flatMap f' (ns.map (Node.under l'))) := by
  induction ns with
  | nil => exact pure []
  | cons n ns ih => exact append (each n) ih

theorem checkDepth_of_le {depth depth' : Nat} (below : options.maxDepth - depth ≤ options'.maxDepth - depth')
    (exact : excused (.excess (.depth options.maxDepth)) ∨ options = options' ∧ depth = depth') :
    Follows excused id id (Eval.checkDepth options depth) (Eval.checkDepth options' depth') := by
  rcases exact with excuse | ⟨rfl, rfl⟩
  · intro p
    unfold Eval.checkDepth
    split
    · exact .excused p _ excuse
    · rw [if_neg (by omega)]
      exact .ok () p
  · exact of_eq rfl

section

variable (room : Room excused l l' options options')

include room

/-- Where locations play no part, only a limit on depth can make a difference. -/
theorem congruence : Congruence options options' (Follows excused id id) where
  pure := pure
  throw := throw
  bind := bind
  visit count := of_eq (by rw [room.agree]; rfl)
  checkDepth depth := by
    have deeper := room.deeper
    exact checkDepth_of_le (by omega) (room.exact.imp id fun exact => ⟨exact.1, rfl⟩)
  runPattern source text anchored := of_eq (by rw [room.agree]; rfl)

theorem charged (ns : List Node) : Nodes excused l l' (Eval.charged options (ns.map (Node.under l)))
    (Eval.charged options' (ns.map (Node.under l'))) := by
  unfold Eval.charged
  rw [List.length_map, List.length_map]
  exact ((congruence room).visit ns.length).bind fun _ => pure ns

theorem checkDepth (k : Location) :
    Follows excused id id (Eval.checkDepth options (l ++ k).length) (Eval.checkDepth options' (l' ++ k).length) := by
  have below := room.below
  rw [List.length_append, List.length_append]
  exact checkDepth_of_le (by omega) (room.exact.imp id fun exact => ⟨exact.1, by omega⟩)

theorem keep {test test' : Node → Eval Bool}
    (each : ∀ n : Node, Follows excused id id (test (n.under l)) (test' (n.under l'))) (ns : List Node) :
    Nodes excused l l' (Eval.keep options test (ns.map (Node.under l)))
      (Eval.keep options' test' (ns.map (Node.under l'))) := by
  induction ns with
  | nil => exact pure []
  | cons n ns ih =>
    apply ((congruence room).visit 1).bind
    intro _
    apply (each n).bind
    intro kept
    apply ih.bind
    intro more
    cases kept with
    | true => exact pure (n :: more)
    | false => exact pure more

theorem descend {use use' : Node → Eval (List Node)}
    (uses : ∀ n : Node, Nodes excused l l' (use (n.under l)) (use' (n.under l'))) (n : Node) :
    Nodes excused l l' (Eval.descend options use (n.under l).location (n.under l).value)
      (Eval.descend options' use' (n.under l').location (n.under l').value) := by
  rw [descend_eq_preorder, descend_eq_preorder, Node.preorder_under, Node.preorder_under]
  apply flatMap
  intro m
  apply (checkDepth room m.location).bind
  intro _
  apply ((congruence room).visit 1).bind
  intro _
  exact uses m

theorem compare (operator : Comparison) (d e : Denoted) :
    Follows excused id id (Eval.compare options operator (d.under l) (e.under l))
      (Eval.compare options' operator (d.under l') (e.under l')) := by
  rw [compare_under, compare_under]
  exact (congruence room).compare operator d e

theorem apply (f : Function) (as : List Passed) :
    Follows excused (Denoted.under l) (Denoted.under l') (f.apply options (as.map (Passed.under l)))
      (f.apply options' (as.map (Passed.under l'))) := by
  rw [apply_under, apply_under]
  exact ((congruence room).apply f as).map

end

section

variable {document document' : Value}

mutual

theorem query (room : Room excused l l' options options') :
    ∀ (q : Query), (Phrase.query q).RootFree → ∀ n : Node,
    Nodes excused l l' (Eval.query ⟨document, options⟩ q (n.under l))
      (Eval.query ⟨document', options'⟩ q (n.under l'))
  | .mk .root ss, free, n => by
    cases free.anchor
  | .mk .current ss, free, n => by
    rw [Eval.query, Eval.query]
    exact segments room ss (fun s member => free.part (List.mem_map_of_mem member)) [n]

theorem segments (room : Room excused l l' options options') :
    ∀ (ss : List Segment), (∀ s ∈ ss, (Phrase.segment s).RootFree) → ∀ ns : List Node,
    Nodes excused l l' (Eval.segments ⟨document, options⟩ ss (ns.map (Node.under l)))
      (Eval.segments ⟨document', options'⟩ ss (ns.map (Node.under l')))
  | [], free, ns => by
    rw [Eval.segments, Eval.segments]
    exact pure ns
  | s :: ss, free, ns => by
    obtain ⟨here, more⟩ := List.forall_mem_cons.mp free
    rw [Eval.segments, Eval.segments]
    exact (segment room s here ns).bind fun ns => segments room ss more ns

theorem segment (room : Room excused l l' options options') :
    ∀ (s : Segment), (Phrase.segment s).RootFree → ∀ ns : List Node,
    Nodes excused l l' (Eval.segment ⟨document, options⟩ s (ns.map (Node.under l)))
      (Eval.segment ⟨document', options'⟩ s (ns.map (Node.under l')))
  | .child ss, free, ns => by
    have parts : ∀ s ∈ ss, (Phrase.selector s).RootFree :=
      fun s member => free.part (List.mem_map_of_mem member)
    rw [Eval.segment, Eval.segment]
    exact flatMap (fun n => selectors room ss parts n) ns
  | .descendant ss, free, ns => by
    have parts : ∀ s ∈ ss, (Phrase.selector s).RootFree :=
      fun s member => free.part (List.mem_map_of_mem member)
    rw [Eval.segment, Eval.segment]
    exact flatMap (fun n => descend room (fun d => selectors room ss parts d) n) ns

theorem selectors (room : Room excused l l' options options') :
    ∀ (ss : List Selector), (∀ s ∈ ss, (Phrase.selector s).RootFree) → ∀ n : Node,
    Nodes excused l l' (Eval.selectors ⟨document, options⟩ ss (n.under l))
      (Eval.selectors ⟨document', options'⟩ ss (n.under l'))
  | [], free, n => by
    rw [Eval.selectors, Eval.selectors]
    exact pure []
  | s :: ss, free, n => by
    obtain ⟨here, more⟩ := List.forall_mem_cons.mp free
    rw [Eval.selectors, Eval.selectors]
    exact append (selector room s here n) (selectors room ss more n)

theorem selector (room : Room excused l l' options options') :
    ∀ (s : Selector), (Phrase.selector s).RootFree → ∀ n : Node,
    Nodes excused l l' (Eval.selector ⟨document, options⟩ s (n.under l))
      (Eval.selector ⟨document', options'⟩ s (n.under l'))
  | .name name, free, n => by
    rw [Eval.selector, Eval.selector, Node.child?_under, Node.child?_under, Option.toList_map,
      Option.toList_map]
    exact charged room _
  | .wildcard, free, n => by
    rw [Eval.selector, Eval.selector, Node.children_under, Node.children_under]
    exact charged room _
  | .index index, free, n => by
    rw [Eval.selector, Eval.selector, Node.item?_under, Node.item?_under, Option.toList_map,
      Option.toList_map]
    exact charged room _
  | .slice start stop step, free, n => by
    rw [Eval.selector, Eval.selector, Node.slice_under, Node.slice_under]
    exact charged room _
  | .filter c, free, n => by
    have part : (Phrase.condition c).RootFree := free.part (by simp)
    rw [Eval.selector, Eval.selector, Node.children_under, Node.children_under]
    exact keep room (fun child => condition room c part child) n.children

theorem condition (room : Room excused l l' options options') :
    ∀ (c : Condition), (Phrase.condition c).RootFree → ∀ n : Node,
    Follows excused id id (Eval.condition ⟨document, options⟩ c (n.under l))
      (Eval.condition ⟨document', options'⟩ c (n.under l'))
  | .any cs, free, n => by
    rw [Eval.condition, Eval.condition]
    exact anyHolds room cs (fun c member => free.part (List.mem_map_of_mem member)) n
  | .all cs, free, n => by
    rw [Eval.condition, Eval.condition]
    exact allHold room cs (fun c member => free.part (List.mem_map_of_mem member)) n
  | .negation c, free, n => by
    have part : (Phrase.condition c).RootFree := free.part (by simp)
    rw [Eval.condition, Eval.condition]
    exact (condition room c part n).bind fun holds => pure _
  | .compare operator left right, free, n => by
    have leftPart : (Phrase.operand left).RootFree := free.part (by simp)
    have rightPart : (Phrase.operand right).RootFree := free.part (by simp)
    rw [Eval.condition, Eval.condition]
    apply (operand room left leftPart n).bind
    intro d
    apply (operand room right rightPart n).bind
    intro e
    exact compare room operator d e
  | .selects q, free, n => by
    have part : (Phrase.query q).RootFree := free.part (by simp)
    rw [Eval.condition, Eval.condition]
    apply (query room q part n).bind
    intro ns
    rw [List.isEmpty_map, List.isEmpty_map]
    exact pure _
  | .call f as, free, n => by
    have parts : ∀ a ∈ as, (Phrase.argument a).RootFree :=
      fun a member => free.part (List.mem_map_of_mem member)
    rw [Eval.condition, Eval.condition]
    apply (arguments room f as parts f.parameters n).bind
    intro passed
    apply (apply room f passed).bind
    intro d
    rw [Denoted.isTrue_under, Denoted.isTrue_under]
    exact pure _

theorem anyHolds (room : Room excused l l' options options') :
    ∀ (cs : List Condition), (∀ c ∈ cs, (Phrase.condition c).RootFree) → ∀ n : Node,
    Follows excused id id (Eval.anyHolds ⟨document, options⟩ cs (n.under l))
      (Eval.anyHolds ⟨document', options'⟩ cs (n.under l'))
  | [], free, n => by
    rw [Eval.anyHolds, Eval.anyHolds]
    exact pure false
  | c :: cs, free, n => by
    obtain ⟨here, more⟩ := List.forall_mem_cons.mp free
    rw [Eval.anyHolds, Eval.anyHolds]
    exact (condition room c here n).bind fun holds => ite (pure true) (anyHolds room cs more n)

theorem allHold (room : Room excused l l' options options') :
    ∀ (cs : List Condition), (∀ c ∈ cs, (Phrase.condition c).RootFree) → ∀ n : Node,
    Follows excused id id (Eval.allHold ⟨document, options⟩ cs (n.under l))
      (Eval.allHold ⟨document', options'⟩ cs (n.under l'))
  | [], free, n => by
    rw [Eval.allHold, Eval.allHold]
    exact pure true
  | c :: cs, free, n => by
    obtain ⟨here, more⟩ := List.forall_mem_cons.mp free
    rw [Eval.allHold, Eval.allHold]
    exact (condition room c here n).bind fun holds => ite (allHold room cs more n) (pure false)

theorem operand (room : Room excused l l' options options') :
    ∀ (o : Operand), (Phrase.operand o).RootFree → ∀ n : Node,
    Follows excused (Denoted.under l) (Denoted.under l') (Eval.operand ⟨document, options⟩ o (n.under l))
      (Eval.operand ⟨document', options'⟩ o (n.under l'))
  | .literal v, free, n => by
    rw [Eval.operand, Eval.operand]
    exact pure (Denoted.value v none)
  | .query q, free, n => by
    have part : (Phrase.query q).RootFree := free.part (by simp)
    rw [Eval.operand, Eval.operand]
    apply (query room q part n).bind
    intro ns
    rw [Denoted.ofNodes_under, Denoted.ofNodes_under]
    exact pure (Denoted.ofNodes ns)
  | .call f as, free, n => by
    have parts : ∀ a ∈ as, (Phrase.argument a).RootFree :=
      fun a member => free.part (List.mem_map_of_mem member)
    rw [Eval.operand, Eval.operand]
    exact (arguments room f as parts f.parameters n).bind fun passed => apply room f passed

theorem arguments (room : Room excused l l' options options') (f : Function) :
    ∀ (as : List Argument), (∀ a ∈ as, (Phrase.argument a).RootFree) →
    ∀ (types : List DeclaredType) (n : Node),
    Follows excused (List.map (Passed.under l)) (List.map (Passed.under l'))
      (Eval.arguments ⟨document, options⟩ f types as (n.under l))
      (Eval.arguments ⟨document', options'⟩ f types as (n.under l'))
  | [], free, [], n => by
    simp only [Eval.arguments]
    exact pure []
  | [], free, _ :: _, n => by
    simp only [Eval.arguments]
    exact throw _
  | _ :: _, free, [], n => by
    simp only [Eval.arguments]
    exact throw _
  | a :: as, free, type :: types, n => by
    obtain ⟨here, more⟩ := List.forall_mem_cons.mp free
    rw [Eval.arguments, Eval.arguments]
    apply (argument room a here type n).bind
    intro p
    apply (arguments room f as more types n).bind
    intro ps
    exact pure (p :: ps)

theorem argument (room : Room excused l l' options options') :
    ∀ (a : Argument), (Phrase.argument a).RootFree → ∀ (type : DeclaredType) (n : Node),
    Follows excused (Passed.under l) (Passed.under l') (Eval.argument ⟨document, options⟩ type a (n.under l))
      (Eval.argument ⟨document', options'⟩ type a (n.under l'))
  | .literal v, free, type, n => by
    cases type <;> simp only [Eval.argument] <;> exact pure (Passed.one (.value v none))
  | .query q, free, type, n => by
    have part : (Phrase.query q).RootFree := free.part (by simp)
    have selected : Nodes excused l l' (Eval.query ⟨document, options⟩ q (n.under l))
      (Eval.query ⟨document', options'⟩ q (n.under l')) := query room q part n
    have only : Follows excused (Passed.under l) (Passed.under l')
        (do return .one (.ofNodes (← Eval.query ⟨document, options⟩ q (n.under l))))
        (do return .one (.ofNodes (← Eval.query ⟨document', options'⟩ q (n.under l')))) := by
      apply selected.bind
      intro ns
      rw [Denoted.ofNodes_under, Denoted.ofNodes_under]
      exact pure (Passed.one (.ofNodes ns))
    cases type with
    | nodes =>
      simp only [Eval.argument]
      exact selected.bind fun ns => pure (Passed.nodes ns)
    | _ => simpa only [Eval.argument] using only
  | .condition c, free, type, n => by
    have part : (Phrase.condition c).RootFree := free.part (by simp)
    have holds : Follows excused id id (Eval.condition ⟨document, options⟩ c (n.under l))
      (Eval.condition ⟨document', options'⟩ c (n.under l')) := condition room c part n
    have truth : Follows excused (Passed.under l) (Passed.under l')
        (do return .one (.ofBool (← Eval.condition ⟨document, options⟩ c (n.under l))))
        (do return .one (.ofBool (← Eval.condition ⟨document', options'⟩ c (n.under l')))) :=
      holds.bind fun b => pure (Passed.one (.ofBool b))
    cases c with
    | call f as =>
      have parts : ∀ a ∈ as, (Phrase.argument a).RootFree :=
        fun a member => part.part (List.mem_map_of_mem member)
      have passed : Follows excused (List.map (Passed.under l)) (List.map (Passed.under l'))
        (Eval.arguments ⟨document, options⟩ f f.parameters as (n.under l))
        (Eval.arguments ⟨document', options'⟩ f f.parameters as (n.under l')) :=
          arguments room f as parts f.parameters n
      cases type with
      | logical => simpa only [Eval.argument] using truth
      | _ =>
        simp only [Eval.argument]
        apply passed.bind
        intro ps
        apply (apply room f ps).bind
        intro d
        exact pure (Passed.one d)
    | _ => cases type <;> simpa only [Eval.argument] using truth

end

end

end Follows

end Eval

namespace Query

/-- How a query ends in a document, with the node at a location for the current one. -/
def runAt (q : Query) (scope : Scope) (l : Location) (p : Progress) :
    Option (EStateM.Result EvalError Progress (List Node)) :=
  (scope.document.at? l).map fun v => Eval.query scope q ⟨v, l⟩ p

/-- From the node at a location a query goes beyond the limit on depth. -/
def TooDeepAt (q : Query) (scope : Scope) (l : Location) (p : Progress) : Prop :=
  ∃ p', q.runAt scope l p = some (.error (.excess (.depth scope.options.maxDepth)) p')

variable {document v : Value} {l : Location} {ss : List Segment}

section

variable {options options' : Options} {l' : Location} {document' : Value} {excused : EvalError → Prop}

theorem runAt_eq (place : document.at? l = some v) (q : Query) (options : Options) (p : Progress) :
    q.runAt ⟨document, options⟩ l p = some (Eval.query ⟨document, options⟩ q ⟨v, l⟩ p) := by
  rw [runAt, place, Option.map_some]

theorem runAt_root_nil (v : Value) (ss : List Segment) (options : Options) (p : Progress) :
    (mk .root ss).runAt ⟨v, options⟩ [] p = (mk .current ss).runAt ⟨v, options⟩ [] p := by
  have same : Eval.query ⟨v, options⟩ (mk .root ss) ⟨v, []⟩ =
      Eval.query ⟨v, options⟩ (mk .current ss) ⟨v, []⟩ := by
    rw [Eval.query, Eval.query]
    rfl
  simp only [runAt, Value.at?, Option.map_some, same]

theorem runAt_moved {q : Query} (room : Eval.Room excused l l' options options')
    (place : document.at? l = some v) (place' : document'.at? l' = some v)
    (free : (Phrase.query q).RootFree) (p : Progress)
    (counts : ∀ e p', excused e → q.runAt ⟨document, options⟩ l p ≠ some (.error e p')) :
    ∃ r, q.runAt ⟨document, options⟩ l p = some (Eval.mapped (List.map (Node.under l)) r) ∧
      q.runAt ⟨document', options'⟩ l' p = some (Eval.mapped (List.map (Node.under l')) r) := by
  have base (k : Location) : (⟨v, []⟩ : Node).under k = ⟨v, k⟩ := by simp [Node.under]
  have follows : Eval.Follows.Nodes excused l l' (Eval.query ⟨document, options⟩ q ⟨v, l⟩)
      (Eval.query ⟨document', options'⟩ q ⟨v, l'⟩) := by
    rw [← base l, ← base l']
    exact Eval.Follows.query room q free ⟨v, []⟩
  rw [runAt_eq place] at counts ⊢
  rw [runAt_eq place']
  obtain ⟨r, here, there⟩ := (follows p).mapped fun e p' excuse stopped =>
    counts e p' excuse (congrArg some stopped)
  exact ⟨r, by rw [here], by rw [there]⟩

end

/-- A relative query that nowhere goes back to the root sees only what is below its node. It ends as the
absolute query does in the value there, every location apart, unless it goes too deep, and depth counts
from the root. What else the document holds makes no difference. -/
theorem runAt_subtree (place : document.at? l = some v)
    (free : (Phrase.query (mk .current ss)).RootFree) (options : Options) (p : Progress) :
    (¬ (mk .current ss).TooDeepAt ⟨document, options⟩ l p →
      (mk .current ss).runAt ⟨document, options⟩ l p =
        ((mk .root ss).runAt ⟨v, options⟩ [] p).map (Eval.mapped (List.map (Node.under l)))) ∧
    (¬ (mk .root ss).TooDeepAt ⟨v, options⟩ [] p →
      (mk .current ss).runAt
          ⟨document, { options with maxDepth := options.maxDepth + l.length }⟩ l p =
        ((mk .root ss).runAt ⟨v, options⟩ [] p).map (Eval.mapped (List.map (Node.under l)))) ∧
    ∀ document' : Value, document'.at? l = document.at? l →
      (mk .current ss).runAt ⟨document', options⟩ l p =
        (mk .current ss).runAt ⟨document, options⟩ l p := by
  have whole : v.at? [] = some v := rfl
  rw [runAt_root_nil]
  refine ⟨fun shallow => ?_, fun shallow => ?_, fun document' agree => ?_⟩
  · have room : Eval.Room (· = .excess (.depth options.maxDepth)) l [] options options := {
      agree := rfl
      deeper := Int.le_refl _
      below := by simp only [List.length_nil]; omega
      exact := .inl rfl }
    obtain ⟨r, here, there⟩ := runAt_moved room place whole free p fun e p' excuse stopped =>
      shallow ⟨p', by rw [stopped, excuse]⟩
    rw [here, there, Option.map_some, Eval.mapped_map_under_nil]
  · have room : Eval.Room (· = .excess (.depth options.maxDepth)) [] l options
        { options with maxDepth := options.maxDepth + l.length } := {
      agree := rfl
      deeper := by simp only; omega
      below := by simp only [List.length_nil]; omega
      exact := .inl rfl }
    obtain ⟨r, there, here⟩ := runAt_moved room whole place free p fun e p' excuse stopped =>
      shallow ⟨p', by rw [runAt_root_nil, stopped, excuse]⟩
    rw [here, there, Option.map_some, Eval.mapped_map_under_nil]
  · have room : Eval.Room (fun _ => False) l l options options := {
      agree := rfl
      deeper := Int.le_refl _
      below := Int.le_refl _
      exact := .inr ⟨rfl, rfl⟩ }
    obtain ⟨r, here, there⟩ := runAt_moved room (agree.trans place) place free p fun _ _ never => never.elim
    rw [here, there]

/-- `@..[?@[?@ == 's']]` from a member of two documents, and from the root of that member on its own. -/
theorem runAt_subtree_filter :
    let here : Query := .mk .current []
    let inner : Selector := .filter (.compare .eq (.query here) (.literal (.string "s")))
    let ss : List Segment :=
      [.descendant [.filter (.selects (.mk .current [.child [inner]]))]]
    let v : Value := .object [("k", .array [.object [("x", .string "s")], .string "s"])]
    let document : Value := .object [("a", v), ("b", .array [.string "s"])]
    let document' : Value := .object [("a", v)]
    let l : Location := [.member "a"]
    document.at? l = some v ∧ (Phrase.query (mk .current ss)).RootFree ∧
      ∃ nodes p', (mk .root ss).runAt ⟨v, {}⟩ [] {} = some (.ok nodes p') ∧
        nodes.map Node.path = ["$['k']", "$['k'][0]"] ∧
        ∀ scope ∈ [Scope.mk document {}, ⟨document', {}⟩],
          (mk .current ss).runAt scope l {} = some (.ok (nodes.map (Node.under l)) p') := by
  intro here inner ss v document document' l
  have place : document.at? l = some v := by rfl
  have place' : document'.at? l = some v := by rfl
  have free : (Phrase.query (mk .current ss)).RootFree := by
    simp [Phrase.rootFree_iff, ss, inner, here, Query.segments, Segment.selectors, Query.anchor]
  have top : v.at? [] = some v := by rfl
  have selected : Eval.paths? (Eval.query ⟨document, {}⟩ (mk .current ss) ⟨v, l⟩ {}) =
      some ["$['a']['k']", "$['a']['k'][0]"] := by
    decide +kernel
  have shallow : ¬ (mk .current ss).TooDeepAt ⟨document, {}⟩ l {} := by
    rintro ⟨p', stopped⟩
    rw [runAt_eq place, Option.some.injEq] at stopped
    rw [stopped] at selected
    cases selected
  have alone : Eval.paths? (Eval.query ⟨v, {}⟩ (mk .root ss) ⟨v, []⟩ {}) =
      some ["$['k']", "$['k'][0]"] := by
    decide +kernel
  obtain ⟨nodes, p', run, paths⟩ := Eval.exists_of_paths? alone
  have whole : (mk .root ss).runAt ⟨v, {}⟩ [] {} = some (.ok nodes p') := by rw [runAt_eq top, run]
  obtain ⟨moved, -, elsewhere⟩ := runAt_subtree place free {} {}
  have same := moved shallow
  have same' := elsewhere document' (place'.trans place.symm)
  rw [whole] at same
  refine ⟨place, free, nodes, p', whole, paths, ?_⟩
  rw [List.forall_mem_cons, List.forall_mem_singleton]
  exact ⟨same, same'.trans same⟩

end Query

end JsonPath
