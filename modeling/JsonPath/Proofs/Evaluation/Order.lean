import JsonPath.Proofs.Evaluation.Congruence
import JsonPath.Proofs.Evaluation.Descent
import JsonPath.Proofs.Evaluation.Equality
import JsonPath.Proofs.Pattern.Compiled

namespace JsonPath

inductive Denoted.Reordered : Denoted → Denoted → Prop
  | nothing : Reordered .nothing .nothing
  | value {v w : Value} (same : v.Reordered w) (origin : Option Location) :
      Reordered (.value v origin) (.value w origin)

inductive Passed.Reordered : Passed → Passed → Prop
  | one {d e : Denoted} (same : d.Reordered e) : Reordered (.one d) (.one e)
  | nodes {ns ms : List Node} (same : Node.Permuted ns ms) : Reordered (.nodes ns) (.nodes ms)

namespace Passed

def text? : Passed → Option String
  | .one (.value (.string s) _) => some s
  | _ => none

theorem eq_of_text? {a : Passed} {s : String} (text : a.text? = some s) :
    ∃ origin, a = .one (.value (.string s) origin) := by
  unfold text? at text
  split at text
  · cases text
    exact ⟨_, rfl⟩
  · contradiction

theorem Reordered.text?_eq {a b : Passed} (same : a.Reordered b) : a.text? = b.text? := by
  cases same with
  | nodes permuted => rfl
  | one same =>
    cases same with
    | nothing => rfl
    | @value v w same origin =>
      cases same with
      | refl => cases v <;> rfl
      | _ => rfl

end Passed

namespace Denoted

theorem Reordered.refl (d : Denoted) : d.Reordered d := by
  cases d with
  | nothing => exact .nothing
  | value v origin => exact .value (.refl v) origin

theorem ofNodes_reordered {ns ms : List Node} (permuted : Node.Permuted ns ms) :
    (ofNodes ns).Reordered (ofNodes ms) := by
  have lengths := permuted.length_eq
  match ns, ms with
  | [], [] => exact .nothing
  | [n], ms =>
    obtain ⟨m, rfl, same⟩ := permuted.singleton
    rw [ofNodes, ofNodes, same.location]
    exact .value same.value _
  | _ :: _ :: _, _ :: _ :: _ => exact .nothing
  | _ :: _ :: _, [_] => simp at lengths

variable {d e d' e' : Denoted}

theorem Reordered.isTrue_eq (same : d.Reordered e) : d.isTrue = e.isTrue := by
  cases same with
  | nothing => rfl
  | @value v w same origin =>
    cases v with
    | array vs =>
      obtain ⟨ws, rfl, items⟩ := Value.Reordered.array_iff.mp same
      cases items <;> rfl
    | object ms =>
      obtain ⟨-, ns, rfl, -⟩ := same.object_cases
      rfl
    | _ => rw [same.eq_of_scalar rfl]

theorem Reordered.isSamePlace_eq (left : d.Reordered e) (right : d'.Reordered e') :
    d.isSamePlace d' = e.isSamePlace e' := by
  cases left with
  | nothing => rfl
  | value same origin =>
    cases right with
    | nothing => cases origin <;> rfl
    | value same' origin' =>
      cases origin <;> cases origin' <;>
        simp [isSamePlace, same.isContainer_eq, same.kind_eq, same'.kind_eq]

theorem Reordered.same_eq (left : d.Reordered e) (right : d'.Reordered e') : d.same d' = e.same e' := by
  have place := left.isSamePlace_eq right
  cases left with
  | nothing => cases right <;> rfl
  | value same origin =>
    cases right with
    | nothing => rfl
    | value same' origin' => rw [Denoted.same, Denoted.same, place, same.same_eq same']

theorem Reordered.less_eq (left : d.Reordered e) (right : d'.Reordered e') :
    Eval.less d d' = Eval.less e e' := by
  cases left with
  | nothing => rfl
  | @value v w same origin =>
    cases right with
    | nothing => cases v <;> cases w <;> rfl
    | @value v' w' same' origin' =>
      cases same with
      | refl =>
        cases same' with
        | refl => rfl
        | _ => cases v <;> rfl
      | _ => rfl

end Denoted

namespace Eval

/-- What two computations return, each from some state, is related. -/
def Agree {α β : Type} (R : α → β → Prop) (m : Eval α) (m' : Eval β) : Prop :=
  ∀ p p' a b q q', p.matcher.Sound → p'.matcher.Sound → m p = .ok a q → m' p' = .ok b q' →
    q.matcher.Sound ∧ q'.matcher.Sound ∧ R a b

def Gives {α : Type} (m : Eval α) (a : α) : Prop := ∃ p q, p.matcher.Sound ∧ m p = .ok a q

abbrev KeepsSound {α : Type} (m : Eval α) : Prop := Preserves (fun p => p.matcher.Sound) m

theorem KeepsSound.congruence (options : Options) :
    Congruence options options fun m _ => KeepsSound m := by
  apply Preserves.congruence
  · intro count p u p' sound run
    obtain ⟨-, rfl⟩ := visit_eq_ok.mp run
    exact sound
  · intro source text anchored p b p' sound run
    obtain ⟨p?, log, m, compiled, -, rfl⟩ := runPattern_eq_ok.mp run
    exact (sound.pattern compiled).1

theorem flatMap_gives {f : Node → Eval (List Node)} (keeps : ∀ n, KeepsSound (f n)) {ns r : List Node}
    (gives : Gives (flatMap f ns) r) :
    ∃ rs, List.Forall₂ (fun n r => Gives (f n) r) ns rs ∧ rs.flatten = r := by
  obtain ⟨p, q, sound, run⟩ := gives
  induction ns generalizing p r with
  | nil =>
    cases run
    exact ⟨[], .nil, rfl⟩
  | cons n ns ih =>
    obtain ⟨here, middle, first, run⟩ := EStateM.bind_eq_ok.mp run
    obtain ⟨more, last, rest, run⟩ := EStateM.bind_eq_ok.mp run
    cases run
    obtain ⟨rs, given, rfl⟩ := ih middle (keeps n p here middle sound first) rest
    exact ⟨here :: rs, .cons ⟨p, middle, sound, first⟩ given, rfl⟩

theorem flatMap_keepsSound {f : Node → Eval (List Node)} (keeps : ∀ n, KeepsSound (f n))
    (ns : List Node) : KeepsSound (flatMap f ns) := by
  induction ns with
  | nil => exact Preserves.pure []
  | cons n ns ih =>
    apply (keeps n).bind
    intro here
    apply Preserves.bind ih
    intro more
    exact Preserves.pure (here ++ more)

def keepOne (options : Options) (test : Node → Eval Bool) (n : Node) : Eval (List Node) := do
  visit options 1
  let kept ← test n
  return if kept then [n] else []

theorem keepOne_keepsSound {options : Options} {test : Node → Eval Bool} {n : Node}
    (keeps : KeepsSound (test n)) : KeepsSound (keepOne options test n) := by
  apply Preserves.bind ((KeepsSound.congruence options).visit 1)
  intro _
  apply keeps.bind
  intro kept
  exact Preserves.pure _

theorem useVisited_keepsSound {options : Options} {use : Node → Eval (List Node)} {n : Node}
    (keeps : KeepsSound (use n)) : KeepsSound (useVisited options use n) := by
  have checked : KeepsSound (checkDepth options n.location.length) := Preserves.checkDepth options _
  apply checked.bind
  intro _
  exact ((KeepsSound.congruence options).visit 1).bind fun _ => keeps

theorem descend_keepsSound {options : Options} {use : Node → Eval (List Node)}
    (keeps : ∀ n, KeepsSound (use n)) {location : Location} {v : Value} :
    KeepsSound (descend options use location v) := by
  rw [descend_eq_flatMap]
  exact flatMap_keepsSound (fun n => useVisited_keepsSound (keeps n)) _

theorem keep_eq_flatMap (options : Options) (test : Node → Eval Bool) (ns : List Node) :
    keep options test ns = flatMap (keepOne options test) ns := by
  induction ns with
  | nil => rfl
  | cons n ns ih =>
    simp only [keep, flatMap, keepOne, ih, bind_assoc, pure_bind]
    congr 1
    funext _
    congr 1
    funext kept
    cases kept <;> simp

namespace Agree

section

variable {α β γ δ : Type} {R : α → β → Prop} {S : γ → δ → Prop} {m : Eval α} {m' : Eval β}

theorem pure {a : α} {b : β} (related : R a b) : Agree R (Pure.pure a) (Pure.pure b) := by
  intro p p' a' b' q q' sound sound' run run'
  cases run
  cases run'
  exact ⟨sound, sound', related⟩

theorem bind {f : α → Eval γ} {f' : β → Eval δ} (first : Agree R m m')
    (next : ∀ a b, R a b → Agree S (f a) (f' b)) : Agree S (m >>= f) (m' >>= f') := by
  intro p p' c d q q' sound sound' run run'
  obtain ⟨a, middle, here, rest⟩ := EStateM.bind_eq_ok.mp run
  obtain ⟨b, middle', here', rest'⟩ := EStateM.bind_eq_ok.mp run'
  obtain ⟨sound, sound', related⟩ := first p p' a b middle middle' sound sound' here here'
  exact next a b related middle middle' c d q q' sound sound' rest rest'

theorem of_gives (agree : Agree R m m') {a : α} {b : β} (gives : Gives m a) (gives' : Gives m' b) :
    R a b := by
  obtain ⟨p, q, sound, run⟩ := gives
  obtain ⟨p', q', sound', run'⟩ := gives'
  exact (agree p p' a b q q' sound sound' run run').2.2

/-- Where both computations keep matchers sound, only what they can return matters. -/
theorem of_keepsSound (keeps : KeepsSound m) (keeps' : KeepsSound m')
    (related : ∀ a b, Gives m a → Gives m' b → R a b) : Agree R m m' := by
  intro p p' a b q q' sound sound' run run'
  exact ⟨keeps p a q sound run, keeps' p' b q' sound' run',
    related a b ⟨p, q, sound, run⟩ ⟨p', q', sound', run'⟩⟩

theorem ite {b c : Bool} {n : Eval α} {n' : Eval β} (same : b = c) (yes : Agree R m m')
    (no : Agree R n n') : Agree R (if b then m else n) (if c then m' else n') := by
  subst same
  cases b with
  | true => exact yes
  | false => exact no

theorem throw {e e' : EvalError} :
    Agree R (MonadExcept.throw e : Eval α) (MonadExcept.throw e' : Eval β) := by
  intro p p' a b q q' _ _ run
  contradiction

end

variable {options options' : Options}

theorem visit (count count' : Nat) :
    Agree (fun _ _ => True) (Eval.visit options count) (Eval.visit options' count') := by
  intro p p' u u' q q' sound sound' run run'
  obtain ⟨-, rfl⟩ := visit_eq_ok.mp run
  obtain ⟨-, rfl⟩ := visit_eq_ok.mp run'
  exact ⟨sound, sound', trivial⟩

theorem checkDepth (depth depth' : Nat) :
    Agree (fun _ _ => True) (Eval.checkDepth options depth) (Eval.checkDepth options' depth') := by
  intro p p' u u' q q' sound sound' run run'
  obtain ⟨-, rfl⟩ := checkDepth_eq_ok.mp run
  obtain ⟨-, rfl⟩ := checkDepth_eq_ok.mp run'
  exact ⟨sound, sound', trivial⟩

theorem charged {ns ms : List Node} (permuted : Node.Permuted ns ms) :
    Agree Node.Permuted (Eval.charged options ns) (Eval.charged options' ms) :=
  (visit _ _).bind fun _ _ _ => pure permuted

theorem runPattern (source text : String) (anchored : Bool) :
    Agree (· = ·) (Eval.runPattern options source text anchored)
      (Eval.runPattern options' source text anchored) := by
  intro p p' b c q q' sound sound' run run'
  obtain ⟨p?, log, m, compiled, tested, rfl⟩ := runPattern_eq_ok.mp run
  obtain ⟨p?', log', m', compiled', tested', rfl⟩ := runPattern_eq_ok.mp run'
  obtain ⟨sound, entry, freely⟩ := sound.pattern compiled
  obtain ⟨sound', entry', freely'⟩ := sound'.pattern compiled'
  rw [freely, Except.ok.injEq, Prod.mk.injEq] at freely'
  obtain ⟨rfl, rfl⟩ := freely'
  refine ⟨sound, sound', ?_⟩
  rw [← (Matcher.test_eq_ok_iff.mp tested).2, ← (Matcher.test_eq_ok_iff.mp tested').2]

theorem equal {d e d' e' : Denoted} (left : d.Reordered e) (right : d'.Reordered e') :
    Agree (· = ·) (Eval.equal options d d') (Eval.equal options' e e') := by
  apply of_keepsSound ((KeepsSound.congruence options).equal d d')
    ((KeepsSound.congruence options').equal e e')
  rintro a b ⟨p, q, -, run⟩ ⟨p', q', -, run'⟩
  rw [eq_same_of_equal run, eq_same_of_equal run']
  exact left.same_eq right

theorem compare (operator : Comparison) {d e d' e' : Denoted} (left : d.Reordered e)
    (right : d'.Reordered e') : Agree (· = ·) (Eval.compare options operator d d')
      (Eval.compare options' operator e e') := by
  have equal : Agree (· = ·) (Eval.equal options d d') (Eval.equal options' e e') := equal left right
  cases operator with
  | eq => exact equal
  | ne =>
    apply equal.bind
    rintro a _ rfl
    exact pure rfl
  | lt => exact pure (left.less_eq right)
  | le => exact ite (left.less_eq right) (pure rfl) equal
  | gt => exact pure (right.less_eq left)
  | ge => exact ite (right.less_eq left) (pure rfl) equal
  | other symbol => exact throw

end Agree

theorem lengthOf_reordered {a b : Passed} (same : a.Reordered b) :
    (Function.lengthOf a).Reordered (Function.lengthOf b) := by
  cases same with
  | nodes permuted =>
    rw [Function.lengthOf, Function.lengthOf, permuted.length_eq]
    exact .refl _
  | one same =>
    cases same with
    | nothing => exact .nothing
    | @value v w same origin =>
      cases v with
      | array vs =>
        obtain ⟨ws, rfl, items⟩ := Value.Reordered.array_iff.mp same
        rw [Function.lengthOf, Function.lengthOf, items.length_eq]
        exact .refl _
      | object ms =>
        obtain ⟨ns, ns', rfl, members, order, -⟩ := same.object_cases
        rw [Function.lengthOf, Function.lengthOf, members.length_eq, order.length_eq]
        exact .refl _
      | _ =>
        rw [same.eq_of_scalar rfl]
        exact .refl _

theorem countOf_reordered {a b : Passed} (same : a.Reordered b) :
    (Function.countOf a).Reordered (Function.countOf b) := by
  cases same with
  | nodes permuted =>
    rw [Function.countOf, Function.countOf, permuted.length_eq]
    exact .refl _
  | one same =>
    cases same with
    | nothing => exact .refl _
    | @value v w same origin =>
      cases v with
      | array vs =>
        obtain ⟨ws, rfl, items⟩ := Value.Reordered.array_iff.mp same
        rw [Function.countOf, Function.countOf, items.length_eq]
        exact .refl _
      | object ms =>
        obtain ⟨ns, ns', rfl, -⟩ := same.object_cases
        exact .refl _
      | _ =>
        rw [same.eq_of_scalar rfl]
        exact .refl _

theorem valueOf_reordered {a b : Passed} (same : a.Reordered b) :
    (Function.valueOf a).Reordered (Function.valueOf b) := by
  cases same with
  | nodes permuted => exact Denoted.ofNodes_reordered permuted
  | one same => exact .nothing

theorem matchOf_eq (options : Options) (anchored : Bool) (a b : Passed) :
    Function.matchOf options anchored a b =
      match a.text?, b.text? with
      | some text, some source => do return .ofBool (← runPattern options source text anchored)
      | _, _ => return .ofBool false := by
  unfold Function.matchOf
  split
  · rfl
  · next other =>
    split
    · next text source here here' =>
      obtain ⟨origin, rfl⟩ := Passed.eq_of_text? here
      obtain ⟨origin', rfl⟩ := Passed.eq_of_text? here'
      exact absurd rfl (other text origin source origin' rfl)
    · rfl

namespace Agree

variable {options options' : Options}

theorem matchOf (anchored : Bool) {a b a' b' : Passed} (same : a.Reordered b)
    (same' : a'.Reordered b') : Agree Denoted.Reordered (Function.matchOf options anchored a a')
      (Function.matchOf options' anchored b b') := by
  rw [Eval.matchOf_eq, Eval.matchOf_eq, same.text?_eq, same'.text?_eq]
  split
  · apply (runPattern _ _ anchored).bind
    rintro found _ rfl
    exact pure (.refl _)
  · exact pure (.refl _)

theorem apply (f : Function) {as bs : List Passed} (same : List.Forall₂ Passed.Reordered as bs) :
    Agree Denoted.Reordered (f.apply options as) (f.apply options' bs) := by
  cases same with
  | nil => cases f <;> exact throw
  | cons first more =>
    cases more with
    | nil =>
      cases f with
      | length => exact pure (lengthOf_reordered first)
      | count => exact pure (countOf_reordered first)
      | value => exact pure (valueOf_reordered first)
      | _ => exact throw
    | cons second more =>
      cases more with
      | nil =>
        cases f with
        | fullMatch => exact matchOf true first second
        | search => exact matchOf false first second
        | _ => exact throw
      | cons third more => cases f <;> exact throw

theorem append {first second first' second' : Eval (List Node)}
    (here : Agree Node.Permuted first first') (more : Agree Node.Permuted second second') :
    Agree Node.Permuted (do
      let here ← first
      let more ← second
      return here ++ more) (do
      let here ← first'
      let more ← second'
      return here ++ more) := by
  apply here.bind
  intro ns ms permuted
  apply more.bind
  intro ns' ms' permuted'
  exact pure (permuted.append permuted')

/-- The nodes of each list are taken in their own order, so the two runs meet the same node in
different states, and only what each node can give is compared. -/
theorem flatMap {f f' : Node → Eval (List Node)} (keeps : ∀ n, KeepsSound (f n))
    (keeps' : ∀ n, KeepsSound (f' n)) {ns ms : List Node} (permuted : Node.Permuted ns ms)
    (each : ∀ n m, n.Reordered m → Agree Node.Permuted (f n) (f' m)) :
    Agree Node.Permuted (Eval.flatMap f ns) (Eval.flatMap f' ms) := by
  apply of_keepsSound (flatMap_keepsSound keeps ns) (flatMap_keepsSound keeps' ms)
  intro r r' gives gives'
  obtain ⟨rs, given, rfl⟩ := flatMap_gives keeps gives
  obtain ⟨rs', given', rfl⟩ := flatMap_gives keeps' gives'
  exact permuted.flatten given given' fun n m r r' same here here' =>
    (each n m same).of_gives here here'

theorem keep {test test' : Node → Eval Bool} (keeps : ∀ n, KeepsSound (test n))
    (keeps' : ∀ n, KeepsSound (test' n)) {ns ms : List Node} (permuted : Node.Permuted ns ms)
    (each : ∀ n m, n.Reordered m → Agree (· = ·) (test n) (test' m)) :
    Agree Node.Permuted (Eval.keep options test ns) (Eval.keep options' test' ms) := by
  rw [keep_eq_flatMap, keep_eq_flatMap]
  refine flatMap (fun n => keepOne_keepsSound (keeps n)) (fun n => keepOne_keepsSound (keeps' n)) permuted ?_
  intro n m same
  apply Agree.bind (visit 1 1)
  intro _ _ _
  apply (each n m same).bind
  rintro b _ rfl
  cases b with
  | true => exact pure (.of_forall₂ (.cons same .nil))
  | false => exact pure (.of_forall₂ .nil)

theorem descend {use use' : Node → Eval (List Node)} (keeps : ∀ n, KeepsSound (use n))
    (keeps' : ∀ n, KeepsSound (use' n)) {n m : Node} (same : n.Reordered m)
    (each : ∀ n m, n.Reordered m → Agree Node.Permuted (use n) (use' m)) :
    Agree Node.Permuted (Eval.descend options use n.location n.value)
      (Eval.descend options' use' m.location m.value) := by
  rw [descend_eq_flatMap, descend_eq_flatMap, ← same.location]
  refine flatMap (fun n => useVisited_keepsSound (keeps n)) (fun n => useVisited_keepsSound (keeps' n))
    (same.value.preorder n.location) ?_
  intro n m same
  apply Agree.bind (checkDepth _ _)
  intro _ _ _
  apply Agree.bind (visit 1 1)
  intro _ _ _
  exact each n m same

section

variable {document document' : Value}

mutual

theorem query (reordered : document.Reordered document') : ∀ (q : Query) {n m : Node}, n.Reordered m →
    Agree Node.Permuted (Eval.query ⟨document, options⟩ q n) (Eval.query ⟨document', options'⟩ q m)
  | .mk .root ss, n, m, same => by
    rw [Eval.query, Eval.query]
    exact segments reordered ss (.single reordered [])
  | .mk .current ss, n, m, same => by
    rw [Eval.query, Eval.query]
    exact segments reordered ss (.of_forall₂ (.cons same .nil))

theorem segments (reordered : document.Reordered document') :
    ∀ (ss : List Segment) {ns ms : List Node}, Node.Permuted ns ms →
    Agree Node.Permuted (Eval.segments ⟨document, options⟩ ss ns)
      (Eval.segments ⟨document', options'⟩ ss ms)
  | [], ns, ms, permuted => by
    rw [Eval.segments, Eval.segments]
    exact pure permuted
  | s :: ss, ns, ms, permuted => by
    rw [Eval.segments, Eval.segments]
    exact (segment reordered s permuted).bind fun _ _ permuted => segments reordered ss permuted

theorem segment (reordered : document.Reordered document') :
    ∀ (s : Segment) {ns ms : List Node}, Node.Permuted ns ms →
    Agree Node.Permuted (Eval.segment ⟨document, options⟩ s ns)
      (Eval.segment ⟨document', options'⟩ s ms)
  | .child ss, ns, ms, permuted => by
    rw [Eval.segment, Eval.segment]
    exact flatMap ((KeepsSound.congruence options).selectors ss)
      ((KeepsSound.congruence options').selectors ss) permuted fun n m same => selectors reordered ss same
  | .descendant ss, ns, ms, permuted => by
    rw [Eval.segment, Eval.segment]
    have keeps (n : Node) : KeepsSound (Eval.selectors ⟨document, options⟩ ss n) :=
      (KeepsSound.congruence options).selectors ss n
    have keeps' (n : Node) : KeepsSound (Eval.selectors ⟨document', options'⟩ ss n) :=
      (KeepsSound.congruence options').selectors ss n
    refine flatMap (fun n => descend_keepsSound keeps) (fun n => descend_keepsSound keeps') permuted ?_
    intro n m same
    exact descend keeps keeps' same fun n m same => selectors reordered ss same

theorem selectors (reordered : document.Reordered document') :
    ∀ (ss : List Selector) {n m : Node}, n.Reordered m →
    Agree Node.Permuted (Eval.selectors ⟨document, options⟩ ss n)
      (Eval.selectors ⟨document', options'⟩ ss m)
  | [], n, m, same => by
    rw [Eval.selectors, Eval.selectors]
    exact pure (.of_forall₂ .nil)
  | s :: ss, n, m, same => by
    rw [Eval.selectors, Eval.selectors]
    exact append (selector reordered s same) (selectors reordered ss same)

theorem selector (reordered : document.Reordered document') : ∀ (s : Selector) {n m : Node}, n.Reordered m →
    Agree Node.Permuted (Eval.selector ⟨document, options⟩ s n)
      (Eval.selector ⟨document', options'⟩ s m)
  | .name name, n, m, same => by
    rw [Eval.selector, Eval.selector]
    exact charged (.of_option (same.child? (.member name)))
  | .wildcard, n, m, same => by
    rw [Eval.selector, Eval.selector]
    exact charged same.children
  | .index index, n, m, same => by
    rw [Eval.selector, Eval.selector]
    exact charged (.of_option (same.item? index))
  | .slice start stop step, n, m, same => by
    rw [Eval.selector, Eval.selector]
    exact charged (same.slice start stop step)
  | .filter c, n, m, same => by
    rw [Eval.selector, Eval.selector]
    exact keep ((KeepsSound.congruence options).condition c)
      ((KeepsSound.congruence options').condition c) same.children fun n m same => condition reordered c same

theorem condition (reordered : document.Reordered document') :
    ∀ (c : Condition) {n m : Node}, n.Reordered m →
    Agree (· = ·) (Eval.condition ⟨document, options⟩ c n) (Eval.condition ⟨document', options'⟩ c m)
  | .any cs, n, m, same => by
    rw [Eval.condition, Eval.condition]
    exact anyHolds reordered cs same
  | .all cs, n, m, same => by
    rw [Eval.condition, Eval.condition]
    exact allHold reordered cs same
  | .negation c, n, m, same => by
    rw [Eval.condition, Eval.condition]
    apply (condition reordered c same).bind
    rintro b _ rfl
    exact pure rfl
  | .compare operator left right, n, m, same => by
    rw [Eval.condition, Eval.condition]
    apply (operand reordered left same).bind
    intro d e first
    apply (operand reordered right same).bind
    intro d' e' second
    exact compare operator first second
  | .selects q, n, m, same => by
    rw [Eval.condition, Eval.condition]
    apply (query reordered q same).bind
    intro ns ms permuted
    exact pure (by rw [Node.Permuted.isEmpty_eq permuted])
  | .call f as, n, m, same => by
    rw [Eval.condition, Eval.condition]
    apply (arguments reordered f as f.parameters same).bind
    intro ps ps' passed
    apply (apply f passed).bind
    intro d e denoted
    exact pure denoted.isTrue_eq

theorem anyHolds (reordered : document.Reordered document') :
    ∀ (cs : List Condition) {n m : Node}, n.Reordered m →
    Agree (· = ·) (Eval.anyHolds ⟨document, options⟩ cs n)
      (Eval.anyHolds ⟨document', options'⟩ cs m)
  | [], n, m, same => by
    rw [Eval.anyHolds, Eval.anyHolds]
    exact pure rfl
  | c :: cs, n, m, same => by
    rw [Eval.anyHolds, Eval.anyHolds]
    apply (condition reordered c same).bind
    intro b b' holds
    exact ite holds (pure rfl) (anyHolds reordered cs same)

theorem allHold (reordered : document.Reordered document') :
    ∀ (cs : List Condition) {n m : Node}, n.Reordered m →
    Agree (· = ·) (Eval.allHold ⟨document, options⟩ cs n) (Eval.allHold ⟨document', options'⟩ cs m)
  | [], n, m, same => by
    rw [Eval.allHold, Eval.allHold]
    exact pure rfl
  | c :: cs, n, m, same => by
    rw [Eval.allHold, Eval.allHold]
    apply (condition reordered c same).bind
    intro b b' holds
    exact ite holds (allHold reordered cs same) (pure rfl)

theorem operand (reordered : document.Reordered document') : ∀ (o : Operand) {n m : Node}, n.Reordered m →
    Agree Denoted.Reordered (Eval.operand ⟨document, options⟩ o n)
      (Eval.operand ⟨document', options'⟩ o m)
  | .literal v, n, m, same => by
    rw [Eval.operand, Eval.operand]
    exact pure (.refl _)
  | .query q, n, m, same => by
    rw [Eval.operand, Eval.operand]
    apply (query reordered q same).bind
    intro ns ms permuted
    exact pure (Denoted.ofNodes_reordered permuted)
  | .call f as, n, m, same => by
    rw [Eval.operand, Eval.operand]
    apply (arguments reordered f as f.parameters same).bind
    intro ps ps' passed
    exact apply f passed

theorem arguments (reordered : document.Reordered document') (f : Function) :
    ∀ (as : List Argument) (types : List DeclaredType) {n m : Node},
    n.Reordered m → Agree (List.Forall₂ Passed.Reordered)
      (Eval.arguments ⟨document, options⟩ f types as n)
      (Eval.arguments ⟨document', options'⟩ f types as m)
  | [], [], n, m, same => by
    simp only [Eval.arguments]
    exact pure .nil
  | [], _ :: _, n, m, same => by
    simp only [Eval.arguments]
    exact throw
  | _ :: _, [], n, m, same => by
    simp only [Eval.arguments]
    exact throw
  | a :: as, type :: types, n, m, same => by
    rw [Eval.arguments, Eval.arguments]
    apply (argument reordered a type same).bind
    intro p p' here
    apply (arguments reordered f as types same).bind
    intro ps ps' more
    exact pure (.cons here more)

theorem argument (reordered : document.Reordered document') :
    ∀ (a : Argument) (type : DeclaredType) {n m : Node}, n.Reordered m →
    Agree Passed.Reordered (Eval.argument ⟨document, options⟩ type a n)
      (Eval.argument ⟨document', options'⟩ type a m)
  | .literal v, type, n, m, same => by
    cases type <;> simp only [Eval.argument] <;> exact pure (.one (.refl _))
  | .query q, type, n, m, same => by
    have permuted : Agree Node.Permuted (Eval.query ⟨document, options⟩ q n)
      (Eval.query ⟨document', options'⟩ q m) := query reordered q same
    cases type with
    | nodes =>
      simp only [Eval.argument]
      exact permuted.bind fun ns ms permuted => pure (.nodes permuted)
    | _ =>
      simp only [Eval.argument]
      exact permuted.bind fun ns ms permuted => pure (.one (Denoted.ofNodes_reordered permuted))
  | .condition c, type, n, m, same => by
    have holds : Agree (· = ·) (Eval.condition ⟨document, options⟩ c n)
      (Eval.condition ⟨document', options'⟩ c m) := condition reordered c same
    have truth : Agree Passed.Reordered
        (do return .one (.ofBool (← Eval.condition ⟨document, options⟩ c n)))
        (do return .one (.ofBool (← Eval.condition ⟨document', options'⟩ c m))) := by
      apply holds.bind
      rintro b _ rfl
      exact pure (.one (.refl _))
    cases c with
    | call f as =>
      have passed : Agree (List.Forall₂ Passed.Reordered)
        (Eval.arguments ⟨document, options⟩ f f.parameters as n)
        (Eval.arguments ⟨document', options'⟩ f f.parameters as m) := arguments reordered f as f.parameters same
      cases type with
      | logical => simpa only [Eval.argument] using truth
      | _ =>
        simp only [Eval.argument]
        apply passed.bind
        intro ps ps' passed
        apply (apply f passed).bind
        intro d e denoted
        exact pure (.one denoted)
    | _ => cases type <;> simpa only [Eval.argument] using truth

end

end

end Agree

end Eval

namespace Query

/-- The order of members decides nothing but the order of the nodes that a query selects. -/
theorem evaluate_permuted {q : Query} {document document' : Value} {options options' : Options}
    {nodes nodes' : List Node} {p p' : Progress} (reordered : document.Reordered document')
    (run : q.evaluate document options = .ok nodes p)
    (run' : q.evaluate document' options' = .ok nodes' p') : Node.Permuted nodes nodes' := by
  have agree : Eval.Agree Node.Permuted (Eval.query ⟨document, options⟩ q (.root document))
      (Eval.query ⟨document', options'⟩ q (.root document')) :=
    Eval.Agree.query reordered q ⟨rfl, reordered⟩
  exact (agree {} {} nodes nodes' p p' Matcher.sound_empty Matcher.sound_empty run run').2.2

theorem evaluate_permuted_filter :
    let q : Query := .mk .root [.descendant [.filter (.compare .eq
      (.call .count [.query (.mk .current [.child [.wildcard]])]) (.query (.mk .root [.child [.name "b"]])))]]
    let object : Value := .object [("x", .null), ("y", .bool true)]
    let object' : Value := .object [("y", .bool true), ("x", .null)]
    let document : Value := .object [("a", object), ("b", .number (.int 2)), ("c", object)]
    let document' : Value := .object [("c", object'), ("b", .number (.int 2)), ("a", object)]
    document.Reordered document' ∧ ∃ nodes nodes' p p',
      q.evaluate document {} = .ok nodes p ∧ q.evaluate document' {} = .ok nodes' p' ∧
        Node.Permuted nodes nodes' := by
  intro q object object' document document'
  have inner : object.Reordered object' :=
    .object (by decide) rfl (.cons (.refl _) (.cons (.refl _) .nil)) (.swap _ _ _)
  have reordered : document.Reordered document' := by
    have order : [("a", object), ("b", .number (.int 2)), ("c", object')].Perm
        [("c", object'), ("b", .number (.int 2)), ("a", object)] := (List.reverse_perm _).symm
    refine .object (by decide) ?_ ?_ order
    · rfl
    · exact .cons (.refl _) (.cons (.refl _) (.cons inner .nil))
  have returns : (q.evaluate document {} matches .ok _ _) = true := by decide +kernel
  have returns' : (q.evaluate document' {} matches .ok _ _) = true := by decide +kernel
  cases run : q.evaluate document {} with
  | error e p => simp [run] at returns
  | ok nodes p =>
    cases run' : q.evaluate document' {} with
    | error e p' => simp [run'] at returns'
    | ok nodes' p' =>
      exact ⟨reordered, nodes, nodes', p, p', rfl, rfl, evaluate_permuted reordered run run'⟩

end Query

end JsonPath
