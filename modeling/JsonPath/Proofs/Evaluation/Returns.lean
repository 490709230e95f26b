import JsonPath.Evaluation.Run
import JsonPath.Proofs.Evaluation.Descent
import JsonPath.Proofs.Evaluation.Pairs

namespace JsonPath

namespace Eval

/-- Whatever was used up before, a computation gives a result that satisfies `P`, or fails in a way
that `allowed` admits. -/
def Returns {α : Type} (allowed : EvalError → Prop) (m : Eval α) (P : α → Prop) : Prop :=
  ∀ p, match m p with
    | .ok a _ => P a
    | .error e _ => allowed e

namespace Returns

section

variable {α β : Type} {allowed : EvalError → Prop} {m : Eval α} {P Q : α → Prop}

theorem pure {a : α} (holds : P a) : Returns allowed (Pure.pure a) P := fun _ => holds

theorem throw {e : EvalError} (admitted : allowed e) :
    Returns allowed (MonadExcept.throw e : Eval α) P := fun _ => admitted

theorem bind {f : α → Eval β} {R : β → Prop} (first : Returns allowed m P)
    (next : ∀ a, P a → Returns allowed (f a) R) : Returns allowed (m >>= f) R := by
  intro p
  have here := first p
  simp only [Bind.bind, EStateM.bind]
  cases run : m p with
  | ok a p' =>
    rw [run] at here
    exact next a here p'
  | error e p' =>
    rw [run] at here
    exact here

theorem weaken (returns : Returns allowed m P) (more : ∀ a, P a → Q a) : Returns allowed m Q := by
  intro p
  have here := returns p
  cases run : m p with
  | ok a p' =>
    rw [run] at here
    exact more a here
  | error e p' =>
    rw [run] at here
    exact here

theorem of_ok (returns : Returns allowed m P) {a : α} {p p' : Progress} (run : m p = .ok a p') :
    P a := by
  have here := returns p
  rwa [run] at here

theorem of_error (returns : Returns allowed m P) {e : EvalError} {p p' : Progress}
    (run : m p = .error e p') : allowed e := by
  have here := returns p
  rwa [run] at here

end

section

variable {allowed : EvalError → Prop} (excess : ∀ x, allowed (.excess x)) (options : Options)

include excess

theorem visit (count : Nat) : Returns allowed (Eval.visit options count) fun _ => True := by
  intro p
  unfold Eval.visit
  split
  · trivial
  · next e p' run =>
    simp only at run
    split at run
    · cases run
      exact excess _
    · contradiction

theorem checkDepth (depth : Nat) : Returns allowed (Eval.checkDepth options depth) fun _ => True := by
  unfold Eval.checkDepth
  split
  · exact throw (excess _)
  · exact pure trivial

theorem charged {P : List Node → Prop} {nodes : List Node} (holds : P nodes) :
    Returns allowed (Eval.charged options nodes) P :=
  (visit excess options nodes.length).bind fun _ _ => pure holds

end

section

variable {allowed : EvalError → Prop} {P : Node → Prop}

theorem append {first second : Eval (List Node)}
    (here : Returns allowed first fun ns => ∀ n ∈ ns, P n)
    (more : Returns allowed second fun ns => ∀ n ∈ ns, P n) :
    Returns allowed (do
      let here ← first
      let more ← second
      return here ++ more) fun ns => ∀ n ∈ ns, P n := by
  refine here.bind fun ns holds => ?_
  refine more.bind fun ms holds' => ?_
  refine pure fun n member => ?_
  rcases List.mem_append.mp member with member | member
  · exact holds n member
  · exact holds' n member

theorem flatMap {α : Type} {f : α → Eval (List Node)} {as : List α}
    (each : ∀ a ∈ as, Returns allowed (f a) fun ns => ∀ n ∈ ns, P n) :
    Returns allowed (Eval.flatMap f as) fun ns => ∀ n ∈ ns, P n := by
  induction as with
  | nil => exact pure (by simp)
  | cons a as ih => exact append (each a (by simp)) (ih fun b member => each b (by simp [member]))

theorem keep (excess : ∀ x, allowed (.excess x)) (options : Options) {test : Node → Eval Bool}
    {ns : List Node} (holds : ∀ n ∈ ns, P n)
    (tests : ∀ n ∈ ns, Returns allowed (test n) fun _ => True) :
    Returns allowed (Eval.keep options test ns) fun kept => ∀ n ∈ kept, P n := by
  induction ns with
  | nil => exact pure (by simp)
  | cons n ns ih =>
    refine (visit excess options 1).bind fun _ _ => ?_
    refine (tests n (by simp)).bind fun kept _ => ?_
    refine (ih (fun m member => holds m (by simp [member]))
      fun m member => tests m (by simp [member])).bind fun more holds' => ?_
    cases kept with
    | true => exact pure (List.forall_mem_cons.mpr ⟨holds n (by simp), holds'⟩)
    | false => exact pure holds'

end

theorem visited {allowed : EvalError → Prop} (excess : ∀ x, allowed (.excess x)) {options : Options}
    {depth : Nat} {P : List Node → Prop} {use : Eval (List Node)} (uses : Returns allowed use P) :
    Returns allowed (do
      Eval.checkDepth options depth
      Eval.visit options 1
      use) P :=
  (checkDepth excess options depth).bind fun _ _ => (visit excess options 1).bind fun _ _ => uses

theorem descend {allowed : EvalError → Prop} (excess : ∀ x, allowed (.excess x)) (options : Options)
    {P I : Node → Prop} {use : Node → Eval (List Node)} (children : ∀ n, I n → ∀ m ∈ n.children, I m)
    (uses : ∀ n, I n → Returns allowed (use n) fun ns => ∀ n ∈ ns, P n) (v : Value) (location : Location)
    (holds : I ⟨v, location⟩) :
    Returns allowed (Eval.descend options use location v) fun ns => ∀ n ∈ ns, P n := by
  rw [descend_eq_flatMap]
  exact flatMap fun n member => visited excess (uses n (Node.forall_mem_preorder children holds n member))

section

variable {allowed : EvalError → Prop} (excess : ∀ x, allowed (.excess x)) (options : Options)

include excess

theorem chargeLevels (depths : List Nat) :
    Returns allowed (Eval.chargeLevels options depths) fun _ => True := by
  induction depths with
  | nil => exact pure trivial
  | cons depth depths ih =>
    exact (visit excess options 1).bind fun _ _ => (checkDepth excess options depth).bind fun _ _ => ih

theorem equal (left right : Denoted) :
    Returns allowed (Eval.equal options left right) (· = left.same right) := by
  rw [equal_eq]
  exact (chargeLevels excess options _).bind fun _ _ => pure rfl

theorem compare {operator : Comparison} (isSix : operator ∈ [.eq, .ne, .lt, .le, .gt, .ge])
    (left right : Denoted) : Returns allowed (Eval.compare options operator left right) fun _ => True := by
  have equality : Returns allowed (Eval.equal options left right) fun _ => True :=
    (equal excess options left right).weaken fun _ _ => trivial
  unfold Eval.compare
  split
  · exact equality
  · exact equality.bind fun _ _ => pure trivial
  · exact pure trivial
  · split
    · exact pure trivial
    · exact equality
  · exact pure trivial
  · split
    · exact pure trivial
    · exact equality
  · simp at isSix

end

end Returns

end Eval

end JsonPath
