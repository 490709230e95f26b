import JsonPath.Proofs.Evaluation.Returns
import JsonPath.Proofs.Pattern.Digits
import JsonPath.Proofs.Typing.Parsed

namespace JsonPath

/-- What a declared type admits: a truth value, or a value or nothing. -/
def Denoted.HasType : DeclaredType → Denoted → Prop
  | .logical, d => ∃ b, d = ofBool b
  | .value, nothing => True
  | .value, value _ _ => True
  | .nodes, _ => False

namespace Eval

def call (scope : Scope) (f : Function) (as : List Argument) (current : Node) : Eval Denoted := do
  let passed ← arguments scope f f.parameters as current
  f.apply scope.options passed

theorem condition_call (scope : Scope) (f : Function) (as : List Argument) (current : Node) :
    condition scope (.call f as) current = (do return (← call scope f as current).isTrue) := by
  rw [condition, call]
  simp

def Excessive (e : EvalError) : Prop := ∃ x, e = .excess x

theorem excessive_excess (x : Excess) : Excessive (.excess x) := ⟨x, rfl⟩

def ExcessiveOrLong (e : EvalError) : Prop := Excessive e ∨ ∃ digits, e = .integerTooLong digits

theorem excessiveOrLong_excess (x : Excess) : ExcessiveOrLong (.excess x) := .inl ⟨x, rfl⟩

abbrev Finishes (allowed : EvalError → Prop) {α : Type} (m : Eval α) : Prop :=
  Returns allowed m fun _ => True

def MatchesFinish (allowed : EvalError → Prop) (options : Options) : Prop :=
  ∀ source text anchored, Finishes allowed (runPattern options source text anchored)

theorem runPattern_finishesOrLong (options : Options) : MatchesFinish ExcessiveOrLong options := by
  intro source text anchored p
  unfold runPattern
  rcases p.matcher.run options source text anchored with ⟨result, log, matcher⟩
  rcases result with e | b
  · cases e with
    | excess x => exact .inl ⟨x, rfl⟩
    | integerTooLong digits => exact .inr ⟨digits, rfl⟩
  · trivial

theorem runPattern_finishes {options : Options} (short : options.maxPatternLength ≤ maxIntegerDigits) :
    MatchesFinish Excessive options := by
  intro source text anchored p
  have refused := @Matcher.run_error p.matcher options short source text anchored
  unfold runPattern
  rcases run : p.matcher.run options source text anchored with ⟨result, log, matcher⟩
  rw [run] at refused
  cases result with
  | ok b => trivial
  | error e =>
    obtain ⟨x, rfl⟩ := refused rfl
    exact ⟨x, rfl⟩

/-- Errors that include all that a well typed query can end in. -/
structure AdmitsStops (allowed : EvalError → Prop) (options : Options) : Prop where
  excess : ∀ x, allowed (.excess x)
  patterns : MatchesFinish allowed options

theorem admitsStops_excessive {options : Options} (short : options.maxPatternLength ≤ maxIntegerDigits) :
    AdmitsStops Excessive options := ⟨excessive_excess, runPattern_finishes short⟩

theorem admitsStops_excessiveOrLong (options : Options) : AdmitsStops ExcessiveOrLong options :=
  ⟨excessiveOrLong_excess, runPattern_finishesOrLong options⟩

section

variable {allowed : EvalError → Prop} {options : Options} (patterns : MatchesFinish allowed options)

include patterns

theorem apply_returns {f : Function} {passed : List Passed} (count : passed.length = f.arity) :
    Returns allowed (f.apply options passed) fun d => d.HasType f.result := by
  have matched (anchored : Bool) (a b : Passed) :
      Returns allowed (Function.matchOf options anchored a b) fun d => d.HasType .logical := by
    unfold Function.matchOf
    split
    · exact (patterns _ _ _).bind fun b _ => .pure ⟨b, rfl⟩
    · exact .pure ⟨false, rfl⟩
  have anything (d : Denoted) : d.HasType .value := by
    cases d <;> trivial
  cases f with
  | length =>
    obtain ⟨a, rfl⟩ := List.length_eq_one_iff.mp count
    exact .pure (anything _)
  | count =>
    obtain ⟨a, rfl⟩ := List.length_eq_one_iff.mp count
    exact .pure (anything _)
  | value =>
    obtain ⟨a, rfl⟩ := List.length_eq_one_iff.mp count
    exact .pure (anything _)
  | fullMatch =>
    obtain ⟨a, b, rfl⟩ := List.length_eq_two.mp count
    exact matched true a b
  | search =>
    obtain ⟨a, b, rfl⟩ := List.length_eq_two.mp count
    exact matched false a b

end

theorem Finishes.of_map {allowed : EvalError → Prop} {α β : Type} {m : Eval α} {g : α → β}
    (finishes : Finishes allowed (do return g (← m))) : Finishes allowed m := by
  intro p
  have here := finishes p
  simp only [bind, EStateM.bind] at here
  cases run : m p with
  | ok a p' => trivial
  | error e p' =>
    rw [run] at here
    exact here

theorem argument_condition_finishes {allowed : EvalError → Prop} {scope : Scope} {type : DeclaredType}
    {c : Condition} {current : Node} (finishes : Finishes allowed (condition scope c current)) :
    Finishes allowed (argument scope type (.condition c) current) := by
  cases c with
  | call f as =>
    have called : Finishes allowed (call scope f as current) := by
      rw [condition_call] at finishes
      exact finishes.of_map
    cases type with
    | logical =>
      simp only [argument]
      exact finishes.bind fun _ _ => .pure trivial
    | _ =>
      simp only [argument]
      simpa [call] using called.bind fun d _ => .pure (a := Passed.one d) trivial
  | _ =>
    cases type <;> simp only [argument] <;> exact finishes.bind fun _ _ => .pure trivial

section

variable {allowed : EvalError → Prop} (scope : Scope)

mutual

theorem query_finishes (admits : AdmitsStops allowed scope.options) : ∀ (q : Query),
    (Phrase.query q).WellTyped → ∀ current, Finishes allowed (query scope q current)
  | .mk .root ss, typed, current => by
    rw [query]
    exact segments_finishes admits ss (Phrase.wellTyped_query.mp typed) _
  | .mk .current ss, typed, current => by
    rw [query]
    exact segments_finishes admits ss (Phrase.wellTyped_query.mp typed) _

theorem segments_finishes (admits : AdmitsStops allowed scope.options) :
    ∀ (ss : List Segment), (∀ s ∈ ss, (Phrase.segment s).WellTyped) →
    ∀ nodes, Finishes allowed (segments scope ss nodes)
  | [], _, nodes => by
    rw [segments]
    exact .pure trivial
  | s :: ss, typed, nodes => by
    rw [segments]
    exact (segment_finishes admits s (typed s (by simp)) nodes).bind fun nodes _ =>
      segments_finishes admits ss (fun t member => typed t (by simp [member])) nodes

theorem segment_finishes (admits : AdmitsStops allowed scope.options) :
    ∀ (s : Segment), (Phrase.segment s).WellTyped → ∀ nodes,
    Finishes allowed (segment scope s nodes)
  | .child ss, typed, nodes => by
    rw [segment]
    have each := (Phrase.wellTyped_segment.mp typed).2
    refine (Returns.flatMap (P := fun _ => True) fun n _ => ?_).weaken fun _ _ => trivial
    exact (selectors_finishes admits ss each n).weaken fun _ _ _ _ => trivial
  | .descendant ss, typed, nodes => by
    rw [segment]
    have each := (Phrase.wellTyped_segment.mp typed).2
    refine (Returns.flatMap (P := fun _ => True) fun n _ => ?_).weaken fun _ _ => trivial
    refine Returns.descend admits.excess scope.options (I := fun _ => True) (fun _ _ _ _ => trivial)
      (fun d _ => ?_) n.value n.location trivial
    exact (selectors_finishes admits ss each d).weaken fun _ _ _ _ => trivial

theorem selectors_finishes (admits : AdmitsStops allowed scope.options) :
    ∀ (ss : List Selector), (∀ s ∈ ss, (Phrase.selector s).WellTyped) →
    ∀ n, Finishes allowed (selectors scope ss n)
  | [], _, n => by
    rw [selectors]
    exact .pure trivial
  | s :: ss, typed, n => by
    rw [selectors]
    refine (selector_finishes admits s (typed s (by simp)) n).bind fun here _ => ?_
    exact (selectors_finishes admits ss (fun t member => typed t (by simp [member])) n).bind fun _ _ =>
      .pure trivial

theorem selector_finishes (admits : AdmitsStops allowed scope.options) :
    ∀ (s : Selector), (Phrase.selector s).WellTyped → ∀ n,
    Finishes allowed (selector scope s n)
  | .name name, _, n => by
    rw [selector]
    exact .charged admits.excess _ trivial
  | .wildcard, _, n => by
    rw [selector]
    exact .charged admits.excess _ trivial
  | .index index, _, n => by
    rw [selector]
    exact .charged admits.excess _ trivial
  | .slice start stop step, _, n => by
    rw [selector]
    exact .charged admits.excess _ trivial
  | .filter c, typed, n => by
    rw [selector]
    refine (Returns.keep admits.excess _ (P := fun _ => True) (fun _ _ => trivial) fun m _ => ?_).weaken
      fun _ _ => trivial
    exact condition_finishes admits c (Phrase.wellTyped_filter.mp typed).2 m

theorem condition_finishes (admits : AdmitsStops allowed scope.options) :
    ∀ (c : Condition), (Phrase.condition c).WellTyped → ∀ current,
    Finishes allowed (condition scope c current)
  | .any cs, typed, current => by
    rw [condition]
    exact anyHolds_finishes admits cs (Phrase.wellTyped_any.mp typed).2 current
  | .all cs, typed, current => by
    rw [condition]
    exact allHold_finishes admits cs (Phrase.wellTyped_all.mp typed).2 current
  | .negation c, typed, current => by
    rw [condition]
    exact (condition_finishes admits c (Phrase.wellTyped_negation.mp typed).2 current).bind fun _ _ =>
      .pure trivial
  | .compare operator left right, typed, current => by
    rw [condition]
    obtain ⟨⟨isSix, -, -⟩, leftTyped, rightTyped⟩ := Phrase.wellTyped_compare.mp typed
    refine (operand_finishes admits left leftTyped current).bind fun l _ => ?_
    refine (operand_finishes admits right rightTyped current).bind fun r _ => ?_
    exact .compare admits.excess _ isSix l r
  | .selects q, typed, current => by
    rw [condition]
    exact (query_finishes admits q (Phrase.wellTyped_selects.mp typed) current).bind fun _ _ => .pure trivial
  | .call f as, typed, current => by
    rw [condition]
    obtain ⟨fits, below⟩ := Phrase.wellTyped_callCondition.mp typed
    -- The function takes no other number of arguments than its arity, so their count is carried along.
    refine (arguments_finishes admits f as f.parameters fits.count below current).bind fun passed count => ?_
    exact (apply_returns admits.patterns count).bind fun _ _ => .pure trivial

theorem anyHolds_finishes (admits : AdmitsStops allowed scope.options) :
    ∀ (cs : List Condition), (∀ c ∈ cs, (Phrase.condition c).WellTyped) →
    ∀ current, Finishes allowed (anyHolds scope cs current)
  | [], _, current => by
    rw [anyHolds]
    exact .pure trivial
  | c :: cs, typed, current => by
    rw [anyHolds]
    refine (condition_finishes admits c (typed c (by simp)) current).bind fun holds _ => ?_
    split
    · exact .pure trivial
    · exact anyHolds_finishes admits cs (fun d member => typed d (by simp [member])) current

theorem allHold_finishes (admits : AdmitsStops allowed scope.options) :
    ∀ (cs : List Condition), (∀ c ∈ cs, (Phrase.condition c).WellTyped) →
    ∀ current, Finishes allowed (allHold scope cs current)
  | [], _, current => by
    rw [allHold]
    exact .pure trivial
  | c :: cs, typed, current => by
    rw [allHold]
    refine (condition_finishes admits c (typed c (by simp)) current).bind fun holds _ => ?_
    split
    · exact allHold_finishes admits cs (fun d member => typed d (by simp [member])) current
    · exact .pure trivial

theorem operand_finishes (admits : AdmitsStops allowed scope.options) :
    ∀ (o : Operand), (Phrase.operand o).WellTyped → ∀ current,
    Finishes allowed (operand scope o current)
  | .literal v, _, current => by
    rw [operand]
    exact .pure trivial
  | .query q, typed, current => by
    rw [operand]
    exact (query_finishes admits q (Phrase.wellTyped_queryOperand.mp typed) current).bind fun _ _ =>
      .pure trivial
  | .call f as, typed, current => by
    rw [operand]
    obtain ⟨fits, below⟩ := Phrase.wellTyped_callOperand.mp typed
    refine (arguments_finishes admits f as f.parameters fits.count below current).bind fun passed count => ?_
    exact (apply_returns admits.patterns count).weaken fun _ _ => trivial

theorem arguments_finishes (admits : AdmitsStops allowed scope.options) (f : Function) :
    ∀ (as : List Argument) (types : List DeclaredType),
    as.length = types.length → (∀ a ∈ as, (Phrase.argument a).WellTyped) → ∀ current,
    Returns allowed (arguments scope f types as current) fun passed => passed.length = types.length
  | [], [], _, _, current => by
    rw [arguments]
    exact .pure rfl
  | a :: as, type :: types, count, typed, current => by
    rw [arguments]
    refine (argument_finishes admits a type (typed a (by simp)) current).bind fun p _ => ?_
    refine (arguments_finishes admits f as types (by simpa using count)
      (fun b member => typed b (by simp [member])) current).bind fun ps count => ?_
    exact .pure (by simp [count])

theorem argument_finishes (admits : AdmitsStops allowed scope.options) :
    ∀ (a : Argument) (type : DeclaredType), (Phrase.argument a).WellTyped →
    ∀ current, Finishes allowed (argument scope type a current)
  | .literal v, type, _, current => by
    cases type <;> simp only [argument] <;> exact .pure trivial
  | .query q, type, typed, current => by
    have finishes := query_finishes admits q (Phrase.wellTyped_queryArgument.mp typed) current
    cases type <;> simp only [argument] <;> exact finishes.bind fun _ _ => .pure trivial
  | .condition c, type, typed, current =>
    argument_condition_finishes
      (condition_finishes admits c (Phrase.wellTyped_conditionArgument.mp typed) current)

end

end

end Eval

end JsonPath
