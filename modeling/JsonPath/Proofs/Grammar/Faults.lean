import JsonPath.Proofs.Token.Cover
import JsonPath.Query.Parser

namespace JsonPath

/-- A fault has a place up to a limit, unless a call that returns a value is used as a test. -/
def ParseFault.Placed (limit : Nat) (fault : ParseFault) : Prop :=
  match fault.offset? with
  | some place => place ≤ limit
  | none => ∃ f : Function, fault = .typing (.valueAsTest f) ∧ f.result = .value

namespace Query

namespace Parser

def Answers {α : Type} (limit : Nat) (P : α → Prop) : Except ParseError α → Prop
  | .ok a => P a
  | .error (.fault fault) => fault.Placed limit
  | .error (.integerTooLong _) => False

def Inside (limit : Nat) (ts : List Token) : Prop := ∀ t ∈ ts, t.stop ≤ limit

def Reads {α : Type} (limit : Nat) (read : Reader α) : Prop :=
  ∀ ts, Inside limit ts → Answers limit (fun r => Inside limit r.2) (read ts)

section

variable {α β : Type} {limit : Nat} {P : α → Prop} {Q : β → Prop} {x : Except ParseError α}

theorem Answers.ok {a : α} (holds : P a) : Answers limit P (.ok a) := holds

theorem Answers.syntaxError {fault : SyntaxFault} (inside : fault.offset ≤ limit) :
    Answers limit P (syntaxError fault) := inside

theorem Answers.typeError {fault : TypeFault} (placed : (ParseFault.typing fault).Placed limit) :
    Answers limit P (typeError fault) := placed

theorem Answers.bind {f : α → Except ParseError β} (first : Answers limit P x)
    (next : ∀ a, P a → Answers limit Q (f a)) : Answers limit Q (x >>= f) := by
  cases x with
  | ok a => exact next a first
  | error e => cases e <;> exact first

theorem Answers.map {f : α → β} (first : Answers limit P x) (next : ∀ a, P a → Q (f a)) :
    Answers limit Q (x.map f) := by
  cases x with
  | ok a => exact next a first
  | error e => cases e <;> exact first

end

section

variable {limit : Nat} {t : Token} {ts : List Token}

@[simp]
theorem inside_nil : Inside limit [] := by
  simp [Inside]

@[simp]
theorem inside_cons : Inside limit (t :: ts) ↔ t.stop ≤ limit ∧ Inside limit ts :=
  List.forall_mem_cons

theorem offset_le_of_stop_le (inside : t.stop ≤ limit) : t.offset ≤ limit :=
  Nat.le_trans (Nat.le_add_right _ _) inside

end

section

variable {α : Type} {limit : Nat} {P : α → Prop}

theorem unexpected_answers {ts : List Token} (inside : Inside limit ts) :
    Answers limit P (unexpected ts) := by
  cases ts with
  | nil => exact .syntaxError (Nat.zero_le _)
  | cons t ts =>
    have offset := offset_le_of_stop_le (inside_cons.mp inside).1
    rw [unexpected]
    split <;> exact .syntaxError offset

theorem follow_answers (p : TokenKind → Bool) {ts : List Token} (inside : Inside limit ts) :
    Answers limit (fun _ => True) (follow p ts) := by
  cases ts with
  | nil => exact unexpected_answers inside
  | cons t ts =>
    rw [follow]
    split
    · exact .ok trivial
    · exact unexpected_answers inside

end

section

variable {limit : Nat}

theorem checkInteger_answers (n : Int) {offset : Nat} (inside : offset ≤ limit) :
    Answers limit (fun _ => True) (checkInteger n offset) := by
  unfold checkInteger
  split
  · exact .ok trivial
  · exact .syntaxError inside

theorem checkBound_answers {bound : Option (Int × Nat)} (inside : ∀ b ∈ bound, b.2 ≤ limit) :
    Answers limit (fun _ => True) (checkBound bound) := by
  cases bound with
  | none => exact .ok trivial
  | some b => exact (checkInteger_answers b.1 (inside b rfl)).map fun _ _ => trivial

theorem checkLogical_answers (c : Condition) : Answers limit (fun _ => True) (checkLogical c) := by
  unfold checkLogical
  split
  · next f _ =>
    split
    · next returnsValue => exact .typeError ⟨f, rfl, returnsValue⟩
    · exact .ok trivial
  · exact .ok trivial

theorem checkAllLogical_answers (cs : List Condition) :
    Answers limit (fun _ => True) (checkAllLogical cs) := by
  induction cs with
  | nil => exact .ok trivial
  | cons c cs ih => exact (checkLogical_answers c).bind fun _ _ => ih

theorem checkComparable_answers {offset : Nat} (inside : offset ≤ limit) (o : Operand) :
    Answers limit (fun _ => True) (checkComparable offset o) := by
  unfold checkComparable
  split
  · exact .ok trivial
  · split
    · exact .ok trivial
    · exact .typeError inside
  · split
    · exact .ok trivial
    · exact .typeError inside

theorem fitArguments_answers (f : Function) {offset : Nat} (inside : offset ≤ limit) (place : Nat)
    (types : List DeclaredType) (as : List Argument) :
    Answers limit (fun _ => True) (fitArguments f offset place types as) := by
  induction types generalizing place as with
  | nil => exact .ok trivial
  | cons type types ih =>
    cases as with
    | nil => exact .ok trivial
    | cons a as =>
      rw [fitArguments]
      split
      · exact .typeError inside
      · exact (ih (place + 1) as).bind fun _ _ => .ok trivial

theorem checkCall_answers (name : String) {token : Token} (inside : token.stop ≤ limit) (paren : Token)
    (as : List Argument) : Answers limit (fun _ => True) (checkCall name token paren as) := by
  have offset := offset_le_of_stop_le inside
  unfold checkCall
  split
  · exact .syntaxError inside
  · split
    · exact .typeError offset
    · split
      · exact .typeError offset
      · exact (fitArguments_answers _ offset 1 _ as).bind fun _ _ => .ok trivial

end

section

variable {limit : Nat}

theorem separated_reads {α : Type} {item : Reader α} (items : Reads limit item) (close : TokenKind)
    (fuel : Nat) : Reads limit (separated item close fuel) := by
  induction fuel with
  | zero => exact fun ts inside => unexpected_answers inside
  | succ fuel ih =>
    intro ts inside
    refine (items ts inside).bind fun ⟨a, ts⟩ inside => ?_
    cases ts with
    | nil => exact unexpected_answers inside_nil
    | cons t rest =>
      obtain ⟨-, insideRest⟩ := inside_cons.mp inside
      simp only
      split
      · exact (ih rest insideRest).bind fun _ inside => .ok inside
      · split
        · exact .ok insideRest
        · exact unexpected_answers inside

theorem joined_reads {α : Type} {item : Reader α} (items : Reads limit item) (mark : TokenKind)
    (fuel : Nat) : Reads limit (joined item mark fuel) := by
  induction fuel with
  | zero => exact fun ts inside => unexpected_answers inside
  | succ fuel ih =>
    intro ts inside
    refine (items ts inside).bind fun ⟨a, ts⟩ inside => ?_
    cases ts with
    | nil => exact .ok inside_nil
    | cons t rest =>
      simp only
      split
      · exact (ih rest (inside_cons.mp inside).2).bind fun _ inside => .ok inside
      · exact .ok inside

theorem integer?_inside {ts : List Token} (inside : Inside limit ts) :
    (∀ b ∈ (integer? ts).1, b.2 ≤ limit) ∧ Inside limit (integer? ts).2 := by
  cases ts with
  | nil => simp [integer?]
  | cons t ts =>
    obtain ⟨here, insideRest⟩ := inside_cons.mp inside
    rw [integer?]
    split
    · simpa using ⟨offset_le_of_stop_le here, insideRest⟩
    · simpa using inside

theorem step_inside {ts : List Token} {r : Option (Int × Nat) × List Token}
    (step : r = match ts with
      | [] => (none, [])
      | t :: rest => if t.kind = .colon then integer? rest else (none, t :: rest))
    (inside : Inside limit ts) : (∀ b ∈ r.1, b.2 ≤ limit) ∧ Inside limit r.2 := by
  subst step
  split
  · simp
  · split
    · exact integer?_inside (inside_cons.mp inside).2
    · simpa using inside

theorem slice_reads {start : Option (Int × Nat)} (first : ∀ b ∈ start, b.2 ≤ limit) :
    Reads limit (slice start) := by
  intro ts inside
  cases ts with
  | nil => exact unexpected_answers inside
  | cons t ts =>
    rw [slice]
    split
    · obtain ⟨second, insideRest⟩ := integer?_inside (inside_cons.mp inside).2
      obtain ⟨last, insideEnd⟩ := step_inside rfl insideRest
      refine (follow_answers endsSelector insideEnd).bind fun _ _ => ?_
      refine (checkBound_answers first).bind fun _ _ => ?_
      refine (checkBound_answers second).bind fun _ _ => ?_
      exact (checkBound_answers last).bind fun _ _ => .ok insideEnd
    · exact unexpected_answers inside

variable {inner : Reader Condition}

theorem selector_reads (inners : Reads limit inner) : Reads limit (selector inner) := by
  intro ts inside
  cases ts with
  | nil => exact unexpected_answers inside
  | cons t ts =>
    obtain ⟨here, insideRest⟩ := inside_cons.mp inside
    have offset := offset_le_of_stop_le here
    rw [selector]
    split
    · exact .ok insideRest
    · exact .ok insideRest
    · exact slice_reads (by simp) _ inside
    · split
      · exact unexpected_answers inside_nil
      · split
        · exact slice_reads (by simpa using offset) _ insideRest
        · refine (follow_answers endsSelector insideRest).bind fun _ _ => ?_
          exact (checkInteger_answers _ offset).bind fun _ _ => .ok insideRest
    · refine (inners ts insideRest).bind fun ⟨c, ts⟩ inside => ?_
      refine (follow_answers endsSelector inside).bind fun _ _ => ?_
      exact (checkLogical_answers c).bind fun _ _ => .ok inside
    · exact unexpected_answers inside

theorem bracketed_reads (fuel : Nat) (inners : Reads limit inner) :
    Reads limit (bracketed fuel inner) :=
  separated_reads (selector_reads inners) .rbracket fuel

theorem shorthand_reads (fuel : Nat) (inners : Reads limit inner) (afterDescent : Bool) :
    Reads limit (shorthand fuel inner afterDescent) := by
  intro ts inside
  cases ts with
  | nil => exact unexpected_answers inside
  | cons t ts =>
    obtain ⟨-, insideRest⟩ := inside_cons.mp inside
    rw [shorthand]
    split
    · exact .ok insideRest
    · exact .ok insideRest
    · split
      · exact bracketed_reads fuel inners ts insideRest
      · exact unexpected_answers inside
    · exact unexpected_answers inside

theorem moreSegments_reads {head : Reader (List Selector)} {tail : Reader (List Segment)}
    (heads : Reads limit head) (tails : Reads limit tail) (segment : List Selector → Segment) :
    Reads limit fun ts => do
      let (ss, ts) ← head ts
      let (more, ts) ← tail ts
      return (segment ss :: more, ts) :=
  fun ts inside => (heads ts inside).bind fun r inside =>
    (tails r.2 inside).bind fun _ inside => .ok inside

theorem segments_reads (inners : Reads limit inner) (fuel : Nat) :
    Reads limit (segments inner fuel) := by
  induction fuel with
  | zero =>
    intro ts inside
    cases ts <;> exact .ok inside
  | succ fuel ih =>
    intro ts inside
    cases ts with
    | nil => exact .ok inside
    | cons t ts =>
      obtain ⟨-, insideRest⟩ := inside_cons.mp inside
      rw [segments]
      split
      · exact moreSegments_reads (shorthand_reads fuel inners false) ih .child ts insideRest
      · exact moreSegments_reads (shorthand_reads fuel inners true) ih .descendant ts insideRest
      · exact moreSegments_reads (bracketed_reads fuel inners) ih .child ts insideRest
      · exact .ok inside

theorem logicalArgument_reads (inners : Reads limit inner) :
    Reads limit fun ts => do
      let (c, ts) ← inner ts
      return (Argument.condition c, ts) :=
  fun ts inside => (inners ts inside).bind fun _ inside => .ok inside

theorem argument_reads (inners : Reads limit inner) : Reads limit (argument inner) := by
  intro ts inside
  cases ts with
  | nil => exact unexpected_answers inside
  | cons t ts =>
    have whole := logicalArgument_reads inners (t :: ts) inside
    obtain ⟨-, insideRest⟩ := inside_cons.mp inside
    rw [argument]
    split
    · split
      · split
        · exact whole
        · exact .ok insideRest
      · exact .ok insideRest
    · exact whole

theorem arguments_reads (fuel : Nat) (inners : Reads limit inner) :
    Reads limit (arguments fuel inner) := by
  intro ts inside
  cases ts with
  | nil => exact unexpected_answers inside
  | cons t ts =>
    rw [arguments]
    split
    · exact .ok (inside_cons.mp inside).2
    · exact separated_reads (argument_reads inners) .rparen fuel _ inside

theorem call_reads (fuel : Nat) (inners : Reads limit inner) (name : String) {token : Token}
    (here : token.stop ≤ limit) : Reads limit (call fuel inner name token) := by
  intro ts inside
  cases ts with
  | nil => exact unexpected_answers inside
  | cons t ts =>
    rw [call]
    split
    · refine (arguments_reads fuel inners ts (inside_cons.mp inside).2).bind fun ⟨as, ts⟩ inside => ?_
      refine (follow_answers endsOperand inside).bind fun _ _ => ?_
      exact (checkCall_answers name here t as).bind fun _ _ => .ok inside
    · exact unexpected_answers inside

theorem operand_reads (fuel : Nat) (inners : Reads limit inner) :
    Reads limit (operand fuel inner) := by
  intro ts inside
  cases ts with
  | nil => exact unexpected_answers inside
  | cons t ts =>
    obtain ⟨here, insideRest⟩ := inside_cons.mp inside
    rw [operand]
    split
    · exact (segments_reads inners fuel ts insideRest).bind fun _ inside => .ok inside
    · exact (segments_reads inners fuel ts insideRest).bind fun _ inside => .ok inside
    · exact (call_reads fuel inners _ here ts insideRest).bind fun _ inside => .ok inside
    · split
      · exact .ok insideRest
      · exact unexpected_answers inside

theorem asTest_answers (o : Operand) {ts : List Token} (inside : Inside limit ts) :
    Answers limit (fun _ => True) (asTest o ts) := by
  cases o with
  | literal v => exact unexpected_answers inside
  | query q => exact .ok trivial
  | call f as => exact .ok trivial

theorem compared_reads (fuel : Nat) (inners : Reads limit inner) (left : Operand)
    (operator : Comparison) {offset : Nat} (here : offset ≤ limit) :
    Reads limit (compared fuel inner left operator offset) := by
  intro ts inside
  refine (operand_reads fuel inners ts inside).bind fun ⟨right, ts⟩ inside => ?_
  refine (follow_answers endsTest inside).bind fun _ _ => ?_
  refine (checkComparable_answers here left).bind fun _ _ => ?_
  exact (checkComparable_answers here right).bind fun _ _ => .ok inside

theorem testOrComparison_reads (fuel : Nat) (inners : Reads limit inner) :
    Reads limit (testOrComparison fuel inner) := by
  intro ts inside
  refine (operand_reads fuel inners ts inside).bind fun ⟨left, ts⟩ inside => ?_
  cases ts with
  | nil => exact unexpected_answers inside
  | cons t rest =>
    obtain ⟨here, insideRest⟩ := inside_cons.mp inside
    simp only
    split
    · exact compared_reads fuel inners left _ (offset_le_of_stop_le here) rest insideRest
    · exact (asTest_answers left inside).bind fun _ _ => .ok inside

theorem parenthesised_reads (inners : Reads limit inner) : Reads limit (parenthesised inner) := by
  intro ts inside
  refine (inners ts inside).bind fun ⟨c, ts⟩ inside => ?_
  cases ts with
  | nil => exact unexpected_answers inside
  | cons t rest =>
    obtain ⟨-, insideRest⟩ := inside_cons.mp inside
    simp only
    split
    · refine (follow_answers endsTest insideRest).bind fun _ _ => ?_
      exact (checkLogical_answers c).bind fun _ _ => .ok insideRest
    · exact unexpected_answers inside

theorem negated_reads (fuel : Nat) (inners : Reads limit inner) :
    Reads limit (negated fuel inner) := by
  intro ts inside
  cases ts with
  | nil => exact unexpected_answers inside
  | cons t ts =>
    rw [negated]
    split
    · exact parenthesised_reads inners ts (inside_cons.mp inside).2
    · split
      · exact unexpected_answers inside
      · refine (operand_reads fuel inners _ inside).bind fun ⟨o, ts⟩ inside => ?_
        refine (follow_answers endsTest inside).bind fun _ _ => ?_
        refine (asTest_answers o inside).bind fun c _ => ?_
        exact (checkLogical_answers c).bind fun _ _ => .ok inside

theorem basic_reads (fuel : Nat) (inners : Reads limit inner) : Reads limit (basic fuel inner) := by
  intro ts inside
  cases ts with
  | nil => exact unexpected_answers inside
  | cons t ts =>
    rw [basic]
    split
    · exact parenthesised_reads inners ts (inside_cons.mp inside).2
    · split
      · exact (negated_reads fuel inners ts (inside_cons.mp inside).2).bind fun _ inside => .ok inside
      · exact testOrComparison_reads fuel inners _ inside

theorem conjunction_reads (fuel : Nat) (inners : Reads limit inner) :
    Reads limit (conjunction fuel inner) := by
  intro ts inside
  refine (joined_reads (basic_reads fuel inners) .and fuel ts inside).bind fun ⟨cs, ts⟩ inside => ?_
  simp only
  split
  · exact .ok inside
  · refine (follow_answers endsConjunction inside).bind fun _ _ => ?_
    exact (checkAllLogical_answers cs).bind fun _ _ => .ok inside

theorem disjunction_reads (fuel : Nat) (inners : Reads limit inner) :
    Reads limit (disjunction fuel inner) := by
  intro ts inside
  refine (joined_reads (conjunction_reads fuel inners) .or fuel ts inside).bind fun ⟨cs, ts⟩ inside => ?_
  simp only
  split
  · exact .ok inside
  · refine (follow_answers endsDisjunction inside).bind fun _ _ => ?_
    exact (checkAllLogical_answers cs).bind fun _ _ => .ok inside

theorem condition_reads (fuel : Nat) : Reads limit (condition fuel) := by
  induction fuel with
  | zero => exact fun ts inside => unexpected_answers inside
  | succ fuel ih => exact disjunction_reads (fuel + 1) ih

theorem query_answers (fuel : Nat) {ts : List Token} (inside : Inside limit ts) :
    Answers limit (fun _ => True) (query fuel ts) := by
  cases ts with
  | nil => exact unexpected_answers inside
  | cons t ts =>
    rw [query]
    split
    · refine (segments_reads (condition_reads fuel) fuel ts (inside_cons.mp inside).2).bind
        fun ⟨ss, ts⟩ inside => ?_
      cases ts with
      | nil => exact .ok trivial
      | cons u rest =>
        simp only
        split
        · exact .ok trivial
        · exact unexpected_answers inside
    · exact unexpected_answers inside

end

end Parser

open JsonPath.Query.Parser

theorem checkNesting_answers {bound : Nat} (limit depth : Int) {ts : List Token}
    (inside : Inside bound ts) : Answers bound (fun _ => True) (checkNesting limit depth ts) := by
  induction ts generalizing depth with
  | nil => exact .ok trivial
  | cons t ts ih =>
    obtain ⟨here, insideRest⟩ := inside_cons.mp inside
    have opening : Answers bound (fun _ => True)
        (if depth + 1 > limit then syntaxError (.tooDeep limit t.offset)
          else checkNesting limit (depth + 1) ts) := by
      split
      · exact .syntaxError (offset_le_of_stop_le here)
      · exact ih (depth + 1) insideRest
    rw [checkNesting]
    split
    · exact opening
    · exact opening
    · exact ih (depth - 1) insideRest
    · exact ih (depth - 1) insideRest
    · exact ih depth insideRest

/-- A text is parsed, or refused with a fault at a place inside it, or it has an integer that is too
long. -/
theorem parse_outcome (text : String) (limit : Int) :
    (∃ q, parse text limit = .ok q) ∨
    (∃ fault, parse text limit = .error (.fault fault) ∧ fault.Placed text.toList.length) ∨
    ∃ digits, parse text limit = .error (.integerTooLong digits) ∧
      Token.Scan.LongInteger 0 text.toList digits := by
  have scanned := Token.scan_scanned text.toList
  unfold parse
  rcases run : Token.scan text.toList with e | ts
  · rw [run] at scanned
    cases e with
    | malformed cause place =>
      have inside : place ≤ text.toList.length := scanned
      exact .inr (.inl ⟨_, rfl, inside⟩)
    | integerTooLong digits => exact .inr (.inr ⟨digits, rfl, scanned⟩)
  · rw [run] at scanned
    -- From here on only faults are left: the tokens hold no integer that is too long.
    have answers : Answers text.toList.length (fun _ => True)
        (do
          checkNesting limit 0 ts
          ofTokens ts) :=
      (checkNesting_answers limit 0 scanned).bind fun _ _ => query_answers ts.length scanned
    simp only
    revert answers
    rcases (do
      checkNesting limit 0 ts
      ofTokens ts : Except ParseError Query) with e | q
    · intro answers
      cases e with
      | fault fault => exact .inr (.inl ⟨fault, rfl, answers⟩)
      | integerTooLong digits => exact answers.elim
    · exact fun _ => .inl ⟨q, rfl⟩

theorem parse_eq_integerTooLong_iff {text : String} {limit : Int} {digits : Nat} :
    parse text limit = .error (.integerTooLong digits) ↔
      Token.Scan.LongInteger 0 text.toList digits := by
  constructor
  · intro run
    rcases parse_outcome text limit with ⟨q, other⟩ | ⟨fault, other, -⟩ | ⟨digits', other, long⟩
    · simp [run] at other
    · simp [run] at other
    · rw [run] at other
      cases other
      exact long
  · intro long
    simp [parse, Token.scan_eq_integerTooLong_iff.mpr long]

end Query

end JsonPath
