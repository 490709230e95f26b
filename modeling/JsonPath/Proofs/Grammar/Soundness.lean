import JsonPath.Proofs.Grammar.Productions

namespace JsonPath

namespace Grammar

open Query.Parser

def Sound (s : Symbol) (read : Reader (Meaning s)) : Prop :=
  ∀ ts m rest, read ts = .ok (m, rest) → Reads s ts m rest

theorem separated_sound {α : Type} {item : Reader α} {close : TokenKind}
    {R : List Token → List α → List Token → Prop}
    (last : ∀ ts a rest, item ts = .ok (a, rest) → R ts [a] rest)
    (more : ∀ ts a t us as rest, item ts = .ok (a, t :: us) → t.kind = .comma → R us as rest →
      R ts (a :: as) rest)
    {fuel : Nat} {ts : List Token} {as : List α} {rest : List Token}
    (run : separated item close fuel ts = .ok (as, rest)) :
    ∃ t, t.kind = close ∧ R ts as (t :: rest) := by
  induction fuel generalizing ts as rest with
  | zero => simp [separated] at run
  | succ fuel ih =>
    simp only [separated, Except.bind_eq_ok] at run
    obtain ⟨⟨a, us⟩, first, run⟩ := run
    cases us with
    | nil => simp at run
    | cons t us =>
      simp only at run
      split at run
      · next comma =>
        simp only [Except.bind_eq_ok] at run
        obtain ⟨⟨as, rest⟩, tail, run⟩ := run
        cases run
        obtain ⟨u, closes, reads⟩ := ih tail
        exact ⟨u, closes, more _ _ _ _ _ _ first comma reads⟩
      · split at run
        · next closes =>
          cases run
          exact ⟨t, closes, last _ _ _ first⟩
        · simp at run

theorem joined_sound {α : Type} {item : Reader α} {mark : TokenKind}
    {R : List Token → List α → List Token → Prop}
    (last : ∀ ts a rest, item ts = .ok (a, rest) → R ts [a] rest)
    (more : ∀ ts a t us as rest, item ts = .ok (a, t :: us) → t.kind = mark → R us as rest →
      R ts (a :: as) rest)
    {fuel : Nat} {ts : List Token} {as : List α} {rest : List Token}
    (run : joined item mark fuel ts = .ok (as, rest)) : R ts as rest := by
  induction fuel generalizing ts as rest with
  | zero => simp [joined] at run
  | succ fuel ih =>
    simp only [joined, Except.bind_eq_ok] at run
    obtain ⟨⟨a, us⟩, first, run⟩ := run
    cases us with
    | nil =>
      cases run
      exact last _ _ _ first
    | cons t us =>
      simp only at run
      split at run
      · next marked =>
        simp only [Except.bind_eq_ok] at run
        obtain ⟨⟨as, rest⟩, tail, run⟩ := run
        cases run
        exact more _ _ _ _ _ _ first marked (ih tail)
      · cases run
        exact last _ _ _ first

theorem joined?_of_run {join : List Condition → Condition} {ends : TokenKind → Bool}
    {cs : List Condition} {ts rest : List Token} {c : Condition}
    (run : (match cs with
      | [c] => pure (c, ts)
      | _ => do
        follow ends ts
        checkAllLogical cs
        return (join cs, ts)) = Except.ok (c, rest)) :
    joined? join cs = some c ∧ ts = rest := by
  split at run
  · cases run
    exact ⟨rfl, rfl⟩
  · next several =>
    simp only [Except.bind_eq_ok, checkAllLogical_eq_ok_iff] at run
    obtain ⟨-, -, -, logical, run⟩ := run
    cases run
    exact ⟨by simp [joined?, logical], rfl⟩

theorem integer?_sound {ts rest : List Token} {n? : Option (Int × Nat)}
    (run : Query.Parser.integer? ts = (n?, rest)) :
    ∃ leaf?, n? = placed leaf? ∧ ts = optionalTokens leaf? ++ rest := by
  cases ts with
  | nil =>
    cases run
    exact ⟨none, rfl, rfl⟩
  | cons t ts =>
    simp only [Query.Parser.integer?] at run
    split at run
    · next n kind =>
      cases run
      exact ⟨some (.ofInteger kind), rfl, rfl⟩
    · cases run
      exact ⟨none, rfl, rfl⟩

theorem sliceSelector_reads {start : Option (Leaf integer?)} {colon : Token}
    (kind : colon.kind = .colon) {stop : Option (Leaf integer?)}
    (step : Option (Mark .colon × Option (Leaf integer?))) {us rest : List Token} {s : Selector}
    (run : (do
      follow endsSelector us
      let start ← checkBound (placed start)
      let stop ← checkBound (placed stop)
      let step ← checkBound (placed (step.bind (·.2)))
      return (.slice start stop step, us)) = Except.ok (s, rest)) :
    Reads .selector
      (optionalTokens start ++ colon :: (optionalTokens stop ++ (SliceForm.stepTokens step ++ us))) s
      rest := by
  simp only [Except.bind_eq_ok, checkBound_eq_ok_iff] at run
  obtain ⟨-, -, start', startOk, stop', stopOk, step', stepOk, run⟩ := run
  cases run
  exact ⟨.sliceSelector ⟨start, .of kind, stop, step⟩, by simp [SliceForm.tokens, Mark.of],
    by simp [SliceForm.selector?, startOk, stopOk, stepOk]⟩

theorem slice_sound (start : Option (Leaf integer?)) {ts rest : List Token} {s : Selector}
    (run : slice (placed start) ts = .ok (s, rest)) :
    Reads .selector (optionalTokens start ++ ts) s rest := by
  cases ts with
  | nil => simp [slice] at run
  | cons t ts =>
    simp only [slice] at run
    split at run
    · next colon =>
      rcases stopRead : Query.Parser.integer? ts with ⟨n?, us⟩
      obtain ⟨stop, rfl, rfl⟩ := integer?_sound stopRead
      simp only [stopRead] at run
      cases us with
      | nil => simp [follow_eq_ok_iff, Except.bind_eq_ok] at run
      | cons u us =>
        by_cases colon' : u.kind = .colon
        · rcases stepRead : Query.Parser.integer? us with ⟨m?, us⟩
          obtain ⟨step, rfl, rfl⟩ := integer?_sound stepRead
          simp only [colon', if_true, stepRead] at run
          exact sliceSelector_reads colon (some (.of colon', step)) run
        · simp only [colon', if_false] at run
          exact sliceSelector_reads colon none run
    · simp at run

theorem childSegment_sound {inner : Reader Condition} {fuel : Nat} {t : Token}
    (dot : t.kind = .dot) {ts rest : List Token} {ss : List Selector} (run : shorthand fuel inner false ts = .ok (ss, rest)) :
    Reads .segment (t :: ts) (.child ss) rest := by
  cases ts with
  | nil => simp [shorthand] at run
  | cons u ts =>
    simp only [shorthand] at run
    split at run
    · next name kind =>
      cases run
      exact .childName dot kind
    · next star =>
      cases run
      exact .childWildcard dot star
    · simp at run
    · simp at run

section

variable {inner : Reader Condition} (inside : Sound .logicalExpr inner) (fuel : Nat)

include inside

theorem selector_sound : Sound .selector (selector inner) := by
  intro ts s rest run
  cases ts with
  | nil => simp [selector] at run
  | cons t ts =>
    simp only [selector] at run
    split at run
    · next name kind =>
      cases run
      exact ⟨.nameSelector ⟨t, name, by simp [string?, kind]⟩, rfl, rfl⟩
    · next star =>
      cases run
      exact ⟨.wildcardSelector (.of star), rfl, rfl⟩
    · exact slice_sound none run
    · next n kind =>
      cases ts with
      | nil => simp at run
      | cons u ts =>
        simp only at run
        split at run
        · exact slice_sound (some (.ofInteger kind)) run
        · simp only [Except.bind_eq_ok, checkInteger_eq_ok_iff] at run
          obtain ⟨-, -, m, ⟨small, rfl⟩, run⟩ := run
          cases run
          exact ⟨.indexSelector (.ofInteger kind), rfl, by simp [Leaf.ofInteger, small]⟩
    · next question =>
      simp only [Except.bind_eq_ok, checkLogical_eq_ok_iff] at run
      obtain ⟨⟨c, us⟩, condition, -, -, -, logical, run⟩ := run
      cases run
      exact .filterSelector question (inside _ _ _ condition) logical
    · simp at run

theorem bracketed_sound {t : Token} (left : t.kind = .lbracket) {ts rest : List Token}
    {ss : List Selector} (run : bracketed fuel inner ts = .ok (ss, rest)) :
    Reads .bracketedSelection (t :: ts) ss rest := by
  obtain ⟨right, closes, reads⟩ := separated_sound (R := Reads .selectors)
    (fun _ _ _ first => .lastSelector (selector_sound inside _ _ _ first))
    (fun _ _ _ _ _ _ first comma tail =>
      .moreSelectors (selector_sound inside _ _ _ first) comma tail) run
  exact .bracketedSelection left reads closes

theorem descendantSegment_sound {t : Token} (dots : t.kind = .dotdot) {ts rest : List Token}
    {ss : List Selector} (run : shorthand fuel inner true ts = .ok (ss, rest)) :
    Reads .segment (t :: ts) (.descendant ss) rest := by
  cases ts with
  | nil => simp [shorthand] at run
  | cons u ts =>
    simp only [shorthand] at run
    split at run
    · next name kind =>
      cases run
      exact .descendantName dots kind
    · next star =>
      cases run
      exact .descendantWildcard dots star
    · next left => exact .descendantBracketed dots (bracketed_sound inside fuel left run)
    · simp at run

theorem segments_sound (steps : Nat) : Sound .segments (segments inner steps) := by
  intro ts ss rest run
  induction steps generalizing ts ss rest with
  | zero =>
    cases ts <;> cases run <;> exact .noSegment
  | succ steps ih =>
    cases ts with
    | nil =>
      cases run
      exact .noSegment
    | cons t ts =>
      simp only [segments] at run
      split at run
      · next dot =>
        simp only [Except.bind_eq_ok] at run
        obtain ⟨⟨first, us⟩, head, ⟨more, us'⟩, tail, run⟩ := run
        cases run
        exact .moreSegments (childSegment_sound dot head) (ih _ _ _ tail)
      · next dots =>
        simp only [Except.bind_eq_ok] at run
        obtain ⟨⟨first, us⟩, head, ⟨more, us'⟩, tail, run⟩ := run
        cases run
        exact .moreSegments (descendantSegment_sound inside _ dots head) (ih _ _ _ tail)
      · next left =>
        simp only [Except.bind_eq_ok] at run
        obtain ⟨⟨first, us⟩, head, ⟨more, us'⟩, tail, run⟩ := run
        cases run
        exact .moreSegments (.childBracketed (bracketed_sound inside _ left head)) (ih _ _ _ tail)
      · cases run
        exact .noSegment

theorem argument_sound : Sound .functionArgument (argument inner) := by
  intro ts a rest run
  cases ts with
  | nil => simp [argument] at run
  | cons t ts =>
    simp only [argument] at run
    split at run
    · next v literal =>
      cases ts with
      | nil =>
        cases run
        exact .literalArgument literal
      | cons u ts =>
        simp only at run
        split at run
        · simp only [Except.bind_eq_ok] at run
          obtain ⟨⟨c, us⟩, condition, run⟩ := run
          cases run
          exact .logicalArgument (inside _ _ _ condition)
        · cases run
          exact .literalArgument literal
    · simp only [Except.bind_eq_ok] at run
      obtain ⟨⟨c, us⟩, condition, run⟩ := run
      cases run
      exact .logicalArgument (inside _ _ _ condition)

theorem arguments_sound {ts rest : List Token} {as : List Argument}
    (run : arguments fuel inner ts = .ok (as, rest)) :
    ∃ right : Mark .rparen, (as = [] ∧ ts = right.token :: rest) ∨
      Reads .arguments ts as (right.token :: rest) := by
  cases ts with
  | nil => simp [arguments] at run
  | cons t ts =>
    simp only [arguments] at run
    split at run
    · next right =>
      cases run
      exact ⟨.of right, .inl ⟨rfl, rfl⟩⟩
    · obtain ⟨right, closes, reads⟩ := separated_sound (R := Reads .arguments)
        (fun _ _ _ first => .lastArgument (argument_sound inside _ _ _ first))
        (fun _ _ _ _ _ _ first comma tail =>
          .moreArguments (argument_sound inside _ _ _ first) comma tail) run
      exact ⟨.of closes, .inr reads⟩

theorem call_sound (name : Leaf name?) {ts rest : List Token} {f : Function} {as : List Argument}
    (run : call fuel inner name.value name.token ts = .ok ((f, as), rest)) :
    Reads .functionExpr (name.token :: ts) (f, as) rest := by
  cases ts with
  | nil => simp [call] at run
  | cons t ts =>
    simp only [call] at run
    split at run
    · next left =>
      simp only [Except.bind_eq_ok] at run
      obtain ⟨⟨bs, us⟩, inside, -, -, ⟨f, as⟩, checked, run⟩ := run
      cases run
      obtain ⟨right, ⟨rfl, rfl⟩ | ⟨bs', rfl, meaning⟩⟩ := arguments_sound ‹_› fuel inside
      · have called : call? name (.of left) [] = some (f, as) :=
          (checkCall_eq_ok_iff (by simp)).mp checked
        exact ⟨.emptyCall name (.of left) right, rfl, called⟩
      · have called : call? name (.of left) bs = some (f, as) :=
          (checkCall_eq_ok_iff (arguments_isWritten meaning)).mp checked
        exact ⟨.call name (.of left) bs' right, by simp [Mark.of], by simp [meaning, called]⟩
    · simp at run

theorem operand_sound : Sound .comparable (operand fuel inner) := by
  intro ts o rest run
  cases ts with
  | nil => simp [operand] at run
  | cons t ts =>
    simp only [operand] at run
    split at run
    · next root =>
      simp only [Except.bind_eq_ok] at run
      obtain ⟨⟨ss, us⟩, steps, run⟩ := run
      cases run
      exact .queryComparable (.filterQuery (by simp [root, anchor?]) (segments_sound inside _ _ _ _ steps))
    · next current =>
      simp only [Except.bind_eq_ok] at run
      obtain ⟨⟨ss, us⟩, steps, run⟩ := run
      cases run
      exact .queryComparable (.filterQuery (by simp [current, anchor?]) (segments_sound inside _ _ _ _ steps))
    · next name kind =>
      simp only [Except.bind_eq_ok] at run
      obtain ⟨⟨⟨f, as⟩, us⟩, called, run⟩ := run
      cases run
      exact .callComparable (call_sound inside fuel (.ofName kind) called)
    · split at run
      · next v literal =>
        cases run
        exact .literalComparable literal
      · simp at run

theorem testOrComparison_sound : Sound .basicExpr (testOrComparison fuel inner) := by
  intro ts c rest run
  simp only [testOrComparison, Except.bind_eq_ok] at run
  obtain ⟨⟨left, us⟩, first, run⟩ := run
  have first := operand_sound inside fuel _ _ _ first
  cases us with
  | nil => simp at run
  | cons t us =>
    simp only at run
    split at run
    · next operator kind =>
      simp only [compared, Except.bind_eq_ok, checkComparable_eq_ok_iff] at run
      obtain ⟨⟨right, us'⟩, second, -, -, -, leftOk, -, rightOk, run⟩ := run
      cases run
      exact .comparison first kind (operand_sound inside fuel _ _ _ second) leftOk rightOk
    · simp only [Except.bind_eq_ok] at run
      obtain ⟨c, alone, run⟩ := run
      cases run
      exact .test (.testOfComparable first alone)

theorem parenthesised_sound {t : Token} (left : t.kind = .lparen) {ts rest : List Token}
    {c : Condition} (run : parenthesised inner ts = .ok (c, rest)) :
    Reads .parenExpr (t :: ts) c rest := by
  simp only [parenthesised, Except.bind_eq_ok] at run
  obtain ⟨⟨c, us⟩, condition, run⟩ := run
  cases us with
  | nil => simp at run
  | cons u us =>
    simp only at run
    split at run
    · next right =>
      simp only [Except.bind_eq_ok, checkLogical_eq_ok_iff] at run
      obtain ⟨-, -, -, logical, run⟩ := run
      cases run
      exact .parenExpr left (inside _ _ _ condition) right logical
    · simp at run

theorem negated_sound {t : Token} (bang : t.kind = .not) {ts rest : List Token} {c : Condition}
    (run : negated fuel inner ts = .ok (c, rest)) :
    Reads .basicExpr (t :: ts) (.negation c) rest := by
  cases ts with
  | nil => simp [negated] at run
  | cons u ts =>
    simp only [negated] at run
    split at run
    · next left => exact .notParen bang (parenthesised_sound inside left run)
    · split at run
      · simp at run
      · simp only [Except.bind_eq_ok, checkLogical_eq_ok_iff] at run
        obtain ⟨⟨o, us⟩, first, -, -, c, alone, -, logical, run⟩ := run
        cases run
        exact .notTest bang (.testOfComparable (operand_sound inside fuel _ _ _ first) alone) logical

theorem basic_sound : Sound .basicExpr (basic fuel inner) := by
  intro ts c rest run
  cases ts with
  | nil => simp [basic] at run
  | cons t ts =>
    simp only [basic] at run
    split at run
    · next left => exact .paren (parenthesised_sound inside left run)
    · split at run
      · next bang =>
        simp only [Except.bind_eq_ok] at run
        obtain ⟨⟨c, us⟩, operand, run⟩ := run
        cases run
        exact negated_sound inside fuel bang operand
      · exact testOrComparison_sound inside fuel _ _ _ run

theorem conjunction_sound : Sound .logicalAnd (conjunction fuel inner) := by
  intro ts c rest run
  simp only [conjunction, Except.bind_eq_ok] at run
  obtain ⟨⟨cs, us⟩, operands, run⟩ := run
  have operands := joined_sound (R := Reads .conjuncts)
    (fun _ _ _ first => .lastConjunct (basic_sound inside fuel _ _ _ first))
    (fun _ _ _ _ _ _ first and tail => .moreConjuncts (basic_sound inside fuel _ _ _ first) and tail)
    operands
  obtain ⟨joined, rfl⟩ := joined?_of_run run
  exact .logicalAnd operands joined

theorem disjunction_sound : Sound .logicalExpr (disjunction fuel inner) := by
  intro ts c rest run
  simp only [disjunction, Except.bind_eq_ok] at run
  obtain ⟨⟨cs, us⟩, operands, run⟩ := run
  have operands := joined_sound (R := Reads .disjuncts)
    (fun _ _ _ first => .lastDisjunct (conjunction_sound inside fuel _ _ _ first))
    (fun _ _ _ _ _ _ first or tail =>
      .moreDisjuncts (conjunction_sound inside fuel _ _ _ first) or tail) operands
  obtain ⟨joined, rfl⟩ := joined?_of_run run
  exact .logicalExpr operands joined

end

theorem condition_sound (fuel : Nat) : Sound .logicalExpr (condition fuel) := by
  induction fuel with
  | zero =>
    intro ts c rest run
    simp [condition] at run
  | succ fuel ih => exact disjunction_sound ih (fuel + 1)

theorem query_sound {fuel : Nat} {ts : List Token} {q : Query} (run : query fuel ts = .ok q) :
    ∃ (t : Derivation .query) (rest : List Token), t.meaning? = some q ∧ ts = t.tokens ++ rest ∧
      ∀ u ∈ rest.head?, u.kind = .eof := by
  cases ts with
  | nil => simp [query] at run
  | cons t ts =>
    simp only [query] at run
    split at run
    · next root =>
      simp only [Except.bind_eq_ok] at run
      obtain ⟨⟨ss, us⟩, steps, run⟩ := run
      obtain ⟨inside, rfl, meaning⟩ := segments_sound (condition_sound fuel) fuel _ _ _ steps
      cases us with
      | nil =>
        cases run
        exact ⟨.query (.of root) inside, [], by simp [meaning], rfl, by simp⟩
      | cons u us =>
        simp only at run
        split at run
        · next eof =>
          cases run
          exact ⟨.query (.of root) inside, u :: us, by simp [meaning], rfl, by simp [eof]⟩
        · simp at run
    · simp at run

end Grammar

end JsonPath
