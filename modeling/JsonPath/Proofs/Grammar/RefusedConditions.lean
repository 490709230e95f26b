import JsonPath.Proofs.Grammar.RefusedSegments

namespace JsonPath

namespace Grammar

open Query.Parser

section

variable {inner : Reader Condition} {size fuel : Nat}
  (inside : ∀ ts, ts.length ≤ size → Judged endsDisjunction .logicalExpr ts (inner ts))
  {t : Token} {ts us : List Token}

theorem stops_literalArgument (literal : Literal)
    (alone : ∀ u ∈ us.head?, ¬ (comparison? u.kind).isSome) :
    Stops (.literalArgument literal) us := by
  rintro u member ⟨t', more, same⟩
  cases t' with
  | literalArgument literal' => grind
  | logicalArgument c =>
    obtain ⟨operator, after, next⟩ :=
      Derivation.Unique.literal_operator (same.symm.trans (List.append_nil _).symm)
    obtain ⟨rfl, -⟩ := List.cons.inj next
    exact alone _ member (by simp [operator.reads])

include inside

theorem logicalArgument_judged (small : (t :: ts).length ≤ size)
    (compared : (literal? t.kind).isSome → ∃ (operator : ComparisonOp) (us : List Token),
      ts = operator.token :: us) :
    Judged endsDisjunction .functionArgument (t :: ts) (do
      let (c, us) ← inner (t :: ts)
      return (Argument.condition c, us)) := by
  refine .bind [] rfl (inside (t :: ts) small) ?_ ?_ ?_
  · rintro x more - ⟨c, after, tokens⟩
    exact ⟨.logicalArgument c, after, tokens⟩
  · rintro u x more same ⟨t', rest, after, first, tokens⟩
    obtain ⟨rfl, rfl⟩ := List.cons.inj same
    cases t' with
    | logicalArgument c => exact ⟨c, rest, after, first, tokens⟩
    | literalArgument literal =>
      obtain ⟨rfl, rfl⟩ := List.cons.inj tokens
      -- A literal alone is an argument too, but what is read goes on with the operator.
      obtain ⟨operator, us, next⟩ := compared (by simp [literal.reads])
      cases x with
      | nil =>
        let alone := Derivation.literalComparable literal
        exact Viable.admits
          ⟨.disjunct (.comparison alone operator alone), [operator.token, literal.token], rfl⟩
      | cons w x =>
        obtain ⟨rfl, -⟩ := List.cons.inj next
        exact absurd rfl (Follows.innermost first).ne_operator
  · rintro c us - ⟨c', same, stops⟩
    refine .done (.logicalArgument c') same ?_ _
    rintro u member ⟨t', more, tokens⟩
    cases t' with
    | logicalArgument c'' => exact stops u member ⟨c'', more, tokens⟩
    | literalArgument literal =>
      obtain ⟨first, others, front, -⟩ := Derivation.opens_logicalExpr c'
      simp [front] at tokens

theorem argument_judged (small : ts.length ≤ size) :
    Judged endsDisjunction .functionArgument ts (argument inner ts) := by
  cases ts with
  | nil => exact .refuse [] rfl (viable_nil _) (by simp)
  | cons t ts =>
    simp only [argument]
    split
    · next v reads =>
      obtain ⟨literal, rfl, rfl⟩ := Literal.literal?_eq_some_iff.mp reads
      cases ts with
      | nil => exact .done (.literalArgument literal) rfl (stops_literalArgument literal (by simp)) _
      | cons u us =>
        simp only
        split
        · next compared =>
          obtain ⟨operator, reads⟩ := Option.isSome_iff_exists.mp compared
          obtain ⟨operator, rfl, -⟩ := ComparisonOp.comparison?_eq_some_iff.mp reads
          exact logicalArgument_judged inside small fun _ => ⟨operator, us, rfl⟩
        · next alone =>
          exact .done (.literalArgument literal) rfl
            (stops_literalArgument literal (by simpa using alone)) _
    · next noLiteral => exact logicalArgument_judged inside small (by simp [noLiteral])

omit inside in
theorem stops_functionExpr (call : Derivation .functionExpr) (us : List Token) : Stops call us := by
  rintro u member ⟨t', more, same⟩
  cases call with
  | emptyCall name left right => cases t' <;> grind
  | call name left as right =>
    cases t' with
    | emptyCall name' left' right' => grind
    | call name' left' as' right' =>
      simp only [Derivation.tokens, List.cons_append, List.append_assoc, List.nil_append] at same
      obtain ⟨-, afterName⟩ := List.cons.inj same
      obtain ⟨-, inside⟩ := List.cons.inj afterName
      obtain ⟨-, after⟩ := as'.unique as _ _ (.mark right' (by decide)) (.mark right (by decide))
        inside
      simp at after

theorem arguments_judged (name : Leaf name?) (left : Mark .lparen) (small : ts.length ≤ size)
    (enough : ts.length ≤ fuel) :
    Judged endsOperand .functionExpr (name.token :: left.token :: ts) (arguments fuel inner ts) := by
  cases ts with
  | nil =>
    exact .refuse [name.token, left.token] rfl ⟨.emptyCall name left (.bare .rparen), _, rfl⟩ (by simp)
  | cons u us =>
    simp only [arguments]
    split
    · next right => exact .done (.emptyCall name left (.of right)) rfl (stops_functionExpr _ _) _
    · next other =>
      have items : Answered (Closed .arguments .rparen (u :: us)) (· = .rparen) .arguments
          (u :: us) (separated (argument inner) .rparen fuel (u :: us)) :=
        separated_answered .arguments (fun ts small => argument_judged inside small) rfl
          (by decide) small enough
      refine .lift [name.token, left.token] rfl items ?_ ?_ ?_
      · rintro x more - ⟨as, after, tokens⟩
        exact ⟨.call name left as (.bare .rparen), _, by simp [tokens]; rfl⟩
      · rintro v x more same ⟨t', rest, after, first, tokens⟩
        cases t' with
        | emptyCall name' left' right => grind
        | call name' left' as right =>
          refine ⟨as, right.token :: rest, after, by simp [right.kind], ?_⟩
          simpa using (List.cons.inj (List.cons.inj tokens).2).2
      · rintro rest ⟨as, right, same⟩
        exact ⟨.call name left as right, by simp [same], stops_functionExpr _ _⟩

theorem call_judged (name : Leaf name?) (small : ts.length ≤ size + 1) (enough : ts.length ≤ fuel) :
    Judged endsOperand .functionExpr (name.token :: ts)
      (call fuel inner name.value name.token ts) := by
  have viable : Viable .functionExpr [name.token] :=
    ⟨.emptyCall name (.bare .lparen) (.bare .rparen), _, rfl⟩
  cases ts with
  | nil => exact .refuse [name.token] rfl viable (by simp)
  | cons t ts =>
    simp only [List.length_cons] at small enough
    simp only [call]
    split
    · next paren =>
      refine .andThen (arguments_judged inside name (.of paren) (by omega) (by omega)) ?_
      rintro as us - ⟨call, same, stops⟩
      exact .follow call same stops (fun _ ends => ends)
        (.check (checks_call _ _ _ _) fun _ => .done call same stops _)
    · next other =>
      refine .refuse [name.token] rfl viable ?_
      rintro v member ⟨t', rest, more, first, same⟩
      cases t' <;> grind

omit inside in
theorem stops_literalComparable (literal : Literal) (us : List Token) :
    Stops (.literalComparable literal) us := by
  rintro u member ⟨t', more, same⟩
  cases t' <;> grind [startsTest]

theorem filterQuery_judged {anchor : Leaf anchor?} (small : ts.length ≤ size)
    (enough : ts.length ≤ fuel) :
    Judged endsOperand .filterQuery (anchor.token :: ts) (segments inner fuel ts) := by
  have start : Wraps [anchor.token] ts.head? (.filterQuery anchor) := by
    refine ⟨fun _ => rfl, fun u first t' rest more same => ?_⟩
    cases t'
    grind
  refine .inside _ rfl start (fun k ends => ?_) (segments_judged inside small enough)
  simp [Symbol.mayPrecede, not_startsSegment_of_endsOperand ends]

theorem queryTest_judged (anchor : Leaf anchor?) (small : ts.length ≤ size)
    (enough : ts.length ≤ fuel) :
    Judged endsOperand .testExpr (anchor.token :: ts) (do
      let (ss, us) ← segments inner fuel ts
      return (Operand.query (.mk anchor.value ss), us)) := by
  have alone : Wraps [] (some anchor.token) .queryTest := by
    refine ⟨fun _ => rfl, fun u first t' rest more same => ?_⟩
    cases t' <;> grind
  exact .andThen (.inside (anchor.token :: ts) rfl alone (fun _ ends => ends)
    (filterQuery_judged inside small enough)) fun _ _ _ accepted => accepted

theorem test_judged (noLiteral : literal? t.kind = none) (small : ts.length ≤ size)
    (enough : ts.length ≤ fuel) :
    Judged endsOperand .testExpr (t :: ts) (operand fuel inner (t :: ts)) := by
  simp only [operand]
  split
  · next root => exact queryTest_judged inside ⟨t, .root, by simp [anchor?, root]⟩ small enough
  · next current =>
    exact queryTest_judged inside ⟨t, .current, by simp [anchor?, current]⟩ small enough
  · next name kind =>
    have alone : Wraps [] (some t) .callTest := by
      refine ⟨fun _ => rfl, fun u first t' rest more same => ?_⟩
      cases t' <;> grind
    refine .andThen (.inside (t :: ts) rfl alone (fun _ ends => ends) ?_) ?_
    · exact call_judged inside (.ofName kind) (by omega) (by omega)
    · exact fun _ _ _ accepted => accepted
  · next noRoot noCurrent noName =>
    simp only [noLiteral]
    refine .refuse [] rfl (viable_nil _) ?_
    rintro u member ⟨t', rest, more, first, same⟩
    cases t' <;> grind

omit inside in
theorem operand_of_literal (literal : Literal) :
    operand fuel inner (literal.token :: ts) = .ok (.literal literal.value, ts) := by
  have reads := literal.reads
  simp only [operand]
  split <;> simp_all [literal?]

omit inside in
theorem asTest_of_operand {o : Operand} (noLiteral : literal? t.kind = none)
    (run : operand fuel inner (t :: ts) = .ok (o, us)) : ∃ c, asTest o us = .ok c := by
  simp only [operand] at run
  split at run
  case h_4 => simp [noLiteral] at run
  all_goals
    simp only [Except.bind_eq_ok] at run
    obtain ⟨part, -, run⟩ := run
    cases run
    exact ⟨_, rfl⟩

omit inside in
theorem wraps_asComparable (noLiteral : literal? t.kind = none) :
    Wraps [] (some t) Derivation.asComparable := by
  refine ⟨Derivation.tokens_asComparable, ?_⟩
  intro u first t' rest more same
  cases t' with
  | literalComparable literal =>
    obtain ⟨rfl, -⟩ := List.cons.inj same
    obtain rfl : t = literal.token := by simpa using first
    simp [literal.reads] at noLiteral
  | queryComparable q => exact ⟨.queryTest q, rfl⟩
  | callComparable c => exact ⟨.callTest c, rfl⟩

theorem comparable_judged (small : ts.length ≤ size + 1) (enough : ts.length ≤ fuel + 1) :
    Judged endsOperand .comparable ts (operand fuel inner ts) := by
  cases ts with
  | nil => exact .refuse [] rfl (viable_nil _) (by simp)
  | cons t ts =>
    simp only [List.length_cons] at small enough
    cases reads : literal? t.kind with
    | some v =>
      obtain ⟨literal, rfl, -⟩ := Literal.literal?_eq_some_iff.mp reads
      rw [operand_of_literal]
      exact .done (.literalComparable literal) rfl (stops_literalComparable literal ts) _
    | none =>
      exact .inside (t :: ts) rfl (wraps_asComparable reads) (fun _ ends => ends)
        (test_judged inside reads (by omega) (by omega))

section

variable {left : Derivation .comparable} {operator : ComparisonOp}

omit inside

theorem comparison_cut (stops : Stops left (operator.token :: us)) {t' : Derivation .basicExpr}
    {rest more : List Token} (follows : Follows .basicExpr rest)
    (same : t'.tokens ++ rest = left.tokens ++ operator.token :: more) :
    ∃ right, t' = .comparison left operator right ∧ right.tokens ++ rest = more := by
  cases t' with
  | comparison left' operator' right =>
    simp only [Derivation.tokens, List.append_assoc, List.cons_append] at same
    obtain ⟨rfl, after⟩ := stops.cut (.operator operator') same
    obtain ⟨token, after⟩ := List.cons.inj after
    exact ⟨right, by rw [ComparisonOp.ext token], after⟩
  | test t =>
    rw [Derivation.tokens, ← t.tokens_asComparable] at same
    obtain ⟨-, rfl⟩ := stops.cut follows.comparable same
    exact absurd rfl follows.ne_operator
  | _ => grind [startsOperand, startsTest, literal?]

end

theorem compared_judged {left : Derivation .comparable} (operator : ComparisonOp) (l : Operand)
    (offset : Nat) (stops : Stops left (operator.token :: us)) (small : us.length ≤ size + 1)
    (enough : us.length ≤ fuel + 1) :
    Judged endsTest .basicExpr (left.tokens ++ operator.token :: us)
      (compared fuel inner l operator.value offset us) := by
  refine .bind (left.tokens ++ [operator.token]) (by simp)
    (comparable_judged inside small enough) ?_ ?_ ?_
  · rintro x more - ⟨right, after, tokens⟩
    exact ⟨.comparison left operator right, after, by simp [tokens]⟩
  · rintro u x more - ⟨t', rest, after, first, same⟩
    obtain ⟨right, -, tokens⟩ := comparison_cut stops first (by simpa using same)
    exact ⟨right, rest, after, fun v member => endsOperand_of_endsTest (first v member), tokens⟩
  · rintro r rest - ⟨right, rfl, stops'⟩
    let whole := Derivation.comparison left operator right
    have same : left.tokens ++ operator.token :: (right.tokens ++ rest) = whole.tokens ++ rest := by
      simp [whole]
    have stopsWhole : Stops whole rest := by
      rintro u member ⟨t', more, tokens⟩
      have front : t'.tokens ++ [] = left.tokens ++ operator.token :: (right.tokens ++ u :: more) := by
        simpa [whole] using tokens
      obtain ⟨right', -, tokens⟩ := comparison_cut stops .nil front
      exact stops' u member ⟨right', more, by simpa using tokens⟩
    refine .follow whole same stopsWhole (fun _ ends => ends) ?_
    refine .check (checks_comparable _ _) fun _ => ?_
    exact .check (checks_comparable _ _) fun _ => .done whole same stopsWhole _

omit inside in
theorem stops_test {t : Derivation .testExpr} {u : Token} (stops : Stops t.asComparable (u :: us))
    (alone : comparison? u.kind = none) : Stops (.test t) (u :: us) := by
  rintro v member ⟨t', more, same⟩
  obtain rfl : u = v := by simpa using member
  cases t' with
  | comparison left operator right =>
    simp only [Derivation.tokens, List.append_assoc, ← t.tokens_asComparable] at same
    obtain ⟨-, next⟩ := stops.cut (.operator operator) same
    obtain ⟨rfl, -⟩ := List.cons.inj next
    simp [operator.reads] at alone
  | test t' =>
    refine stops.first ⟨t'.asComparable, more, ?_⟩
    rw [t'.tokens_asComparable, t.tokens_asComparable]
    exact same
  | _ => grind [startsOperand, startsTest, literal?]

omit inside in
theorem not_admits_literal {literal : Literal} {u : Token} (alone : comparison? u.kind = none) :
    ¬ Admits endsTest .basicExpr [literal.token, u] := by
  rintro ⟨t', rest, more, first, same⟩
  have reads := literal.reads
  cases t' with
  | comparison left operator right =>
    simp only [Derivation.tokens, List.append_assoc] at same
    have stops := stops_literalComparable literal (u :: more)
    obtain ⟨-, next⟩ := stops.cut (.operator operator) same
    obtain ⟨rfl, -⟩ := List.cons.inj next
    simp [operator.reads] at alone
  | _ => grind [startsOperand, startsTest, literal?]

theorem testOrComparison_judged (noParen : t.kind ≠ .lparen) (noBang : t.kind ≠ .not)
    (small : ts.length ≤ size) (enough : ts.length ≤ fuel) :
    Judged endsTest .basicExpr (t :: ts) (testOrComparison fuel inner (t :: ts)) := by
  have viable {x : List Token} : Viable .comparable x → Viable .basicExpr x := by
    rintro ⟨left, after, tokens⟩
    let equal : ComparisonOp := .eq ⟨⟨.eq, 0, []⟩, (), rfl⟩
    exact ⟨.comparison left equal left, after ++ equal.token :: left.tokens, by simp [tokens]⟩
  refine .bind [] rfl (comparable_judged inside (by simpa) (by simpa)) ?_ ?_ ?_
  · exact fun x more _ => viable
  · rintro u x more same ⟨t', rest, after, first, tokens⟩
    obtain ⟨rfl, rfl⟩ := List.cons.inj same
    cases t' with
    | comparison left operator right =>
      exact ⟨left, _, after, Follows.operator operator, by simpa using tokens⟩
    | test t' =>
      exact ⟨t'.asComparable, rest, after, Follows.comparable first, by rwa [t'.tokens_asComparable]⟩
    | _ => grind
  · rintro o us run ⟨left, same, stops⟩
    cases us with
    | nil => exact .refuse left.tokens same (viable ⟨left, [], by simp⟩) (by simp)
    | cons u us =>
      simp only
      split
      · next operation operates =>
        obtain ⟨operator, rfl, rfl⟩ := ComparisonOp.comparison?_eq_some_iff.mp operates
        rw [same]
        have lengths := congrArg List.length same
        simp only [List.length_cons, List.length_append] at lengths
        exact compared_judged inside operator o operator.token.offset stops
          (by omega) (by omega)
      · next alone =>
        -- With no operator next, the side has to be a test, and a literal is none.
        cases reads : literal? t.kind with
        | some v =>
          obtain ⟨literal, rfl, -⟩ := Literal.literal?_eq_some_iff.mp reads
          rw [operand_of_literal] at run
          cases run
          rw [asTest, unexpected_bind]
          exact .refuse [literal.token] rfl (viable ⟨.literalComparable literal, [], rfl⟩)
            (by simpa using not_admits_literal alone)
        | none =>
          obtain ⟨t', rfl⟩ := (wraps_asComparable reads).only t rfl left (u :: us) ts same.symm
          obtain ⟨c, test⟩ := asTest_of_operand reads run
          rw [test]
          exact .done (.test t') (by simp [same, t'.tokens_asComparable]) (stops_test stops alone) c

theorem parenthesised_judged (left : t.kind = .lparen) (small : ts.length ≤ size) :
    Judged endsTest .parenExpr (t :: ts) (parenthesised inner ts) := by
  unfold parenthesised
  refine .bind [t] rfl (inside ts small) ?_ ?_ ?_
  · rintro x more - ⟨c, after, tokens⟩
    exact ⟨.parenExpr (.of left) c (.bare .rparen), _, by simp [tokens, Mark.of]; rfl⟩
  · rintro u x more - ⟨t', rest, after, first, same⟩
    cases t' with
    | parenExpr left' c right =>
      refine ⟨c, right.token :: rest, after, by simp [right.kind, endsDisjunction], ?_⟩
      simpa using (List.cons.inj same).2
  · rintro c us - ⟨c', rfl, stops⟩
    have viable : Viable .parenExpr (t :: c'.tokens) :=
      ⟨.parenExpr (.of left) c' (.bare .rparen), _, rfl⟩
    cases us with
    | nil => exact .refuse (t :: c'.tokens) (by simp) viable (by simp)
    | cons u us =>
      simp only
      split
      · next right =>
        let paren : Derivation .parenExpr := .parenExpr (.of left) c' (.of right)
        have same : t :: (c'.tokens ++ u :: us) = paren.tokens ++ us := by simp [paren, Mark.of]
        have free : Stops paren us := .of_free (fun _ => rfl) _ _
        exact .follow paren same free (fun _ _ => rfl)
          (.check (checks_logical c) fun _ => .done paren same free _)
      · next open' =>
        refine .refuse (t :: c'.tokens) rfl viable ?_
        rintro v member ⟨t', rest, more, first, same⟩
        obtain rfl : u = v := by simpa using member
        cases t' with
        | parenExpr left' c'' right =>
          simp only [Derivation.tokens, List.append_assoc, List.cons_append] at same
          obtain ⟨-, after⟩ := stops.cut (.mark right (by decide)) (List.cons.inj same).2
          obtain ⟨rfl, -⟩ := List.cons.inj after
          exact open' right.kind

theorem negated_judged (bang : t.kind = .not) (small : ts.length ≤ size + 1)
    (enough : ts.length ≤ fuel + 1) :
    Judged endsTest .basicExpr (t :: ts) (negated fuel inner ts) := by
  let mark : Mark .not := .of bang
  have viable : Viable .basicExpr [t] := ⟨.notTest mark (.queryTest .currentNode), _, rfl⟩
  cases ts with
  | nil => exact .refuse [t] rfl viable (by simp)
  | cons u us =>
    simp only [List.length_cons] at small enough
    simp only [negated]
    split
    · next left =>
      have paren : Wraps [mark.token] (some u) (.notParen mark) := by
        refine ⟨fun _ => rfl, fun v first t' rest more same => ?_⟩
        cases t' <;> grind [startsOperand, startsTest, literal?]
      exact .inside (u :: us) rfl paren (fun _ ends => ends)
        (parenthesised_judged inside left (by omega))
    · next noParen =>
      split
      · next isLiteral =>
        obtain ⟨v, reads⟩ := Option.isSome_iff_exists.mp isLiteral
        obtain ⟨literal, rfl, -⟩ := Literal.literal?_eq_some_iff.mp reads
        refine .refuse [t] rfl viable ?_
        rintro w member ⟨t', rest, more, first, same⟩
        obtain rfl : literal.token = w := by simpa using member
        have noTest := not_startsTest_literal literal
        cases t' <;> grind [startsOperand, startsTest, literal?]
      · next noLiteral =>
        have test : Wraps [mark.token] (some u) (.notTest mark) := by
          refine ⟨fun _ => rfl, fun v first t' rest more same => ?_⟩
          cases t' <;> grind [startsOperand, startsTest, literal?]
        have reads : literal? u.kind = none := by simpa using noLiteral
        refine .andThen (.inside (u :: us) rfl test (fun _ => endsOperand_of_endsTest)
          (test_judged inside reads (by omega) (by omega))) ?_
        rintro o rest run ⟨t', same, stops⟩
        obtain ⟨c, alone⟩ := asTest_of_operand reads run
        refine .follow t' same stops (fun _ ends => ends) ?_
        refine .check (alone ▸ Checks.ok c) fun c => ?_
        exact .check (checks_logical c) fun _ => .done t' same stops _

theorem basic_judged (small : ts.length ≤ size + 1) (enough : ts.length ≤ fuel + 1) :
    Judged endsTest .basicExpr ts (basic fuel inner ts) := by
  cases ts with
  | nil => exact .refuse [] rfl (viable_nil _) (by simp)
  | cons t ts =>
    simp only [List.length_cons] at small enough
    simp only [basic]
    split
    · next left =>
      have paren : Wraps [] (some t) .paren := by
        refine ⟨fun _ => rfl, fun u first t' rest more same => ?_⟩
        cases t' <;> grind [startsOperand, startsTest, literal?]
      exact .inside (t :: ts) rfl paren (fun _ ends => ends)
        (parenthesised_judged inside left (by omega))
    · next noParen =>
      split
      · next bang =>
        exact .andThen (negated_judged inside bang (by omega) (by omega))
          fun _ _ _ accepted => accepted
      · next noBang => exact testOrComparison_judged inside noParen noBang (by omega) (by omega)

omit inside in
theorem operands_judged {p : TokenKind → Bool} {s : Symbol} (join : List Condition → Condition)
    (ends : ∀ k, p k → s.mayPrecede k) {operands : Except ParseError (List Condition × List Token)}
    (read : Judged p s ts operands) :
    Judged p s ts (do
      let (cs, us) ← operands
      match cs with
      | [c] => return (c, us)
      | _ => do
        follow p us
        checkAllLogical cs
        return (join cs, us)) := by
  refine .andThen read ?_
  rintro cs us - ⟨t', same, stops⟩
  simp only
  split
  · exact .done t' same stops _
  · exact .follow t' same stops ends (.check (checks_allLogical cs) fun _ => .done t' same stops _)

theorem conjunction_judged (fits : size < fuel) (small : ts.length ≤ size + 1)
    (enough : ts.length ≤ fuel) :
    Judged endsConjunction .logicalAnd ts (conjunction fuel inner ts) := by
  have list : Wraps [] ts.head? .logicalAnd := by
    refine ⟨fun _ => rfl, fun u first t' rest more same => ?_⟩
    cases t' with
    | logicalAnd cs => exact ⟨cs, rfl⟩
  have conjuncts : Judged Symbol.conjuncts.mayPrecede .conjuncts ts
      (joined (basic fuel inner) .and fuel ts) :=
    joined_judged .conjuncts (fun ts small => basic_judged inside small (by omega)) small enough
  exact operands_judged .all (fun _ ends => ends)
    (.inside _ rfl list (fun _ => conjuncts_mayPrecede) conjuncts)

theorem disjunction_judged (fits : size < fuel) (small : ts.length ≤ size + 1)
    (enough : ts.length ≤ fuel) :
    Judged endsDisjunction .logicalExpr ts (disjunction fuel inner ts) := by
  have list : Wraps [] ts.head? .logicalExpr := by
    refine ⟨fun _ => rfl, fun u first t' rest more same => ?_⟩
    cases t' with
    | logicalExpr cs => exact ⟨cs, rfl⟩
  have disjuncts : Judged Symbol.disjuncts.mayPrecede .disjuncts ts
      (joined (conjunction fuel inner) .or fuel ts) :=
    joined_judged .disjuncts (fun ts small => conjunction_judged inside fits small (by omega)) small
      enough
  exact operands_judged .any (fun _ ends => ends)
    (.inside _ rfl list (fun _ => disjuncts_mayPrecede) disjuncts)

end

/-- A logical expression inside another stands behind a token of its own, so fuel for one token less is
enough for it. -/
theorem condition_judged (fuel : Nat) {ts : List Token} (small : ts.length ≤ fuel) :
    Judged endsDisjunction .logicalExpr ts (condition fuel ts) := by
  induction fuel generalizing ts with
  | zero =>
    obtain rfl : ts = [] := List.length_eq_zero_iff.mp (by omega)
    exact .refuse [] rfl (viable_nil _) (by simp)
  | succ fuel ih =>
    exact disjunction_judged (fun ts small => ih small) (Nat.lt_succ_self fuel) small small

end Grammar

end JsonPath
