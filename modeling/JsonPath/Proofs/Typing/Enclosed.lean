import JsonPath.Proofs.Grammar.Parse
import JsonPath.Proofs.Grammar.Part
import JsonPath.Proofs.Typing.Parsed

namespace JsonPath

namespace Grammar

namespace Derivation

def alone (b : Derivation .basicExpr) : Derivation .logicalExpr :=
  logicalExpr (lastDisjunct (logicalAnd (lastConjunct b)))

/-- A query with pairs of parentheses around it, the outermost first. -/
def enclosed (q : Derivation .filterQuery) :
    List (Mark .lparen × Mark .rparen) → Derivation .logicalExpr
  | [] => alone (test (queryTest q))
  | (left, right) :: pairs => alone (paren (parenExpr left (enclosed q pairs) right))

def bare (q : Derivation .filterQuery) : Derivation .functionArgument :=
  logicalArgument (enclosed q [])

def members : Derivation .arguments → List (Derivation .functionArgument)
  | lastArgument a => [a]
  | moreArguments a _ as => a :: as.members

@[simp]
theorem meaning?_alone (b : Derivation .basicExpr) : (alone b).meaning? = b.meaning? := by
  cases h : b.meaning? <;> simp [alone, h, joined?]

@[simp]
theorem meaning?_enclosed (q : Derivation .filterQuery) (pairs : List (Mark .lparen × Mark .rparen)) :
    (enclosed q pairs).meaning? = q.meaning?.map .selects := by
  induction pairs with
  | nil => simp [enclosed]
  | cons pair pairs ih =>
    rw [enclosed, meaning?_alone, meaning?, meaning?, ih]
    cases q.meaning? <;> simp [Condition.isLogical]

theorem eq_lastDisjunct {cs : Derivation .disjuncts} {m : Condition} (meaning : cs.meaning? = some [m]) :
    ∃ c, cs = lastDisjunct c ∧ c.meaning? = some m := by
  cases cs with
  | lastDisjunct c => exact ⟨c, rfl, by simpa [Option.map_eq_some_iff] using meaning⟩
  | moreDisjuncts c or cs =>
    simp only [meaning?, Option.bind_eq_bind, Option.bind_eq_some_iff] at meaning
    obtain ⟨m', -, ms, rest, same⟩ := meaning
    cases same
    exact absurd rfl (cs.typed rest).1

theorem eq_lastConjunct {cs : Derivation .conjuncts} {m : Condition} (meaning : cs.meaning? = some [m]) :
    ∃ c, cs = lastConjunct c ∧ c.meaning? = some m := by
  cases cs with
  | lastConjunct c => exact ⟨c, rfl, by simpa [Option.map_eq_some_iff] using meaning⟩
  | moreConjuncts c and cs =>
    simp only [meaning?, Option.bind_eq_bind, Option.bind_eq_some_iff] at meaning
    obtain ⟨m', -, ms, rest, same⟩ := meaning
    cases same
    exact absurd rfl (cs.typed rest).1

theorem eq_alone {c : Derivation .logicalExpr} {m : Condition} (meaning : c.meaning? = some m)
    (notAny : ∀ ms, m ≠ .any ms) (notAll : ∀ ms, m ≠ .all ms) :
    ∃ b, c = alone b ∧ b.meaning? = some m := by
  cases c with
  | logicalExpr cs =>
    simp only [meaning?, Option.bind_eq_some_iff] at meaning
    obtain ⟨ms, disjuncts, joined⟩ := meaning
    rcases joined?_eq_some (cs.typed disjuncts).1 joined with rfl | ⟨rfl, -, -⟩
    · obtain ⟨c, rfl, operand⟩ := eq_lastDisjunct disjuncts
      cases c with
      | logicalAnd cs =>
        simp only [meaning?, Option.bind_eq_some_iff] at operand
        obtain ⟨ms, conjuncts, joined⟩ := operand
        rcases joined?_eq_some (cs.typed conjuncts).1 joined with rfl | ⟨rfl, -, -⟩
        · obtain ⟨b, rfl, operand⟩ := eq_lastConjunct conjuncts
          exact ⟨b, rfl, operand⟩
        · exact absurd rfl (notAll ms)
    · exact absurd rfl (notAny ms)

theorem eq_enclosed (c : Derivation .logicalExpr) {m : Query} (meaning : c.meaning? = some (.selects m)) :
    ∃ q pairs, c = enclosed q pairs ∧ q.meaning? = some m := by
  obtain ⟨b, rfl, operand⟩ := eq_alone meaning (by simp) (by simp)
  cases b with
  | paren p =>
    cases p with
    | parenExpr left inner right =>
      simp only [meaning?, Option.filter_eq_some_iff] at operand
      obtain ⟨q, pairs, rfl, query⟩ := eq_enclosed inner operand.1
      exact ⟨q, (left, right) :: pairs, rfl, query⟩
  | test t =>
    cases t with
    | queryTest q =>
      simp only [meaning?, Option.map_eq_some_iff, Condition.selects.injEq, exists_eq_right] at operand
      exact ⟨q, [], rfl, operand⟩
    | callTest call => simp at operand
  | notParen bang p => simp at operand
  | notTest bang t => simp at operand
  | comparison left operator right => simp [Option.bind_eq_some_iff] at operand
termination_by sizeOf c
decreasing_by
  subst_vars
  simp only [alone, logicalExpr.sizeOf_spec, lastDisjunct.sizeOf_spec, logicalAnd.sizeOf_spec,
    lastConjunct.sizeOf_spec, paren.sizeOf_spec, parenExpr.sizeOf_spec]
  omega

theorem eq_callTest {c : Derivation .logicalExpr} {f : Function} {as : List Argument}
    (meaning : c.meaning? = some (.call f as)) (result : f.result = .value) :
    ∃ call, c = alone (test (callTest call)) ∧ call.meaning? = some (f, as) := by
  obtain ⟨b, rfl, operand⟩ := eq_alone meaning (by simp) (by simp)
  cases b with
  | paren p =>
    cases p with
    | parenExpr left inner right =>
      simp [Option.filter_eq_some_iff, Condition.isLogical, result] at operand
  | test t =>
    cases t with
    | queryTest q => simp at operand
    | callTest call =>
      simp only [meaning?, Option.map_eq_some_iff] at operand
      obtain ⟨⟨f', as'⟩, called, same⟩ := operand
      cases same
      exact ⟨call, rfl, called⟩
  | notParen bang p => simp at operand
  | notTest bang t => simp at operand
  | comparison left operator right => simp [Option.bind_eq_some_iff] at operand

end Derivation

/-- The forms of argument that a parameter takes: a literal, a query that selects one node at most or
a call that returns a value, or any query. Only queries may have parentheses around them. -/
inductive Takes : DeclaredType → Derivation .functionArgument → Prop
  | literal (l : Literal) : Takes .value (.literalArgument l)
  | call {c : Derivation .functionExpr} {f : Function} {as : List Argument}
      (meaning : c.meaning? = some (f, as)) (result : f.result = .value) :
      Takes .value (.logicalArgument (.alone (.test (.callTest c))))
  | singular {q : Derivation .filterQuery} {m : Query} (meaning : q.meaning? = some m)
      (singular : m.isSingular) (pairs : List (Mark .lparen × Mark .rparen)) :
      Takes .value (.logicalArgument (.enclosed q pairs))
  | nodes (q : Derivation .filterQuery) (pairs : List (Mark .lparen × Mark .rparen)) :
      Takes .nodes (.logicalArgument (.enclosed q pairs))

theorem not_logical_parameter (f : Function) : .logical ∉ f.parameters := by
  cases f <;> decide

theorem takes_of_passed? {type : DeclaredType} {a : Derivation .functionArgument} {w x : Argument}
    (notLogical : type ≠ .logical) (meaning : a.meaning? = some w)
    (passed : Argument.passed? type w = some x) : Takes type a := by
  cases a with
  | literalArgument l =>
    cases meaning
    cases type with
    | value => exact .literal l
    | nodes => simp [Argument.passed?] at passed
    | logical => exact absurd rfl notLogical
  | logicalArgument c =>
    simp only [Derivation.meaning?, Option.map_eq_some_iff] at meaning
    obtain ⟨m, meaning, rfl⟩ := meaning
    unfold Argument.passed? at passed
    split at passed
    · contradiction
    · next q same =>
      cases same
      obtain ⟨singular, -⟩ := Option.ite_none_right_eq_some.mp passed
      obtain ⟨q, pairs, rfl, query⟩ := Derivation.eq_enclosed c meaning
      exact .singular query singular pairs
    · next f as same =>
      cases same
      obtain ⟨result, -⟩ := Option.ite_none_right_eq_some.mp passed
      obtain ⟨call, rfl, called⟩ := Derivation.eq_callTest meaning result
      exact .call called result
    · next q same =>
      cases same
      obtain ⟨q, pairs, rfl, -⟩ := Derivation.eq_enclosed c meaning
      exact .nodes q pairs
    · next f as same =>
      cases f <;> simp [Function.result] at passed
    · exact absurd rfl notLogical
    · contradiction

theorem Derivation.forall₂_members : ∀ (as : Derivation .arguments) {ws : List Argument},
    as.meaning? = some ws → List.Forall₂ (fun a w => a.meaning? = some w) as.members ws
  | lastArgument a, ws, meaning => by
    simp only [meaning?, Option.map_eq_some_iff] at meaning
    obtain ⟨w, here, rfl⟩ := meaning
    rw [members]
    exact .cons here .nil
  | moreArguments a comma as, ws, meaning => by
    simp only [meaning?, Option.bind_eq_bind, Option.bind_eq_some_iff] at meaning
    obtain ⟨w, here, ws, rest, same⟩ := meaning
    cases same
    rw [members]
    exact .cons here (forall₂_members as rest)

theorem forall₂_takes {types : List DeclaredType} {as : List (Derivation .functionArgument)}
    {ws xs : List Argument} (notLogical : .logical ∉ types)
    (meaning : List.Forall₂ (fun a w => a.meaning? = some w) as ws)
    (passed : Argument.allPassed? types ws = some xs) : List.Forall₂ Takes types as := by
  induction types generalizing as ws xs with
  | nil =>
    cases meaning with
    | nil => exact .nil
    | cons here rest => simp [Argument.allPassed?] at passed
  | cons type types ih =>
    cases meaning with
    | nil => simp [Argument.allPassed?] at passed
    | cons here rest =>
      simp only [Argument.allPassed?, Option.bind_eq_some_iff, Option.map_eq_some_iff] at passed
      obtain ⟨x, first, xs, others, -⟩ := passed
      rw [List.mem_cons, not_or] at notLogical
      exact .cons (takes_of_passed? (Ne.symm notLogical.1) here first) (ih notLogical.2 rest others)

theorem Derivation.call_takes {name : Leaf name?} {left : Mark .lparen} {as : Derivation .arguments}
    {right : Mark .rparen} {m : Function × List Argument}
    (meaning : (call name left as right).meaning? = some m) :
    ∃ f, Function.ofName? name.value = some f ∧ List.Forall₂ Takes f.parameters as.members := by
  simp only [meaning?, Option.bind_eq_some_iff] at meaning
  obtain ⟨ws, meaning, called⟩ := meaning
  simp only [call?, Option.ite_none_right_eq_some, Option.bind_eq_some_iff, Option.map_eq_some_iff]
    at called
  obtain ⟨-, f, known, xs, passed, -⟩ := called
  exact ⟨f, known, forall₂_takes (not_logical_parameter f) (as.forall₂_members meaning) passed⟩

theorem exists_takes {types : List DeclaredType} {as : List (Derivation .functionArgument)}
    (takes : List.Forall₂ Takes types as) : ∀ a ∈ as, ∃ type ∈ types, Takes type a := by
  induction takes with
  | nil => simp
  | cons here rest ih =>
    rw [List.forall_mem_cons]
    refine ⟨⟨_, List.mem_cons_self, here⟩, fun a member => ?_⟩
    obtain ⟨type, listed, takes⟩ := ih a member
    exact ⟨type, List.mem_cons_of_mem _ listed, takes⟩

theorem Takes.enclosed {type : DeclaredType} {a : Derivation .functionArgument} (takes : Takes type a)
    {p : Derivation .parenExpr} (parenthesised : a.tokens = p.tokens) :
    ∃ q pairs, p.tokens = (Derivation.enclosed q pairs).tokens := by
  have written : a = .logicalArgument (.alone (.paren p)) :=
    Derivation.eq_of_tokens_eq parenthesised
  cases takes with
  | literal l => cases written
  | call meaning result => simp [Derivation.alone] at written
  | singular meaning singular pairs => exact ⟨_, pairs, parenthesised.symm⟩
  | nodes q pairs => exact ⟨q, pairs, parenthesised.symm⟩

end Grammar

namespace Query

open Grammar

/-- How arguments are written in a text that is parsed. -/
structure ArgumentsWritten (text : String) (limit : Int) (t : Derivation .query) : Prop where
  taken : ∀ {q}, parse text limit = .ok q → ∀ {name left as right},
    t.Contains (.call name left as right) →
      ∃ f, Function.ofName? name.value = some f ∧ List.Forall₂ Takes f.parameters as.members
  refused : ∀ {name left as right}, t.Contains (.call name left as right) →
    ∀ a ∈ as.members, ∀ p : Derivation .parenExpr, a.tokens = p.tokens →
      (∀ q pairs, p.tokens ≠ (Derivation.enclosed q pairs).tokens) → ∃ e, parse text limit = .error e
  unwrapped : ∀ (a : Derivation .functionArgument) q pairs,
    a.tokens = (Derivation.enclosed q pairs).tokens → a.meaning? = (Derivation.bare q).meaning?

theorem parse_argumentsWritten {text : String} {limit : Int} {ts : List Token} {t : Derivation .query}
    (scanned : Token.scan text.toList = .ok ts) (derives : t.tokens = beforeEnd ts) :
    ArgumentsWritten text limit t := by
  have meaning {q : Query} (parsed : parse text limit = .ok q) : t.meaning? = some q := by
    simp only [parse, scanned, Except.bind_eq_ok] at parsed
    obtain ⟨-, -, formed⟩ := parsed
    obtain ⟨t', derives', meaning⟩ := (ofTokens_eq_ok_iff scanned).mp formed
    rwa [Derivation.eq_of_tokens_eq (derives.trans derives'.symm)]
  have taken {q : Query} (parsed : parse text limit = .ok q) {name left as right}
      (inside : t.Contains (.call name left as right)) :
      ∃ f, Function.ofName? name.value = some f ∧ List.Forall₂ Takes f.parameters as.members := by
    obtain ⟨m, called⟩ := inside.exists_meaning? (meaning parsed)
    exact Derivation.call_takes called
  refine ⟨taken, fun inside a member p parenthesised other => ?_, fun a q pairs same => ?_⟩
  · cases parsed : parse text limit with
    | error e => exact ⟨e, rfl⟩
    | ok q =>
      obtain ⟨f, -, takes⟩ := taken parsed inside
      obtain ⟨type, -, takes⟩ := exists_takes takes a member
      obtain ⟨q, pairs, same⟩ := takes.enclosed parenthesised
      exact absurd same (other q pairs)
  · have written : a = .logicalArgument (.enclosed q pairs) := Derivation.eq_of_tokens_eq same
    rw [written, Derivation.bare, Derivation.meaning?, Derivation.meaning?,
      Derivation.meaning?_enclosed, Derivation.meaning?_enclosed]

/-- A text has a call of one of the functions with an argument in parentheses. -/
def HasParenthesised (text : String) : Prop :=
  ∃ (ts : List Token) (t : Derivation .query) (name : Leaf name?) (left : Mark .lparen)
    (as : Derivation .arguments) (right : Mark .rparen) (a : Derivation .functionArgument)
    (p : Derivation .parenExpr),
    Token.scan text.toList = .ok ts ∧ t.tokens = beforeEnd ts ∧ t.Contains (.call name left as right) ∧
      name.value ∈ Function.all.map Function.name ∧ a ∈ as.members ∧ a.tokens = p.tokens

theorem hasParenthesised_count : HasParenthesised "$[?count((@.*))==1]" := by
  let star : Derivation .segment :=
    .childWildcard ⟨⟨.dot, 11, ['.']⟩, (), rfl⟩ ⟨⟨.wildcard, 12, ['*']⟩, (), rfl⟩
  let q : Derivation .filterQuery :=
    .filterQuery ⟨⟨.current, 10, ['@']⟩, .current, rfl⟩ (.moreSegments star .noSegment)
  let p : Derivation .parenExpr :=
    .parenExpr ⟨⟨.lparen, 9, ['(']⟩, (), rfl⟩ (.enclosed q []) ⟨⟨.rparen, 13, [')']⟩, (), rfl⟩
  let a : Derivation .functionArgument := .logicalArgument (.alone (.paren p))
  let name : Leaf name? := ⟨⟨.name "count", 3, ['c', 'o', 'u', 'n', 't']⟩, "count", rfl⟩
  let left : Mark .lparen := ⟨⟨.lparen, 8, ['(']⟩, (), rfl⟩
  let right : Mark .rparen := ⟨⟨.rparen, 14, [')']⟩, (), rfl⟩
  let call : Derivation .functionExpr := .call name left (.lastArgument a) right
  let c : Derivation .logicalExpr := .alone (.comparison (.callComparable call)
    (.eq ⟨⟨.eq, 15, ['=', '=']⟩, (), rfl⟩)
    (.literalComparable (.int ⟨⟨.number (.int 1), 17, ['1']⟩, 1, rfl⟩)))
  let t : Derivation .query := .query ⟨⟨.root, 0, ['$']⟩, (), rfl⟩
    (.moreSegments (.childBracketed (.bracketedSelection ⟨⟨.lbracket, 1, ['[']⟩, (), rfl⟩
      (.lastSelector (.filterSelector ⟨⟨.question, 2, ['?']⟩, (), rfl⟩ c))
      ⟨⟨.rbracket, 18, [']']⟩, (), rfl⟩)) .noSegment)
  have inside : t.Contains call := by
    unfold Derivation.Contains
    iterate 12 refine .head List.mem_cons_self ?_
    exact .refl
  exact ⟨_, t, name, left, .lastArgument a, right, a, p, by rfl, by rfl, inside, by decide,
    by simp [Derivation.members], rfl⟩

theorem parse_argumentsWritten_count :
    ∃ ts t, Token.scan "$[?count((@.*))==1]".toList = .ok ts ∧ t.tokens = beforeEnd ts ∧
      ArgumentsWritten "$[?count((@.*))==1]" 64 t := by
  obtain ⟨ts, t, _, _, _, _, _, _, scanned, derives, -⟩ := hasParenthesised_count
  exact ⟨ts, t, scanned, derives, parse_argumentsWritten scanned derives⟩

/-- A query in parentheses is accepted as an argument. -/
theorem parse_parenthesised_query :
    HasParenthesised "$[?count((@.*))==1]" ∧ ∃ q, parse "$[?count((@.*))==1]" 64 = .ok q := by
  have accepted : (parse "$[?count((@.*))==1]" 64).toOption.isSome := by decide +kernel
  refine ⟨hasParenthesised_count, ?_⟩
  cases parsed : parse "$[?count((@.*))==1]" 64 with
  | error e => simp [parsed, Except.toOption] at accepted
  | ok q => exact ⟨q, rfl⟩

end Query

end JsonPath
