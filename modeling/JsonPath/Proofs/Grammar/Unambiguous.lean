import JsonPath.Proofs.Grammar.Follow

namespace JsonPath

namespace Grammar

open Query.Parser

def NoInteger (rest : List Token) : Prop := ∀ t ∈ rest.head?, ∀ n, t.kind ≠ .number (.int n)

theorem noInteger_mark {k : TokenKind} (m : Mark k) (other : ∀ n, k ≠ .number (.int n))
    (rest : List Token) : NoInteger (m.token :: rest) := by
  intro t member n
  obtain rfl : m.token = t := by simpa using member
  rw [m.kind]
  exact other n

theorem Follows.noInteger {rest : List Token} (follows : Follows .selector rest) : NoInteger rest := by
  intro t member n kind
  have ends := follows t member
  simp [kind, Symbol.mayPrecede, endsSelector] at ends

theorem optionalTokens_cut {n? n?' : Option (Leaf integer?)} {r r' : List Token}
    (after : n? = none → NoInteger r) (after' : n?' = none → NoInteger r')
    (same : optionalTokens n? ++ r = optionalTokens n?' ++ r') : n? = n?' ∧ r = r' := by
  cases n? with
  | none =>
    cases n?' with
    | none => exact ⟨rfl, same⟩
    | some n' =>
      obtain rfl : r = n'.token :: r' := same
      exact absurd (integer_kind n') (after rfl n'.token rfl _)
  | some n =>
    cases n?' with
    | none =>
      obtain rfl : n.token :: r = r' := same
      exact absurd (integer_kind n) (after' rfl n.token rfl _)
    | some n' =>
      obtain ⟨token, rest⟩ := List.cons.inj same
      exact ⟨congrArg some (Leaf.ext token), rest⟩

theorem optionalTokens_unique {n? n?' : Option (Leaf integer?)} {r r' : List Token}
    (after : NoInteger r) (after' : NoInteger r')
    (same : optionalTokens n? ++ r = optionalTokens n?' ++ r') : n? = n?' ∧ r = r' :=
  optionalTokens_cut (fun _ => after) (fun _ => after') same

namespace SliceForm

variable {r r' : List Token}

theorem stepTokens_noInteger (follows : Follows .selector r)
    (step : Option (Mark .colon × Option (Leaf integer?))) : NoInteger (stepTokens step ++ r) := by
  cases step with
  | none => exact follows.noInteger
  | some step => exact noInteger_mark step.1 (by simp) _

theorem stepTokens_unique {step step' : Option (Mark .colon × Option (Leaf integer?))}
    (follows : Follows .selector r) (follows' : Follows .selector r')
    (same : stepTokens step ++ r = stepTokens step' ++ r') : step = step' ∧ r = r' := by
  cases step with
  | none =>
    cases step' with
    | none => exact ⟨rfl, same⟩
    | some step' => exact absurd same (follows.ne_mark (m := step'.1) (by decide))
  | some step =>
    cases step' with
    | none => exact absurd same.symm (follows'.ne_mark (m := step.1) (by decide))
    | some step' =>
      obtain ⟨colon, rest⟩ := List.cons.inj same
      obtain ⟨count, rest⟩ := optionalTokens_unique follows.noInteger follows'.noInteger rest
      exact ⟨congrArg some (Prod.ext (Leaf.ext colon) count), rest⟩

theorem tokens_unique {form form' : SliceForm} (follows : Follows .selector r)
    (follows' : Follows .selector r') (same : form.tokens ++ r = form'.tokens ++ r') :
    form = form' ∧ r = r' := by
  obtain ⟨start, colon, stop, step⟩ := form
  obtain ⟨start', colon', stop', step'⟩ := form'
  simp only [tokens, List.append_assoc, List.cons_append] at same
  obtain ⟨rfl, fromColon⟩ := optionalTokens_unique (noInteger_mark colon (by simp) _)
    (noInteger_mark colon' (by simp) _) same
  obtain ⟨token, afterColon⟩ := List.cons.inj fromColon
  obtain rfl := Leaf.ext token
  obtain ⟨rfl, afterStop⟩ := optionalTokens_unique (stepTokens_noInteger follows step)
    (stepTokens_noInteger follows' step') afterColon
  obtain ⟨rfl, rest⟩ := stepTokens_unique follows follows' afterStop
  exact ⟨rfl, rest⟩

theorem ne_index {index : Leaf integer?} {form : SliceForm} (follows : Follows .selector r) :
    index.token :: r ≠ form.tokens ++ r' := by
  -- An index is followed by no colon, and an integer that begins a slice is.
  obtain ⟨start, colon, stop, step⟩ := form
  cases start with
  | none => grind [tokens, optionalTokens]
  | some start =>
    intro same
    exact follows.ne_mark (m := colon) (by decide) (List.cons.inj same).2

end SliceForm

namespace Derivation

def asComparable : Derivation .testExpr → Derivation .comparable
  | queryTest q => queryComparable q
  | callTest c => callComparable c

theorem tokens_asComparable (t : Derivation .testExpr) : t.asComparable.tokens = t.tokens := by
  cases t <;> rfl

def Unique {s : Symbol} (t : Derivation s) : Prop :=
  ∀ (t' : Derivation s) (r r' : List Token), Follows s r → Follows s r' →
    t.tokens ++ r = t'.tokens ++ r' → t = t' ∧ r = r'

namespace Unique

section

variable {s list : Symbol} {k : TokenKind} {t t' : Derivation s} {m m' : Mark k}
  {ts ts' : Derivation list} {r r' others : List Token}

theorem last_ne_more (unique : t.Unique) (joins : s.mayPrecede k) (follows : Follows s r)
    (stops : r ≠ m.token :: others) : t.tokens ++ r ≠ t'.tokens ++ m.token :: others := by
  intro same
  exact stops (unique t' r _ follows (.mark m joins) same).2

theorem more_ne_last (unique : t.Unique) (joins : s.mayPrecede k) (follows : Follows s r)
    (stops : r ≠ m.token :: others) : t.tokens ++ m.token :: others ≠ t'.tokens ++ r := by
  intro same
  exact stops (unique t' _ r (.mark m joins) follows same).2.symm

theorem more (head : t.Unique) (tail : ts.Unique) (joins : s.mayPrecede k)
    (follows : Follows list r) (follows' : Follows list r')
    (same : t.tokens ++ m.token :: (ts.tokens ++ r) = t'.tokens ++ m'.token :: (ts'.tokens ++ r')) :
    t = t' ∧ m = m' ∧ ts = ts' ∧ r = r' := by
  obtain ⟨first, rest⟩ := head t' _ _ (.mark m joins) (.mark m' joins) same
  obtain ⟨mark, rest⟩ := List.cons.inj rest
  obtain ⟨others, rest⟩ := tail ts' _ _ follows follows' rest
  exact ⟨first, Leaf.ext mark, others, rest⟩

end

theorem query {ss : Derivation .segments} (unique : ss.Unique) (root : Mark .root) :
    (query root ss).Unique := by
  intro t' r r' follows follows' same
  cases t' with
  | query root' ss' =>
    obtain ⟨first, after⟩ := List.cons.inj same
    obtain ⟨rfl, rest⟩ := unique ss' r r' follows follows' after
    exact ⟨by rw [Leaf.ext first], rest⟩

theorem noSegment_ne {s : Derivation .segment} {r more : List Token} (follows : Follows .segments r) :
    r ≠ s.tokens ++ more := by
  obtain ⟨first, others, tokens, kind⟩ := segment_tokens s
  rintro rfl
  have ends := follows first (by simp [tokens])
  simp [Symbol.mayPrecede, kind] at ends

theorem noSegment : noSegment.Unique := by
  intro t' r r' follows _ same
  cases t' with
  | noSegment => exact ⟨rfl, same⟩
  | moreSegments s ss =>
    simp only [tokens, List.nil_append, List.append_assoc] at same
    exact absurd same (noSegment_ne follows)

theorem moreSegments {s : Derivation .segment} {ss : Derivation .segments} (head : s.Unique)
    (tail : ss.Unique) : (moreSegments s ss).Unique := by
  intro t' r r' follows follows' same
  cases t' with
  | noSegment =>
    simp only [tokens, List.nil_append, List.append_assoc] at same
    exact absurd same.symm (noSegment_ne follows')
  | moreSegments s' ss' =>
    simp only [tokens, List.append_assoc] at same
    obtain ⟨rfl, others⟩ := head s' _ _ (.any fun _ => rfl) (.any fun _ => rfl) same
    obtain ⟨rfl, rest⟩ := tail ss' _ _ follows follows' others
    exact ⟨rfl, rest⟩

theorem childName (dot : Mark .dot) (name : Leaf name?) : (childName dot name).Unique := by
  intro t' r r' _ _ same
  cases t' <;> grind

theorem childWildcard (dot : Mark .dot) (star : Mark .wildcard) : (childWildcard dot star).Unique := by
  intro t' r r' _ _ same
  cases t' <;> grind

theorem descendantName (dots : Mark .dotdot) (name : Leaf name?) :
    (descendantName dots name).Unique := by
  intro t' r r' _ _ same
  cases t' <;> grind

theorem descendantWildcard (dots : Mark .dotdot) (star : Mark .wildcard) :
    (descendantWildcard dots star).Unique := by
  intro t' r r' _ _ same
  cases t' <;> grind

theorem childBracketed {b : Derivation .bracketedSelection} (unique : b.Unique) :
    (childBracketed b).Unique := by
  intro t' r r' _ _ same
  cases t' with
  | childBracketed b' =>
    obtain ⟨rfl, rest⟩ := unique b' r r' (.any fun _ => rfl) (.any fun _ => rfl) same
    exact ⟨rfl, rest⟩
  | _ => grind

theorem descendantBracketed {b : Derivation .bracketedSelection} (unique : b.Unique)
    (dots : Mark .dotdot) : (descendantBracketed dots b).Unique := by
  intro t' r r' _ _ same
  cases t' with
  | descendantBracketed dots' b' =>
    obtain ⟨first, after⟩ := List.cons.inj same
    obtain ⟨rfl, rest⟩ := unique b' r r' (.any fun _ => rfl) (.any fun _ => rfl) after
    exact ⟨by rw [Leaf.ext first], rest⟩
  | _ => grind

theorem bracketedSelection {ss : Derivation .selectors} (unique : ss.Unique)
    (left : Mark .lbracket) (right : Mark .rbracket) : (bracketedSelection left ss right).Unique := by
  intro t' r r' _ _ same
  cases t' with
  | bracketedSelection left' ss' right' =>
    simp only [tokens, List.cons_append, List.append_assoc, List.nil_append] at same
    obtain ⟨first, inside⟩ := List.cons.inj same
    obtain ⟨rfl, after⟩ := unique ss' _ _ (.mark right (by decide)) (.mark right' (by decide)) inside
    obtain ⟨last, rest⟩ := List.cons.inj after
    exact ⟨by rw [Leaf.ext first, Leaf.ext last], rest⟩

theorem lastSelector {s : Derivation .selector} (unique : s.Unique) : (lastSelector s).Unique := by
  intro t' r r' follows follows' same
  cases t' with
  | lastSelector s' =>
    obtain ⟨rfl, rest⟩ := unique s' r r' follows.selector follows'.selector same
    exact ⟨rfl, rest⟩
  | moreSelectors s' comma ss =>
    simp only [tokens, List.append_assoc, List.cons_append] at same
    exact absurd same (unique.last_ne_more (by decide) follows.selector (follows.ne_mark (by decide)))

theorem moreSelectors {s : Derivation .selector} {ss : Derivation .selectors} (head : s.Unique)
    (tail : ss.Unique) (comma : Mark .comma) : (moreSelectors s comma ss).Unique := by
  intro t' r r' follows follows' same
  cases t' with
  | lastSelector s' =>
    simp only [tokens, List.append_assoc, List.cons_append] at same
    exact absurd same (head.more_ne_last (by decide) follows'.selector (follows'.ne_mark (by decide)))
  | moreSelectors s' comma' ss' =>
    simp only [tokens, List.append_assoc, List.cons_append] at same
    obtain ⟨rfl, rfl, rfl, rest⟩ := head.more tail (by decide) follows follows' same
    exact ⟨rfl, rest⟩

theorem nameSelector (name : Leaf string?) : (nameSelector name).Unique := by
  intro t' r r' _ _ same
  cases t' <;> grind

theorem wildcardSelector (star : Mark .wildcard) : (wildcardSelector star).Unique := by
  intro t' r r' _ _ same
  cases t' <;> grind

theorem indexSelector (index : Leaf integer?) : (indexSelector index).Unique := by
  intro t' r r' follows _ same
  cases t' with
  | sliceSelector form => exact absurd same (SliceForm.ne_index follows)
  | _ => grind

theorem sliceSelector (form : SliceForm) : (sliceSelector form).Unique := by
  intro t' r r' follows follows' same
  cases t' with
  | sliceSelector form' =>
    obtain ⟨rfl, rest⟩ := SliceForm.tokens_unique follows follows' same
    exact ⟨rfl, rest⟩
  | indexSelector index => exact absurd same.symm (SliceForm.ne_index follows')
  | _ => grind

theorem filterSelector {c : Derivation .logicalExpr} (unique : c.Unique)
    (question : Mark .question) : (filterSelector question c).Unique := by
  intro t' r r' follows follows' same
  cases t' with
  | filterSelector question' c' =>
    obtain ⟨first, after⟩ := List.cons.inj same
    obtain ⟨rfl, rest⟩ := unique c' r r' follows.selectorCondition follows'.selectorCondition after
    exact ⟨by rw [Leaf.ext first], rest⟩
  | _ => grind

theorem logicalExpr {cs : Derivation .disjuncts} (unique : cs.Unique) : (logicalExpr cs).Unique := by
  intro t' r r' follows follows' same
  cases t' with
  | logicalExpr cs' =>
    obtain ⟨rfl, rest⟩ := unique cs' r r' follows.disjuncts follows'.disjuncts same
    exact ⟨rfl, rest⟩

theorem lastDisjunct {c : Derivation .logicalAnd} (unique : c.Unique) : (lastDisjunct c).Unique := by
  intro t' r r' follows follows' same
  cases t' with
  | lastDisjunct c' =>
    obtain ⟨rfl, rest⟩ := unique c' r r' follows.logicalAnd follows'.logicalAnd same
    exact ⟨rfl, rest⟩
  | moreDisjuncts c' or cs =>
    simp only [tokens, List.append_assoc, List.cons_append] at same
    exact absurd same (unique.last_ne_more (by decide) follows.logicalAnd (follows.ne_mark (by decide)))

theorem moreDisjuncts {c : Derivation .logicalAnd} {cs : Derivation .disjuncts} (head : c.Unique)
    (tail : cs.Unique) (or : Mark .or) : (moreDisjuncts c or cs).Unique := by
  intro t' r r' follows follows' same
  cases t' with
  | lastDisjunct c' =>
    simp only [tokens, List.append_assoc, List.cons_append] at same
    exact absurd same (head.more_ne_last (by decide) follows'.logicalAnd (follows'.ne_mark (by decide)))
  | moreDisjuncts c' or' cs' =>
    simp only [tokens, List.append_assoc, List.cons_append] at same
    obtain ⟨rfl, rfl, rfl, rest⟩ := head.more tail (by decide) follows follows' same
    exact ⟨rfl, rest⟩

theorem logicalAnd {cs : Derivation .conjuncts} (unique : cs.Unique) : (logicalAnd cs).Unique := by
  intro t' r r' follows follows' same
  cases t' with
  | logicalAnd cs' =>
    obtain ⟨rfl, rest⟩ := unique cs' r r' follows.conjuncts follows'.conjuncts same
    exact ⟨rfl, rest⟩

theorem lastConjunct {c : Derivation .basicExpr} (unique : c.Unique) : (lastConjunct c).Unique := by
  intro t' r r' follows follows' same
  cases t' with
  | lastConjunct c' =>
    obtain ⟨rfl, rest⟩ := unique c' r r' follows.basicExpr follows'.basicExpr same
    exact ⟨rfl, rest⟩
  | moreConjuncts c' and cs =>
    simp only [tokens, List.append_assoc, List.cons_append] at same
    exact absurd same (unique.last_ne_more (by decide) follows.basicExpr (follows.ne_mark (by decide)))

theorem moreConjuncts {c : Derivation .basicExpr} {cs : Derivation .conjuncts} (head : c.Unique)
    (tail : cs.Unique) (and : Mark .and) : (moreConjuncts c and cs).Unique := by
  intro t' r r' follows follows' same
  cases t' with
  | lastConjunct c' =>
    simp only [tokens, List.append_assoc, List.cons_append] at same
    exact absurd same (head.more_ne_last (by decide) follows'.basicExpr (follows'.ne_mark (by decide)))
  | moreConjuncts c' and' cs' =>
    simp only [tokens, List.append_assoc, List.cons_append] at same
    obtain ⟨rfl, rfl, rfl, rest⟩ := head.more tail (by decide) follows follows' same
    exact ⟨rfl, rest⟩

theorem paren {p : Derivation .parenExpr} (unique : p.Unique) : (paren p).Unique := by
  intro t' r r' _ _ same
  cases t' with
  | paren p' =>
    obtain ⟨rfl, rest⟩ := unique p' r r' (.any fun _ => rfl) (.any fun _ => rfl) same
    exact ⟨rfl, rest⟩
  | _ => grind [startsOperand, startsTest, literal?]

theorem notParen {p : Derivation .parenExpr} (unique : p.Unique) (bang : Mark .not) :
    (notParen bang p).Unique := by
  intro t' r r' _ _ same
  cases t' with
  | notParen bang' p' =>
    obtain ⟨first, after⟩ := List.cons.inj same
    obtain ⟨rfl, rest⟩ := unique p' r r' (.any fun _ => rfl) (.any fun _ => rfl) after
    exact ⟨by rw [Leaf.ext first], rest⟩
  | _ => grind [startsOperand, startsTest, literal?]

theorem ne_test {left : Derivation .comparable} {operator : ComparisonOp}
    {t : Derivation .testExpr} {r others : List Token} (unique : left.Unique)
    (follows : Follows .basicExpr r) : left.tokens ++ operator.token :: others ≠ t.tokens ++ r := by
  -- The test read as a side of a comparison is that side, and then no operator is left.
  intro same
  rw [← tokens_asComparable t] at same
  obtain ⟨-, after⟩ := unique _ _ _ (.operator operator) follows.comparable same
  exact follows.ne_operator after.symm

theorem comparison {left right : Derivation .comparable} (first : left.Unique)
    (second : right.Unique) (operator : ComparisonOp) :
    (comparison left operator right).Unique := by
  intro t' r r' follows follows' same
  simp only [tokens, List.append_assoc, List.cons_append] at same
  cases t' with
  | comparison left' operator' right' =>
    simp only [tokens, List.append_assoc, List.cons_append] at same
    obtain ⟨rfl, after⟩ := first left' _ _ (.operator operator) (.operator operator') same
    obtain ⟨token, afterOperator⟩ := List.cons.inj after
    obtain ⟨rfl, rest⟩ := second right' r r' follows.comparable follows'.comparable afterOperator
    exact ⟨by rw [ComparisonOp.ext token], rest⟩
  | test t' => exact absurd same (first.ne_test follows')
  | _ => grind [startsOperand, startsTest, literal?]

theorem test {t : Derivation .testExpr} (unique : t.Unique) : (test t).Unique := by
  intro t' r r' follows follows' same
  cases t' with
  | test t' =>
    obtain ⟨rfl, rest⟩ := unique t' r r' follows.comparable follows'.comparable same
    exact ⟨rfl, rest⟩
  | comparison left operator right =>
    simp only [tokens, List.append_assoc, List.cons_append] at same
    cases left with
    | literalComparable literal => grind [startsTest]
    | queryComparable q =>
      obtain ⟨-, after⟩ := unique (.queryTest q) r _ follows.comparable (.operator operator) same
      exact absurd after follows.ne_operator
    | callComparable c =>
      obtain ⟨-, after⟩ := unique (.callTest c) r _ follows.comparable (.operator operator) same
      exact absurd after follows.ne_operator
  | _ => grind [startsOperand, startsTest, literal?]

theorem notTest {t : Derivation .testExpr} (unique : t.Unique) (bang : Mark .not) :
    (notTest bang t).Unique := by
  intro t' r r' follows follows' same
  cases t' with
  | notTest bang' t' =>
    obtain ⟨first, after⟩ := List.cons.inj same
    obtain ⟨rfl, rest⟩ := unique t' r r' follows.comparable follows'.comparable after
    exact ⟨by rw [Leaf.ext first], rest⟩
  | _ => grind [startsOperand, startsTest, literal?]

theorem parenExpr {c : Derivation .logicalExpr} (unique : c.Unique) (left : Mark .lparen)
    (right : Mark .rparen) : (parenExpr left c right).Unique := by
  intro t' r r' _ _ same
  cases t' with
  | parenExpr left' c' right' =>
    simp only [tokens, List.cons_append, List.append_assoc, List.nil_append] at same
    obtain ⟨first, inside⟩ := List.cons.inj same
    obtain ⟨rfl, after⟩ := unique c' _ _ (.mark right (by decide)) (.mark right' (by decide)) inside
    obtain ⟨last, rest⟩ := List.cons.inj after
    exact ⟨by rw [Leaf.ext first, Leaf.ext last], rest⟩

theorem queryTest {q : Derivation .filterQuery} (unique : q.Unique) : (queryTest q).Unique := by
  intro t' r r' follows follows' same
  cases t' with
  | queryTest q' =>
    obtain ⟨rfl, rest⟩ := unique q' r r' follows follows' same
    exact ⟨rfl, rest⟩
  | _ => grind

theorem callTest {c : Derivation .functionExpr} (unique : c.Unique) : (callTest c).Unique := by
  intro t' r r' follows follows' same
  cases t' with
  | callTest c' =>
    obtain ⟨rfl, rest⟩ := unique c' r r' follows follows' same
    exact ⟨rfl, rest⟩
  | _ => grind

theorem literalComparable (literal : Literal) : (literalComparable literal).Unique := by
  intro t' r r' _ _ same
  cases t' <;> grind [startsTest]

theorem queryComparable {q : Derivation .filterQuery} (unique : q.Unique) :
    (queryComparable q).Unique := by
  intro t' r r' follows follows' same
  cases t' with
  | queryComparable q' =>
    obtain ⟨rfl, rest⟩ := unique q' r r' follows follows' same
    exact ⟨rfl, rest⟩
  | _ => grind [startsTest]

theorem callComparable {c : Derivation .functionExpr} (unique : c.Unique) :
    (callComparable c).Unique := by
  intro t' r r' follows follows' same
  cases t' with
  | callComparable c' =>
    obtain ⟨rfl, rest⟩ := unique c' r r' follows follows' same
    exact ⟨rfl, rest⟩
  | _ => grind [startsTest]

theorem filterQuery {ss : Derivation .segments} (unique : ss.Unique) (anchor : Leaf anchor?) :
    (filterQuery anchor ss).Unique := by
  intro t' r r' follows follows' same
  cases t' with
  | filterQuery anchor' ss' =>
    obtain ⟨first, after⟩ := List.cons.inj same
    obtain ⟨rfl, rest⟩ := unique ss' r r' follows.segments follows'.segments after
    exact ⟨by rw [Leaf.ext first], rest⟩

theorem emptyCall (name : Leaf name?) (left : Mark .lparen) (right : Mark .rparen) :
    (emptyCall name left right).Unique := by
  intro t' r r' _ _ same
  cases t' with
  | emptyCall name' left' right' => grind
  | call name' left' as right' => grind

theorem call {as : Derivation .arguments} (unique : as.Unique) (name : Leaf name?)
    (left : Mark .lparen) (right : Mark .rparen) : (call name left as right).Unique := by
  intro t' r r' _ _ same
  cases t' with
  | emptyCall name' left' right' => grind
  | call name' left' as' right' =>
    simp only [tokens, List.cons_append, List.append_assoc, List.nil_append] at same
    obtain ⟨first, afterName⟩ := List.cons.inj same
    obtain ⟨second, inside⟩ := List.cons.inj afterName
    obtain ⟨rfl, after⟩ := unique as' _ _ (.mark right (by decide)) (.mark right' (by decide)) inside
    obtain ⟨last, rest⟩ := List.cons.inj after
    exact ⟨by rw [Leaf.ext first, Leaf.ext second, Leaf.ext last], rest⟩

theorem lastArgument {a : Derivation .functionArgument} (unique : a.Unique) :
    (lastArgument a).Unique := by
  intro t' r r' follows follows' same
  cases t' with
  | lastArgument a' =>
    obtain ⟨rfl, rest⟩ := unique a' r r' follows.functionArgument follows'.functionArgument same
    exact ⟨rfl, rest⟩
  | moreArguments a' comma as =>
    simp only [tokens, List.append_assoc, List.cons_append] at same
    exact absurd same
      (unique.last_ne_more (by decide) follows.functionArgument (follows.ne_mark (by decide)))

theorem moreArguments {a : Derivation .functionArgument} {as : Derivation .arguments}
    (head : a.Unique) (tail : as.Unique) (comma : Mark .comma) : (moreArguments a comma as).Unique := by
  intro t' r r' follows follows' same
  cases t' with
  | lastArgument a' =>
    simp only [tokens, List.append_assoc, List.cons_append] at same
    exact absurd same
      (head.more_ne_last (by decide) follows'.functionArgument (follows'.ne_mark (by decide)))
  | moreArguments a' comma' as' =>
    simp only [tokens, List.append_assoc, List.cons_append] at same
    obtain ⟨rfl, rfl, rfl, rest⟩ := head.more tail (by decide) follows follows' same
    exact ⟨rfl, rest⟩

theorem literal_operator {literal : Literal} {c : Derivation .logicalExpr}
    {more rest : List Token} (same : literal.token :: more = c.tokens ++ rest) :
    ∃ (operator : ComparisonOp) (after : List Token), more = operator.token :: after := by
  obtain ⟨first, others, tokens, kind⟩ := opens_logicalExpr c
  rw [tokens] at same
  obtain ⟨rfl, rfl⟩ := List.cons.inj same
  have reads := literal.reads
  rcases kind with kind | kind | kind | ⟨-, operator, after, rfl⟩
  · simp [kind, literal?] at reads
  · simp [kind, literal?] at reads
  · exact absurd kind (not_startsTest_literal literal)
  · exact ⟨operator, after ++ rest, rfl⟩

theorem literal_ne_logical {literal : Literal} {c : Derivation .logicalExpr}
    {r r' : List Token} (follows : Follows .functionArgument r) :
    literal.token :: r ≠ c.tokens ++ r' := by
  intro same
  obtain ⟨operator, after, rfl⟩ := literal_operator same
  exact (Follows.innermost follows).ne_operator rfl

theorem literalArgument (literal : Literal) : (literalArgument literal).Unique := by
  intro t' r r' follows _ same
  cases t' with
  | literalArgument literal' => grind
  | logicalArgument c => exact absurd same (literal_ne_logical follows)

theorem logicalArgument {c : Derivation .logicalExpr} (unique : c.Unique) :
    (logicalArgument c).Unique := by
  intro t' r r' follows follows' same
  cases t' with
  | literalArgument literal => exact absurd same.symm (literal_ne_logical follows')
  | logicalArgument c' =>
    obtain ⟨rfl, rest⟩ := unique c' r r' follows follows' same
    exact ⟨rfl, rest⟩

end Unique

/-- The grammar is unambiguous, and a derivation is read off the tokens from left to right. -/
theorem unique {s : Symbol} (t : Derivation s) : t.Unique := by
  -- What is left over is general in `Unique`, so each part fixes where the next one begins.
  induction t with
  | query root ss ih => exact ih.query root
  | noSegment => exact .noSegment
  | moreSegments s ss head tail => exact head.moreSegments tail
  | childName dot name => exact .childName dot name
  | childWildcard dot star => exact .childWildcard dot star
  | childBracketed b ih => exact ih.childBracketed
  | descendantName dots name => exact .descendantName dots name
  | descendantWildcard dots star => exact .descendantWildcard dots star
  | descendantBracketed dots b ih => exact ih.descendantBracketed dots
  | bracketedSelection left ss right ih => exact ih.bracketedSelection left right
  | lastSelector s ih => exact ih.lastSelector
  | moreSelectors s comma ss head tail => exact head.moreSelectors tail comma
  | nameSelector name => exact .nameSelector name
  | wildcardSelector star => exact .wildcardSelector star
  | indexSelector index => exact .indexSelector index
  | sliceSelector form => exact .sliceSelector form
  | filterSelector question c ih => exact ih.filterSelector question
  | logicalExpr cs ih => exact ih.logicalExpr
  | lastDisjunct c ih => exact ih.lastDisjunct
  | moreDisjuncts c or cs head tail => exact head.moreDisjuncts tail or
  | logicalAnd cs ih => exact ih.logicalAnd
  | lastConjunct c ih => exact ih.lastConjunct
  | moreConjuncts c and cs head tail => exact head.moreConjuncts tail and
  | paren p ih => exact ih.paren
  | notParen bang p ih => exact ih.notParen bang
  | comparison left operator right first second => exact first.comparison second operator
  | test t ih => exact ih.test
  | notTest bang t ih => exact ih.notTest bang
  | parenExpr left c right ih => exact ih.parenExpr left right
  | queryTest q ih => exact ih.queryTest
  | callTest c ih => exact ih.callTest
  | literalComparable literal => exact .literalComparable literal
  | queryComparable q ih => exact ih.queryComparable
  | callComparable c ih => exact ih.callComparable
  | filterQuery anchor ss ih => exact ih.filterQuery anchor
  | emptyCall name left right => exact .emptyCall name left right
  | call name left as right ih => exact ih.call name left right
  | lastArgument a ih => exact ih.lastArgument
  | moreArguments a comma as head tail => exact head.moreArguments tail comma
  | literalArgument literal => exact .literalArgument literal
  | logicalArgument c ih => exact ih.logicalArgument

theorem eq_of_tokens_eq {s : Symbol} {t t' : Derivation s} (same : t.tokens = t'.tokens) : t = t' :=
  (t.unique t' [] [] (by simp [Follows]) (by simp [Follows]) (by simpa using same)).1

end Derivation

end Grammar

end JsonPath
