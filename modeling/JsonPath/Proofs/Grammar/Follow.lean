import JsonPath.Proofs.Grammar.Derivation

namespace JsonPath

namespace Grammar

open Query.Parser

theorem Leaf.ext {α : Type} {read : TokenKind → Option α} {l l' : Leaf read}
    (same : l.token = l'.token) : l = l' := by
  obtain ⟨token, value, reads⟩ := l
  obtain ⟨token', value', reads'⟩ := l'
  subst same
  obtain rfl : value = value' := Option.some.inj (reads.symm.trans reads')
  rfl

def Mark.of {k : TokenKind} {t : Token} (kind : t.kind = k) : Mark k := ⟨t, (), by simp [fixed, kind]⟩

theorem Mark.kind {k : TokenKind} (m : Mark k) : m.token.kind = k := by
  have reads := m.reads
  unfold fixed at reads
  split at reads
  · assumption
  · contradiction

theorem name_kind (l : Leaf name?) : l.token.kind = .name l.value := by
  have reads := l.reads
  unfold name? at reads
  split at reads <;> simp_all

theorem string_kind (l : Leaf string?) : l.token.kind = .string l.value := by
  have reads := l.reads
  unfold string? at reads
  split at reads <;> simp_all

theorem integer_kind (l : Leaf integer?) : l.token.kind = .number (.int l.value) := by
  have reads := l.reads
  unfold integer? at reads
  split at reads <;> simp_all

theorem anchor_kind (l : Leaf anchor?) :
    (l.token.kind = .root ∧ l.value = .root) ∨ (l.token.kind = .current ∧ l.value = .current) := by
  have reads := l.reads
  unfold anchor? at reads
  split at reads <;> simp_all

grind_pattern Leaf.ext => Leaf.token l, Leaf.token l'
grind_pattern Mark.kind => Leaf.token m
grind_pattern name_kind => Leaf.token l
grind_pattern string_kind => Leaf.token l
grind_pattern integer_kind => Leaf.token l
grind_pattern anchor_kind => Leaf.token l

theorem real_kind (l : Leaf real?) : l.token.kind = .number (.double l.value) := by
  have reads := l.reads
  unfold real? at reads
  split at reads <;> simp_all

grind_pattern real_kind => Leaf.token l

namespace Literal

theorem ext {l l' : Literal} (same : l.token = l'.token) : l = l' := by
  cases l <;> cases l' <;> grind [token]

theorem reads (l : Literal) : literal? l.token.kind = some l.value := by
  cases l with
  | string s => simp [token, value, literal?, string_kind]
  | int n => simp [token, value, literal?, integer_kind]
  | number x => simp [token, value, literal?, real_kind]
  | true mark | false mark | null mark => simp [token, value, literal?, mark.kind]

/-- The parser takes the literals of the grammar, and no other token, as literals. -/
theorem literal?_eq_some_iff {t : Token} {v : Value} :
    literal? t.kind = some v ↔ ∃ l : Literal, l.token = t ∧ l.value = v := by
  constructor
  · intro found
    cases kind : t.kind with
    | string s => exact ⟨.string ⟨t, s, by simp [kind, string?]⟩, rfl, by simp_all [literal?, value]⟩
    | number n =>
      cases n with
      | int n => exact ⟨.int ⟨t, n, by simp [kind, integer?]⟩, rfl, by simp_all [literal?, value]⟩
      | double x => exact ⟨.number ⟨t, x, by simp [kind, real?]⟩, rfl, by simp_all [literal?, value]⟩
    | true => exact ⟨.true (.of kind), rfl, by simp_all [literal?, value]⟩
    | false => exact ⟨.false (.of kind), rfl, by simp_all [literal?, value]⟩
    | null => exact ⟨.null (.of kind), rfl, by simp_all [literal?, value]⟩
    | _ => simp [literal?, kind] at found
  · rintro ⟨l, rfl, rfl⟩
    exact l.reads

end Literal

namespace ComparisonOp

theorem ext {o o' : ComparisonOp} (same : o.token = o'.token) : o = o' := by
  cases o <;> cases o' <;> grind [token]

theorem reads (o : ComparisonOp) : comparison? o.token.kind = some o.value := by
  cases o <;> next mark => simp [token, value, comparison?, mark.kind]

theorem comparison?_eq_some_iff {t : Token} {c : Comparison} :
    comparison? t.kind = some c ↔ ∃ o : ComparisonOp, o.token = t ∧ o.value = c := by
  constructor
  · intro found
    cases kind : t.kind with
    | eq => exact ⟨.eq (.of kind), rfl, by simp_all [comparison?, value]⟩
    | ne => exact ⟨.ne (.of kind), rfl, by simp_all [comparison?, value]⟩
    | lt => exact ⟨.lt (.of kind), rfl, by simp_all [comparison?, value]⟩
    | le => exact ⟨.le (.of kind), rfl, by simp_all [comparison?, value]⟩
    | gt => exact ⟨.gt (.of kind), rfl, by simp_all [comparison?, value]⟩
    | ge => exact ⟨.ge (.of kind), rfl, by simp_all [comparison?, value]⟩
    | _ => simp [comparison?, kind] at found
  · rintro ⟨o, rfl, rfl⟩
    exact o.reads

end ComparisonOp

grind_pattern Literal.ext => Literal.token l, Literal.token l'
grind_pattern ComparisonOp.ext => ComparisonOp.token o, ComparisonOp.token o'

def startsSegment : TokenKind → Bool
  | .dot | .dotdot | .lbracket => true
  | _ => false

theorem endsDisjunction_of_endsSelector {k : TokenKind} (ends : endsSelector k) :
    endsDisjunction k := by
  cases k <;> simp_all [endsDisjunction, endsSelector]

theorem endsOperand_of_endsTest {k : TokenKind} (ends : endsTest k) : endsOperand k := by
  simp [endsOperand, ends]

theorem not_startsSegment_of_endsOperand {k : TokenKind} (ends : endsOperand k) :
    ¬ startsSegment k := by
  cases k <;> simp_all [endsOperand, comparison?, endsTest, endsConjunction, endsDisjunction,
    endsSelector, startsSegment]

theorem not_endsTest_of_comparison? {k : TokenKind} (operator : (comparison? k).isSome) :
    ¬ endsTest k := by
  cases k <;> simp_all [comparison?, endsTest, endsConjunction, endsDisjunction, endsSelector]

/-- The tokens that can stand after a derivation from a symbol, or more. -/
def Symbol.mayPrecede : Symbol → TokenKind → Bool
  | query | segments => fun k => !startsSegment k
  | segment | bracketedSelection | parenExpr => fun _ => true
  | selector => endsSelector
  | selectors => fun k => endsSelector k && k ≠ .comma
  | logicalExpr | functionArgument => endsDisjunction
  | disjuncts => fun k => endsConjunction k && k ≠ .or
  | logicalAnd => endsConjunction
  | conjuncts => fun k => endsTest k && k ≠ .and
  | basicExpr => endsTest
  | testExpr | comparable | filterQuery | functionExpr => endsOperand
  | arguments => fun k => endsDisjunction k && k ≠ .comma

theorem disjuncts_mayPrecede {k : TokenKind} (ends : endsDisjunction k) :
    Symbol.disjuncts.mayPrecede k := by
  cases k <;> simp_all [Symbol.mayPrecede, endsConjunction, endsDisjunction, endsSelector]

theorem conjuncts_mayPrecede {k : TokenKind} (ends : endsConjunction k) :
    Symbol.conjuncts.mayPrecede k := by
  cases k <;> simp_all [Symbol.mayPrecede, endsTest, endsConjunction, endsDisjunction, endsSelector]

def Follows (s : Symbol) (rest : List Token) : Prop := ∀ t ∈ rest.head?, s.mayPrecede t.kind

namespace Follows

variable {s s' : Symbol} {rest : List Token}

theorem nil : Follows s [] := by simp [Follows]

theorem cons {t : Token} (first : s.mayPrecede t.kind) : Follows s (t :: rest) := by
  intro u member
  obtain rfl : t = u := by simpa using member
  exact first

theorem mark {k : TokenKind} (m : Mark k) (first : s.mayPrecede k) :
    Follows s (m.token :: rest) :=
  cons (by rw [m.kind]; exact first)

theorem weaken (follows : Follows s rest) (more : ∀ k, s.mayPrecede k → s'.mayPrecede k) :
    Follows s' rest :=
  fun t member => more _ (follows t member)

theorem ne_mark {k : TokenKind} {m : Mark k} {rest' : List Token} (follows : Follows s rest)
    (never : ¬ s.mayPrecede k) : rest ≠ m.token :: rest' := by
  rintro rfl
  exact never (m.kind ▸ follows m.token (by simp))

theorem ne_operator {operator : ComparisonOp} {rest' : List Token}
    (follows : Follows .basicExpr rest) : rest ≠ operator.token :: rest' := by
  rintro rfl
  exact not_endsTest_of_comparison? (by simp [operator.reads]) (follows operator.token (by simp))

theorem operator (operator : ComparisonOp) : Follows .comparable (operator.token :: rest) :=
  cons (by simp [Symbol.mayPrecede, endsOperand, operator.reads])

theorem any (free : ∀ k, s.mayPrecede k) : Follows s rest := fun t _ => free t.kind

theorem segments (follows : Follows .filterQuery rest) : Follows .segments rest :=
  follows.weaken fun _ ends => by simp [Symbol.mayPrecede, not_startsSegment_of_endsOperand ends]

theorem selector (follows : Follows .selectors rest) : Follows .selector rest :=
  follows.weaken fun _ ends => (Bool.and_eq_true_iff.mp ends).1

theorem selectorCondition (follows : Follows .selector rest) : Follows .logicalExpr rest :=
  follows.weaken fun _ ends => endsDisjunction_of_endsSelector ends

theorem disjuncts (follows : Follows .logicalExpr rest) : Follows .disjuncts rest :=
  follows.weaken fun _ => disjuncts_mayPrecede

theorem logicalAnd (follows : Follows .disjuncts rest) : Follows .logicalAnd rest :=
  follows.weaken fun _ ends => (Bool.and_eq_true_iff.mp ends).1

theorem conjuncts (follows : Follows .logicalAnd rest) : Follows .conjuncts rest :=
  follows.weaken fun _ => conjuncts_mayPrecede

theorem basicExpr (follows : Follows .conjuncts rest) : Follows .basicExpr rest :=
  follows.weaken fun _ ends => (Bool.and_eq_true_iff.mp ends).1

theorem innermost (follows : Follows .logicalExpr rest) : Follows .basicExpr rest :=
  follows.disjuncts.logicalAnd.conjuncts.basicExpr

theorem comparable (follows : Follows .basicExpr rest) : Follows .comparable rest :=
  follows.weaken fun _ ends => endsOperand_of_endsTest ends

theorem functionArgument (follows : Follows .arguments rest) : Follows .functionArgument rest :=
  follows.weaken fun _ ends => (Bool.and_eq_true_iff.mp ends).1

end Follows

def startsTest : TokenKind → Bool
  | .root | .current | .name _ => true
  | _ => false

def startsOperand (k : TokenKind) : Bool := (literal? k).isSome || startsTest k

theorem startsTest_anchor (l : Leaf anchor?) : startsTest l.token.kind := by
  rcases anchor_kind l with ⟨kind, -⟩ | ⟨kind, -⟩ <;> simp [kind, startsTest]

theorem not_startsTest_literal (l : Literal) : ¬ startsTest l.token.kind := by
  have reads := l.reads
  unfold literal? at reads
  split at reads <;> simp_all [startsTest]

theorem SliceForm.tokens_eq_cons (form : SliceForm) : ∃ first more, form.tokens = first :: more ∧
    (first.kind = .colon ∨ ∃ n, first.kind = .number (.int n)) := by
  obtain ⟨start, colon, stop, step⟩ := form
  cases start with
  | none => exact ⟨colon.token, _, rfl, .inl colon.kind⟩
  | some start => exact ⟨start.token, _, rfl, .inr ⟨_, integer_kind start⟩⟩

/-- The front of a logical expression. A literal is there to be compared. -/
def OpensLogical (ts : List Token) : Prop :=
  ∃ first more, ts = first :: more ∧
    (first.kind = .lparen ∨ first.kind = .not ∨ startsTest first.kind ∨
      ((literal? first.kind).isSome ∧
        ∃ (operator : ComparisonOp) (rest : List Token), more = operator.token :: rest))

theorem OpensLogical.append {ts : List Token} (opens : OpensLogical ts) (rest : List Token) :
    OpensLogical (ts ++ rest) := by
  obtain ⟨first, more, rfl, kind⟩ := opens
  refine ⟨first, more ++ rest, rfl, ?_⟩
  rcases kind with kind | kind | kind | ⟨kind, operator, after, rfl⟩
  · exact .inl kind
  · exact .inr (.inl kind)
  · exact .inr (.inr (.inl kind))
  · exact .inr (.inr (.inr ⟨kind, operator, after ++ rest, rfl⟩))

namespace Derivation

theorem bracketedSelection_tokens (t : Derivation .bracketedSelection) :
    ∃ (left : Mark .lbracket) (more : List Token), t.tokens = left.token :: more := by
  cases t with
  | bracketedSelection left ss right => exact ⟨left, _, rfl⟩

theorem parenExpr_tokens (t : Derivation .parenExpr) :
    ∃ (left : Mark .lparen) (more : List Token), t.tokens = left.token :: more := by
  cases t with
  | parenExpr left c right => exact ⟨left, _, rfl⟩

theorem segment_tokens (t : Derivation .segment) :
    ∃ first more, t.tokens = first :: more ∧ startsSegment first.kind := by
  cases t with
  | childName dot name => exact ⟨dot.token, _, rfl, by simp [dot.kind, startsSegment]⟩
  | childWildcard dot star => exact ⟨dot.token, _, rfl, by simp [dot.kind, startsSegment]⟩
  | childBracketed b =>
    obtain ⟨left, more, tokens⟩ := bracketedSelection_tokens b
    exact ⟨left.token, more, tokens, by simp [left.kind, startsSegment]⟩
  | descendantName dots name => exact ⟨dots.token, _, rfl, by simp [dots.kind, startsSegment]⟩
  | descendantWildcard dots star => exact ⟨dots.token, _, rfl, by simp [dots.kind, startsSegment]⟩
  | descendantBracketed dots b => exact ⟨dots.token, _, rfl, by simp [dots.kind, startsSegment]⟩

theorem filterQuery_tokens (t : Derivation .filterQuery) :
    ∃ (anchor : Leaf anchor?) (more : List Token), t.tokens = anchor.token :: more := by
  cases t with
  | filterQuery anchor ss => exact ⟨anchor, _, rfl⟩

theorem functionExpr_tokens (t : Derivation .functionExpr) :
    ∃ (name : Leaf name?) (more : List Token), t.tokens = name.token :: more := by
  cases t with
  | emptyCall name left right => exact ⟨name, _, rfl⟩
  | call name left as right => exact ⟨name, _, rfl⟩

theorem testExpr_tokens (t : Derivation .testExpr) :
    ∃ first more, t.tokens = first :: more ∧ startsTest first.kind := by
  cases t with
  | queryTest q =>
    obtain ⟨anchor, more, tokens⟩ := filterQuery_tokens q
    exact ⟨anchor.token, more, tokens, startsTest_anchor anchor⟩
  | callTest c =>
    obtain ⟨name, more, tokens⟩ := functionExpr_tokens c
    exact ⟨name.token, more, tokens, by simp [name_kind, startsTest]⟩

theorem comparable_tokens (t : Derivation .comparable) :
    ∃ first more, t.tokens = first :: more ∧ startsOperand first.kind := by
  cases t with
  | literalComparable literal =>
    exact ⟨literal.token, _, rfl, by simp [literal.reads, startsOperand]⟩
  | queryComparable q =>
    obtain ⟨anchor, more, tokens⟩ := filterQuery_tokens q
    exact ⟨anchor.token, more, tokens, by simp [startsOperand, startsTest_anchor]⟩
  | callComparable c =>
    obtain ⟨name, more, tokens⟩ := functionExpr_tokens c
    exact ⟨name.token, more, tokens, by simp [name_kind, startsOperand, startsTest]⟩

grind_pattern not_startsTest_literal => Literal.token l
grind_pattern SliceForm.tokens_eq_cons => form.tokens
grind_pattern bracketedSelection_tokens => tokens t
grind_pattern parenExpr_tokens => tokens t
grind_pattern filterQuery_tokens => tokens t
grind_pattern functionExpr_tokens => tokens t
grind_pattern testExpr_tokens => tokens t
grind_pattern comparable_tokens => tokens t

theorem opens_comparison (left : Derivation .comparable) (operator : ComparisonOp)
    (right : Derivation .comparable) : OpensLogical (comparison left operator right).tokens := by
  cases left with
  | literalComparable literal =>
    exact ⟨literal.token, _, rfl, .inr (.inr (.inr ⟨by simp [literal.reads], operator, _, rfl⟩))⟩
  | queryComparable q =>
    obtain ⟨anchor, more, tokens⟩ := filterQuery_tokens q
    exact ⟨anchor.token, _, by simp [tokens]; rfl, .inr (.inr (.inl (startsTest_anchor anchor)))⟩
  | callComparable c =>
    obtain ⟨name, more, tokens⟩ := functionExpr_tokens c
    exact ⟨name.token, _, by simp [tokens]; rfl, .inr (.inr (.inl (by simp [name_kind, startsTest])))⟩

theorem opens_basicExpr (t : Derivation .basicExpr) : OpensLogical t.tokens := by
  cases t with
  | paren p =>
    obtain ⟨left, more, tokens⟩ := parenExpr_tokens p
    exact ⟨left.token, more, tokens, .inl left.kind⟩
  | notParen bang p => exact ⟨bang.token, _, rfl, .inr (.inl bang.kind)⟩
  | comparison left operator right => exact opens_comparison left operator right
  | test t =>
    obtain ⟨first, more, tokens, kind⟩ := testExpr_tokens t
    exact ⟨first, more, tokens, .inr (.inr (.inl kind))⟩
  | notTest bang t => exact ⟨bang.token, _, rfl, .inr (.inl bang.kind)⟩

theorem opens_logicalAnd (t : Derivation .logicalAnd) : OpensLogical t.tokens := by
  cases t with
  | logicalAnd cs =>
    cases cs with
    | lastConjunct c => exact opens_basicExpr c
    | moreConjuncts c and cs => exact (opens_basicExpr c).append _

theorem opens_logicalExpr (t : Derivation .logicalExpr) : OpensLogical t.tokens := by
  cases t with
  | logicalExpr cs =>
    cases cs with
    | lastDisjunct c => exact opens_logicalAnd c
    | moreDisjuncts c or cs => exact (opens_logicalAnd c).append _

theorem functionArgument_tokens (t : Derivation .functionArgument) :
    ∃ first more, t.tokens = first :: more ∧ first.kind ≠ .rparen := by
  cases t with
  | literalArgument literal =>
    refine ⟨literal.token, _, rfl, fun kind => ?_⟩
    have reads := literal.reads
    simp [kind, literal?] at reads
  | logicalArgument c =>
    obtain ⟨first, more, tokens, kind⟩ := opens_logicalExpr c
    refine ⟨first, more, tokens, fun rparen => ?_⟩
    simp [rparen, startsTest, literal?] at kind

theorem arguments_tokens (t : Derivation .arguments) :
    ∃ first more, t.tokens = first :: more ∧ first.kind ≠ .rparen := by
  cases t with
  | lastArgument a => exact functionArgument_tokens a
  | moreArguments a comma as =>
    obtain ⟨first, more, tokens, kind⟩ := functionArgument_tokens a
    exact ⟨first, _, by simp [tokens]; rfl, kind⟩

grind_pattern arguments_tokens => tokens t

end Derivation

end Grammar

end JsonPath
