import JsonPath.Proofs.Grammar.Checks
import JsonPath.Proofs.Grammar.Follow

namespace JsonPath

namespace Grammar

open Query.Parser

/-- A derivation that stands for `m` derives the tokens in front of `rest`. -/
def Reads (s : Symbol) (ts : List Token) (m : Meaning s) (rest : List Token) : Prop :=
  ∃ t : Derivation s, ts = t.tokens ++ rest ∧ t.meaning? = some m

def Leaf.ofName {t : Token} {name : String} (kind : t.kind = .name name) : Leaf name? :=
  ⟨t, name, by simp [name?, kind]⟩

def Leaf.ofInteger {t : Token} {n : Int} (kind : t.kind = .number (.int n)) : Leaf integer? :=
  ⟨t, n, by simp [integer?, kind]⟩

namespace Reads

variable {ts us rest : List Token} {t u : Token}

theorem childName {name : String} (dot : t.kind = .dot) (kind : u.kind = .name name) :
    Reads .segment (t :: u :: rest) (.child [.name name]) rest :=
  ⟨.childName (.of dot) (.ofName kind), rfl, rfl⟩

theorem childWildcard (dot : t.kind = .dot) (star : u.kind = .wildcard) :
    Reads .segment (t :: u :: rest) (.child [.wildcard]) rest :=
  ⟨.childWildcard (.of dot) (.of star), rfl, rfl⟩

theorem descendantName {name : String} (dots : t.kind = .dotdot) (kind : u.kind = .name name) :
    Reads .segment (t :: u :: rest) (.descendant [.name name]) rest :=
  ⟨.descendantName (.of dots) (.ofName kind), rfl, rfl⟩

theorem descendantWildcard (dots : t.kind = .dotdot) (star : u.kind = .wildcard) :
    Reads .segment (t :: u :: rest) (.descendant [.wildcard]) rest :=
  ⟨.descendantWildcard (.of dots) (.of star), rfl, rfl⟩

theorem childBracketed {ss : List Selector} (b : Reads .bracketedSelection ts ss rest) :
    Reads .segment ts (.child ss) rest := by
  obtain ⟨b, tokens, meaning⟩ := b
  exact ⟨.childBracketed b, tokens, by simp [meaning]⟩

theorem descendantBracketed {ss : List Selector} (dots : t.kind = .dotdot)
    (b : Reads .bracketedSelection ts ss rest) : Reads .segment (t :: ts) (.descendant ss) rest := by
  obtain ⟨b, rfl, meaning⟩ := b
  exact ⟨.descendantBracketed (.of dots) b, rfl, by simp [meaning]⟩

theorem bracketedSelection {ss : List Selector} (left : t.kind = .lbracket)
    (inside : Reads .selectors ts ss (u :: rest)) (right : u.kind = .rbracket) :
    Reads .bracketedSelection (t :: ts) ss rest := by
  obtain ⟨inside, rfl, meaning⟩ := inside
  exact ⟨.bracketedSelection (.of left) inside (.of right), by simp [Mark.of], by simp [meaning]⟩

theorem noSegment : Reads .segments rest [] rest := ⟨.noSegment, rfl, rfl⟩

theorem moreSegments {s : Segment} {ss : List Segment} (head : Reads .segment ts s us)
    (tail : Reads .segments us ss rest) : Reads .segments ts (s :: ss) rest := by
  obtain ⟨head, rfl, meaning⟩ := head
  obtain ⟨tail, rfl, meanings⟩ := tail
  exact ⟨.moreSegments head tail, by simp, by simp [meaning, meanings]⟩

theorem lastSelector {s : Selector} (last : Reads .selector ts s rest) :
    Reads .selectors ts [s] rest := by
  obtain ⟨last, tokens, meaning⟩ := last
  exact ⟨.lastSelector last, tokens, by simp [meaning]⟩

theorem moreSelectors {s : Selector} {ss : List Selector} (head : Reads .selector ts s (t :: us))
    (comma : t.kind = .comma) (tail : Reads .selectors us ss rest) :
    Reads .selectors ts (s :: ss) rest := by
  obtain ⟨head, rfl, meaning⟩ := head
  obtain ⟨tail, rfl, meanings⟩ := tail
  exact ⟨.moreSelectors head (.of comma) tail, by simp [Mark.of], by simp [meaning, meanings]⟩

theorem filterSelector {c : Condition} (question : t.kind = .question)
    (inside : Reads .logicalExpr ts c rest) (logical : c.isLogical) :
    Reads .selector (t :: ts) (.filter c) rest := by
  obtain ⟨inside, rfl, meaning⟩ := inside
  exact ⟨.filterSelector (.of question) inside, rfl, by simp [meaning, Option.filter, logical]⟩

theorem lastDisjunct {c : Condition} (last : Reads .logicalAnd ts c rest) :
    Reads .disjuncts ts [c] rest := by
  obtain ⟨last, tokens, meaning⟩ := last
  exact ⟨.lastDisjunct last, tokens, by simp [meaning]⟩

theorem moreDisjuncts {c : Condition} {cs : List Condition} (head : Reads .logicalAnd ts c (t :: us))
    (or : t.kind = .or) (tail : Reads .disjuncts us cs rest) : Reads .disjuncts ts (c :: cs) rest := by
  obtain ⟨head, rfl, meaning⟩ := head
  obtain ⟨tail, rfl, meanings⟩ := tail
  exact ⟨.moreDisjuncts head (.of or) tail, by simp [Mark.of], by simp [meaning, meanings]⟩

theorem logicalExpr {cs : List Condition} {c : Condition} (operands : Reads .disjuncts ts cs rest)
    (joined : joined? .any cs = some c) : Reads .logicalExpr ts c rest := by
  obtain ⟨operands, tokens, meaning⟩ := operands
  exact ⟨.logicalExpr operands, tokens, by simp [meaning, joined]⟩

theorem lastConjunct {c : Condition} (last : Reads .basicExpr ts c rest) :
    Reads .conjuncts ts [c] rest := by
  obtain ⟨last, tokens, meaning⟩ := last
  exact ⟨.lastConjunct last, tokens, by simp [meaning]⟩

theorem moreConjuncts {c : Condition} {cs : List Condition} (head : Reads .basicExpr ts c (t :: us))
    (and : t.kind = .and) (tail : Reads .conjuncts us cs rest) : Reads .conjuncts ts (c :: cs) rest := by
  obtain ⟨head, rfl, meaning⟩ := head
  obtain ⟨tail, rfl, meanings⟩ := tail
  exact ⟨.moreConjuncts head (.of and) tail, by simp [Mark.of], by simp [meaning, meanings]⟩

theorem logicalAnd {cs : List Condition} {c : Condition} (operands : Reads .conjuncts ts cs rest)
    (joined : joined? .all cs = some c) : Reads .logicalAnd ts c rest := by
  obtain ⟨operands, tokens, meaning⟩ := operands
  exact ⟨.logicalAnd operands, tokens, by simp [meaning, joined]⟩

theorem parenExpr {c : Condition} (left : t.kind = .lparen)
    (inside : Reads .logicalExpr ts c (u :: rest)) (right : u.kind = .rparen) (logical : c.isLogical) :
    Reads .parenExpr (t :: ts) c rest := by
  obtain ⟨inside, rfl, meaning⟩ := inside
  exact ⟨.parenExpr (.of left) inside (.of right), by simp [Mark.of],
    by simp [meaning, Option.filter, logical]⟩

theorem paren {c : Condition} (p : Reads .parenExpr ts c rest) : Reads .basicExpr ts c rest := by
  obtain ⟨p, tokens, meaning⟩ := p
  exact ⟨.paren p, tokens, meaning⟩

theorem notParen {c : Condition} (bang : t.kind = .not) (p : Reads .parenExpr ts c rest) :
    Reads .basicExpr (t :: ts) (.negation c) rest := by
  obtain ⟨p, rfl, meaning⟩ := p
  exact ⟨.notParen (.of bang) p, rfl, by simp [meaning]⟩

theorem comparison {left right : Operand} {operator : Comparison}
    (first : Reads .comparable ts left (t :: us)) (kind : comparison? t.kind = some operator)
    (second : Reads .comparable us right rest) (leftOk : left.isComparable)
    (rightOk : right.isComparable) : Reads .basicExpr ts (.compare operator left right) rest := by
  obtain ⟨first, rfl, meaning⟩ := first
  obtain ⟨second, rfl, meaning'⟩ := second
  obtain ⟨o, rfl, rfl⟩ := ComparisonOp.comparison?_eq_some_iff.mp kind
  exact ⟨.comparison first o second, by simp,
    by simp [meaning, meaning', Option.filter, leftOk, rightOk]⟩

theorem test {c : Condition} (inside : Reads .testExpr ts c rest) : Reads .basicExpr ts c rest := by
  obtain ⟨inside, tokens, meaning⟩ := inside
  exact ⟨.test inside, tokens, meaning⟩

theorem notTest {c : Condition} (bang : t.kind = .not) (inside : Reads .testExpr ts c rest)
    (logical : c.isLogical) : Reads .basicExpr (t :: ts) (.negation c) rest := by
  obtain ⟨inside, rfl, meaning⟩ := inside
  exact ⟨.notTest (.of bang) inside, rfl, by simp [meaning, Option.filter, logical]⟩

theorem literalComparable {v : Value} (kind : literal? t.kind = some v) :
    Reads .comparable (t :: rest) (.literal v) rest := by
  obtain ⟨l, rfl, rfl⟩ := Literal.literal?_eq_some_iff.mp kind
  exact ⟨.literalComparable l, rfl, rfl⟩

theorem queryComparable {q : Query} (inside : Reads .filterQuery ts q rest) :
    Reads .comparable ts (.query q) rest := by
  obtain ⟨inside, tokens, meaning⟩ := inside
  exact ⟨.queryComparable inside, tokens, by simp [meaning]⟩

theorem callComparable {f : Function} {as : List Argument}
    (inside : Reads .functionExpr ts (f, as) rest) : Reads .comparable ts (.call f as) rest := by
  obtain ⟨inside, tokens, meaning⟩ := inside
  exact ⟨.callComparable inside, tokens, by simp [meaning]⟩

theorem testOfComparable {o : Operand} {c : Condition} (inside : Reads .comparable ts o rest)
    (alone : asTest o rest = .ok c) : Reads .testExpr ts c rest := by
  obtain ⟨inside, tokens, meaning⟩ := inside
  cases inside with
  | literalComparable literal =>
    obtain rfl : Operand.literal literal.value = o := by simpa using meaning
    simp [asTest] at alone
  | queryComparable q =>
    simp only [Derivation.meaning?, Option.map_eq_some_iff] at meaning
    obtain ⟨q', meaning, rfl⟩ := meaning
    obtain rfl : Condition.selects q' = c := by simpa [asTest] using alone
    exact ⟨.queryTest q, tokens, by simp [meaning]⟩
  | callComparable call =>
    simp only [Derivation.meaning?, Option.map_eq_some_iff] at meaning
    obtain ⟨⟨f, as⟩, meaning, rfl⟩ := meaning
    obtain rfl : Condition.call f as = c := by simpa [asTest] using alone
    exact ⟨.callTest call, tokens, by simp [meaning]⟩

theorem filterQuery {anchor : Anchor} {ss : List Segment} (kind : anchor? t.kind = some anchor)
    (inside : Reads .segments ts ss rest) : Reads .filterQuery (t :: ts) (.mk anchor ss) rest := by
  obtain ⟨inside, rfl, meaning⟩ := inside
  exact ⟨.filterQuery ⟨t, anchor, kind⟩ inside, rfl, by simp [meaning]⟩

theorem lastArgument {a : Argument} (last : Reads .functionArgument ts a rest) :
    Reads .arguments ts [a] rest := by
  obtain ⟨last, tokens, meaning⟩ := last
  exact ⟨.lastArgument last, tokens, by simp [meaning]⟩

theorem moreArguments {a : Argument} {as : List Argument}
    (head : Reads .functionArgument ts a (t :: us)) (comma : t.kind = .comma)
    (tail : Reads .arguments us as rest) : Reads .arguments ts (a :: as) rest := by
  obtain ⟨head, rfl, meaning⟩ := head
  obtain ⟨tail, rfl, meanings⟩ := tail
  exact ⟨.moreArguments head (.of comma) tail, by simp [Mark.of], by simp [meaning, meanings]⟩

theorem literalArgument {v : Value} (kind : literal? t.kind = some v) :
    Reads .functionArgument (t :: rest) (.literal v) rest := by
  obtain ⟨l, rfl, rfl⟩ := Literal.literal?_eq_some_iff.mp kind
  exact ⟨.literalArgument l, rfl, rfl⟩

theorem logicalArgument {c : Condition} (inside : Reads .logicalExpr ts c rest) :
    Reads .functionArgument ts (.condition c) rest := by
  obtain ⟨inside, tokens, meaning⟩ := inside
  exact ⟨.logicalArgument inside, tokens, by simp [meaning]⟩

end Reads

end Grammar

end JsonPath
