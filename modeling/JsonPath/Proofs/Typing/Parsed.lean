import JsonPath.Proofs.Grammar.Soundness
import JsonPath.Proofs.Typing.Phrase

namespace JsonPath

namespace Grammar

open Phrase

/-- What the derivations from a symbol stand for is well typed. Single operands of a disjunction or a
conjunction may still be calls that return a value. -/
def Typed : (s : Symbol) → Meaning s → Prop
  | .query, q | .filterQuery, q => (query q).WellTyped
  | .segments, ss => ∀ s ∈ ss, (segment s).WellTyped
  | .segment, s => (segment s).WellTyped
  | .bracketedSelection, ss | .selectors, ss => ss ≠ [] ∧ ∀ s ∈ ss, (selector s).WellTyped
  | .selector, s => (selector s).WellTyped
  | .disjuncts, cs | .conjuncts, cs => cs ≠ [] ∧ ∀ c ∈ cs, (condition c).WellTyped
  | .logicalExpr, c | .logicalAnd, c | .basicExpr, c | .parenExpr, c | .testExpr, c =>
    (condition c).WellTyped
  | .comparable, o => (operand o).WellTyped
  | .functionExpr, (f, as) => CallFits f as ∧ ∀ a ∈ as, (argument a).WellTyped
  | .arguments, as => ∀ a ∈ as, (argument a).WellTyped
  | .functionArgument, a => (argument a).WellTyped

theorem bound?_isIndex {n? : Option (Leaf integer?)} {bound : Option Int}
    (checked : bound? n? = some bound) : ∀ n, bound = some n → isIndex n := by
  rintro n rfl
  cases n? with
  | none => simp [bound?] at checked
  | some leaf =>
    simp only [bound?, Option.ite_none_right_eq_some, Option.some.injEq] at checked
    obtain ⟨range, rfl⟩ := checked
    exact range

theorem wellTyped_selector? {form : SliceForm} {s : Selector} (checked : form.selector? = some s) :
    (selector s).WellTyped := by
  simp only [SliceForm.selector?, Option.bind_eq_bind, Option.bind_eq_some_iff] at checked
  obtain ⟨start, startOk, stop, stopOk, step, stepOk, same⟩ := checked
  cases same
  rw [wellTyped_slice]
  intro n member
  simp only [List.mem_cons, List.not_mem_nil, or_false] at member
  rcases member with same | same | same
  · exact bound?_isIndex startOk n same.symm
  · exact bound?_isIndex stopOk n same.symm
  · exact bound?_isIndex stepOk n same.symm

theorem isSix_of_comparison? {k : TokenKind} {operator : Comparison}
    (reads : Query.Parser.comparison? k = some operator) :
    operator ∈ [.eq, .ne, .lt, .le, .gt, .ge] := by
  unfold Query.Parser.comparison? at reads
  split at reads <;> simp_all

theorem passed?_fits {type : DeclaredType} {a b : Argument} (passed : Argument.passed? type a = some b)
    (typed : (argument a).WellTyped) : b.Fits type ∧ (argument b).WellTyped := by
  unfold Argument.passed? at passed
  split at passed
  · cases passed
    exact ⟨trivial, typed⟩
  · simp only [Option.ite_none_right_eq_some, Option.some.injEq] at passed
    obtain ⟨singular, rfl⟩ := passed
    exact ⟨singular, by simpa using typed⟩
  · simp only [Option.ite_none_right_eq_some, Option.some.injEq] at passed
    obtain ⟨value, rfl⟩ := passed
    exact ⟨value, typed⟩
  · cases passed
    exact ⟨trivial, by simpa using typed⟩
  · -- No function returns nodes.
    next f as =>
    cases f <;> simp [Function.result] at passed
  · simp only [Option.ite_none_right_eq_some, Option.some.injEq] at passed
    obtain ⟨logical, rfl⟩ := passed
    exact ⟨logical, typed⟩
  · contradiction

theorem allPassed?_fits {types : List DeclaredType} {as bs : List Argument}
    (passed : Argument.allPassed? types as = some bs) (typed : ∀ a ∈ as, (argument a).WellTyped) :
    List.Forall₂ Argument.Fits types bs ∧ ∀ b ∈ bs, (argument b).WellTyped := by
  induction types generalizing as bs with
  | nil =>
    cases as with
    | nil =>
      cases passed
      exact ⟨.nil, by simp⟩
    | cons a as => simp [Argument.allPassed?] at passed
  | cons type types ih =>
    cases as with
    | nil => simp [Argument.allPassed?] at passed
    | cons a as =>
      simp only [Argument.allPassed?, Option.bind_eq_some_iff, Option.map_eq_some_iff] at passed
      obtain ⟨b, first, bs, rest, rfl⟩ := passed
      obtain ⟨fits, here⟩ := passed?_fits first (typed a (by simp))
      obtain ⟨more, below⟩ := ih rest fun a member => typed a (by simp [member])
      exact ⟨.cons fits more, by simpa using ⟨here, below⟩⟩

theorem call?_typed {name : Leaf name?} {left : Mark .lparen} {as : List Argument}
    {m : Function × List Argument} (called : call? name left as = some m)
    (typed : ∀ a ∈ as, (argument a).WellTyped) : Typed .functionExpr m := by
  simp only [call?, Option.ite_none_right_eq_some, Option.bind_eq_some_iff, Option.map_eq_some_iff]
    at called
  obtain ⟨-, f, known, bs, passed, rfl⟩ := called
  obtain ⟨fits, below⟩ := allPassed?_fits passed typed
  exact ⟨⟨List.mem_of_find?_eq_some known, fits.length_eq.symm, fits⟩, below⟩

theorem joined?_eq_some {join : List Condition → Condition} {cs : List Condition} {c : Condition}
    (nonempty : cs ≠ []) (joined : joined? join cs = some c) :
    cs = [c] ∨ (c = join cs ∧ 2 ≤ cs.length ∧ ∀ c ∈ cs, c.isLogical) := by
  match cs, nonempty with
  | [d], _ =>
    cases joined
    exact .inl rfl
  | d :: e :: ds, _ =>
    simp only [joined?, Option.ite_none_right_eq_some, Option.some.injEq] at joined
    obtain ⟨logical, rfl⟩ := joined
    exact .inr ⟨rfl, by simp, by simpa using logical⟩

theorem wellTyped_joined? {join : List Condition → Condition} {cs : List Condition} {c : Condition}
    (whole : (2 ≤ cs.length ∧ ∀ c ∈ cs, c.isLogical) → (∀ c ∈ cs, (condition c).WellTyped) →
      (condition (join cs)).WellTyped)
    (typed : cs ≠ [] ∧ ∀ c ∈ cs, (condition c).WellTyped) (joined : joined? join cs = some c) :
    (condition c).WellTyped := by
  rcases joined?_eq_some typed.1 joined with rfl | ⟨rfl, checked⟩
  · exact typed.2 c (by simp)
  · exact whole checked typed.2

theorem forall_of_cons? {α : Type} {P : α → Prop} {first : Option α} {others : Option (List α)}
    {as : List α} (meaning : (do return (← first) :: (← others)) = some as)
    (head : ∀ {a}, first = some a → P a) (tail : ∀ {bs}, others = some bs → ∀ b ∈ bs, P b) :
    as ≠ [] ∧ ∀ a ∈ as, P a := by
  simp only [Option.bind_eq_bind, Option.bind_eq_some_iff] at meaning
  obtain ⟨a, here, bs, rest, same⟩ := meaning
  cases same
  exact ⟨List.cons_ne_nil a bs, List.forall_mem_cons.mpr ⟨head here, tail rest⟩⟩

theorem holds_of_map {α β : Type} {P : α → Prop} {Q : β → Prop} {part : Option α} {f : α → β} {b : β}
    (meaning : part.map f = some b) (inside : ∀ {a}, part = some a → P a) (step : ∀ a, P a → Q (f a)) :
    Q b := by
  obtain ⟨a, here, rfl⟩ := Option.map_eq_some_iff.mp meaning
  exact step a (inside here)

theorem holds_of_filter_map {α β : Type} {P : α → Prop} {Q : β → Prop} {part : Option α} {p : α → Bool}
    {f : α → β} {b : β} (meaning : (part.filter p).map f = some b) (inside : ∀ {a}, part = some a → P a)
    (step : ∀ a, p a → P a → Q (f a)) : Q b := by
  obtain ⟨a, here, rfl⟩ := Option.map_eq_some_iff.mp meaning
  obtain ⟨here, checked⟩ := Option.filter_eq_some_iff.mp here
  exact step a checked (inside here)

namespace Derivation

theorem isLogical_of_parenExpr (p : Derivation .parenExpr) {c : Condition} (meaning : p.meaning? = some c) :
    c.isLogical := by
  cases p with
  | parenExpr left inside right => exact (Option.filter_eq_some_iff.mp meaning).2

theorem typed_comparison {left right : Derivation .comparable} {operator : ComparisonOp} {c : Condition}
    (meaning : (comparison left operator right).meaning? = some c)
    (first : ∀ {o}, left.meaning? = some o → (operand o).WellTyped)
    (second : ∀ {o}, right.meaning? = some o → (operand o).WellTyped) : (condition c).WellTyped := by
  simp only [meaning?, Option.bind_eq_bind, Option.bind_eq_some_iff, Option.filter_eq_some_iff] at meaning
  obtain ⟨l, ⟨meaning, leftOk⟩, r, ⟨meaning', rightOk⟩, same⟩ := meaning
  cases same
  exact wellTyped_compare.mpr
    ⟨⟨isSix_of_comparison? operator.reads, leftOk, rightOk⟩, first meaning, second meaning'⟩

theorem typed {s : Symbol} (t : Derivation s) {m : Meaning s} (meaning : t.meaning? = some m) :
    Typed s m := by
  induction t with
  | noSegment | childName | childWildcard | descendantName | descendantWildcard | nameSelector
  | wildcardSelector | literalComparable | literalArgument =>
    cases meaning
    simp [Typed, Segment.selectors]
  | query mark part ih | filterQuery mark part ih | descendantBracketed mark part ih | childBracketed part ih
  | queryTest part ih | callTest part ih | queryComparable part ih | callComparable part ih
  | logicalArgument part ih =>
    exact holds_of_map meaning ih (by simp [Typed, Segment.selectors])
  | lastSelector last ih | lastDisjunct last ih | lastConjunct last ih | lastArgument last ih =>
    -- A call that returns a value passes here; the symbol around it checks what is logical.
    exact holds_of_map meaning ih (by simp [Typed])
  | moreSegments first rest head tail | moreArguments first mark rest head tail =>
    exact (forall_of_cons? meaning head tail).2
  | moreSelectors first mark rest head tail | moreDisjuncts first mark rest head tail
  | moreConjuncts first mark rest head tail =>
    exact forall_of_cons? meaning head fun others => (tail others).2
  | bracketedSelection mark part mark' ih | paren part ih | test part ih => exact ih meaning
  | indexSelector n =>
    obtain ⟨range, same⟩ := Option.ite_none_right_eq_some.mp meaning
    cases same
    simpa [Typed] using range
  | sliceSelector form => exact wellTyped_selector? meaning
  | filterSelector mark c ih | notTest mark c ih =>
    exact holds_of_filter_map meaning ih (by simp +contextual [Typed])
  | logicalExpr cs ih | logicalAnd cs ih =>
    obtain ⟨cs', meaning, joined⟩ := Option.bind_eq_some_iff.mp meaning
    exact wellTyped_joined? (fun checked below => by simpa using ⟨checked, below⟩) (ih meaning) joined
  | notParen bang p ih =>
    have inside {c : Condition} (here : p.meaning? = some c) : c.isLogical ∧ (condition c).WellTyped :=
      ⟨p.isLogical_of_parenExpr here, ih here⟩
    exact holds_of_map meaning inside (by simp [Typed])
  | comparison left operator right first second => exact typed_comparison meaning first second
  | parenExpr left c right ih => exact ih (Option.filter_eq_some_iff.mp meaning).1
  | emptyCall name left right => exact call?_typed meaning (by simp)
  | call name left as right ih =>
    obtain ⟨as', meaning, called⟩ := Option.bind_eq_some_iff.mp meaning
    exact call?_typed called (ih meaning)

end Derivation

end Grammar

namespace Query

theorem derivation_of_parse_eq_ok {text : String} {limit : Int} {q : Query}
    (parsed : parse text limit = .ok q) : ∃ t : Grammar.Derivation .query, t.meaning? = some q := by
  simp only [parse] at parsed
  split at parsed
  · contradiction
  · contradiction
  · simp only [Except.bind_eq_ok] at parsed
    obtain ⟨-, -, parsed⟩ := parsed
    obtain ⟨t, -, meaning, -, -⟩ := Grammar.query_sound parsed
    exact ⟨t, meaning⟩

/-- A parsed query starts at the root and is well typed at every depth of nesting. -/
theorem wellTyped_of_parse_eq_ok {text : String} {limit : Int} {q : Query}
    (parsed : parse text limit = .ok q) : q.anchor = .root ∧ (Phrase.query q).WellTyped := by
  obtain ⟨t, meaning⟩ := derivation_of_parse_eq_ok parsed
  refine ⟨?_, t.typed meaning⟩
  cases t with
  | query root ss =>
    simp only [Grammar.Derivation.meaning?, Option.map_eq_some_iff] at meaning
    obtain ⟨ss', -, rfl⟩ := meaning
    rfl

theorem wellTyped_of_parse_eq_ok_filter :
    ∃ q, parse "$..a[?length(value($.b))<=2&&!(@.c||search(@.d,'x')),-1,::2]" 4 = .ok q ∧
      q.anchor = .root ∧ (Phrase.query q).WellTyped := by
  have accepted :
      (parse "$..a[?length(value($.b))<=2&&!(@.c||search(@.d,'x')),-1,::2]" 4).toOption.isSome := by
    decide +kernel
  cases parsed : parse "$..a[?length(value($.b))<=2&&!(@.c||search(@.d,'x')),-1,::2]" 4 with
  | error e => simp [parsed, Except.toOption] at accepted
  | ok q => exact ⟨q, rfl, wellTyped_of_parse_eq_ok parsed⟩

end Query

end JsonPath
