import JsonPath.Proofs.Grammar.Checks
import JsonPath.Proofs.Grammar.Follow

namespace JsonPath

namespace Grammar

open Query.Parser

def Ended (s : Symbol) (rest : List Token) : Prop := ∃ u us, rest = u :: us ∧ s.mayPrecede u.kind

namespace Ended

variable {s s' : Symbol} {rest : List Token}

theorem cons {u : Token} (first : s.mayPrecede u.kind) : Ended s (u :: rest) := ⟨u, rest, rfl, first⟩

theorem mark {k : TokenKind} (m : Mark k) (first : s.mayPrecede k) : Ended s (m.token :: rest) :=
  cons (by rw [m.kind]; exact first)

theorem follows (ended : Ended s rest) : Follows s rest := by
  obtain ⟨u, us, rfl, first⟩ := ended
  exact .cons first

theorem weaken (ended : Ended s rest) (follows : Follows s rest → Follows s' rest) :
    Ended s' rest := by
  obtain ⟨u, us, rfl, first⟩ := ended
  exact cons (follows (.cons first) u (by simp))

theorem ne_kind (ended : Ended s rest) {k : TokenKind} (never : ¬ s.mayPrecede k) {u : Token}
    {us : List Token} (same : rest = u :: us) : u.kind ≠ k := by
  obtain ⟨v, vs, rfl, first⟩ := ended
  cases same
  rintro rfl
  exact never first

theorem follow (ended : Ended s rest) : follow s.mayPrecede rest = .ok () := by
  obtain ⟨u, us, rfl, first⟩ := ended
  simp [Query.Parser.follow, first]

end Ended

/-- A reader that takes every derivation from a symbol with fewer than `size` tokens, where a token
that can follow is next. -/
def Complete (s : Symbol) (read : Reader (Meaning s)) (size : Nat) : Prop :=
  ∀ (t : Derivation s) m rest, t.tokens.length < size → t.meaning? = some m → Ended s rest →
    read (t.tokens ++ rest) = .ok (m, rest)

section

variable {α : Type} {item : Reader α} {mark : TokenKind} {fuel : Nat} {ts us rest : List Token}
  {t : Token} {a : α} {as : List α}

theorem separated_last (first : item ts = .ok (a, t :: rest)) (closes : t.kind = mark)
    (other : mark ≠ .comma) : separated item mark (fuel + 1) ts = .ok ([a], rest) := by
  subst closes
  simp [separated, first, other, bind, Except.bind, pure, Except.pure]

theorem separated_more (first : item ts = .ok (a, t :: us)) (comma : t.kind = .comma)
    (tail : separated item mark fuel us = .ok (as, rest)) :
    separated item mark (fuel + 1) ts = .ok (a :: as, rest) := by
  simp [separated, first, comma, tail, bind, Except.bind, pure, Except.pure]

theorem joined_last (first : item ts = .ok (a, t :: rest)) (other : t.kind ≠ mark) :
    joined item mark (fuel + 1) ts = .ok ([a], t :: rest) := by
  simp [joined, first, other, bind, Except.bind, pure, Except.pure]

theorem joined_more (first : item ts = .ok (a, t :: us)) (marked : t.kind = mark)
    (tail : joined item mark fuel us = .ok (as, rest)) :
    joined item mark (fuel + 1) ts = .ok (a :: as, rest) := by
  simp [joined, first, marked, tail, bind, Except.bind, pure, Except.pure]

end

inductive Listed (s : Symbol) (k : TokenKind) : List Token → List (Meaning s) → Prop
  | last (t : Derivation s) {m : Meaning s} (meaning : t.meaning? = some m) : Listed s k t.tokens [m]
  | more (t : Derivation s) {m : Meaning s} (meaning : t.meaning? = some m) (between : Mark k)
      {ts : List Token} {ms : List (Meaning s)} (others : Listed s k ts ms) :
      Listed s k (t.tokens ++ between.token :: ts) (m :: ms)

section

variable {s : Symbol} {read : Reader (Meaning s)} {size : Nat} (complete : Complete s read size)
  (nonempty : ∀ t : Derivation s, 0 < t.tokens.length)

include complete nonempty

theorem separated_complete {closing : TokenKind} (joins : s.mayPrecede .comma)
    (stops : s.mayPrecede closing) (other : closing ≠ .comma) {right : Token}
    (closes : right.kind = closing) {rest ts : List Token} {ms : List (Meaning s)}
    (listed : Listed s .comma ts ms) {fuel : Nat} (enough : ts.length ≤ fuel)
    (small : ts.length < size) :
    separated read closing fuel (ts ++ right :: rest) = .ok (ms, rest) := by
  -- Every item has a token, so the fuel lasts for one round an item.
  induction listed generalizing fuel with
  | last t meaning =>
    have positive := nonempty t
    obtain ⟨fuel, rfl⟩ : ∃ n, fuel = n + 1 := Nat.exists_eq_add_one.mpr (by omega)
    have ended : Ended s (right :: rest) := .cons (by rw [closes]; exact stops)
    have head := complete t _ (right :: rest) small meaning ended
    exact separated_last head closes other
  | @more t m meaning comma ts ms others ih =>
    simp only [List.length_append, List.length_cons] at enough small
    obtain ⟨fuel, rfl⟩ : ∃ n, fuel = n + 1 := Nat.exists_eq_add_one.mpr (by omega)
    have ended : Ended s (comma.token :: (ts ++ right :: rest)) := .mark comma joins
    have head := complete t m _ (by omega) meaning ended
    have tail : separated read closing fuel (ts ++ right :: rest) = .ok (ms, rest) :=
      ih (by omega) (by omega)
    simpa using separated_more head comma.kind tail

theorem joined_complete {k : TokenKind} (joins : s.mayPrecede k) {rest ts : List Token}
    (ended : Ended s rest) (stops : ∀ {u us}, rest = u :: us → u.kind ≠ k) {ms : List (Meaning s)}
    (listed : Listed s k ts ms) {fuel : Nat} (enough : ts.length ≤ fuel) (small : ts.length < size) :
    joined read k fuel (ts ++ rest) = .ok (ms, rest) := by
  obtain ⟨u, us, rfl, first⟩ := ended
  induction listed generalizing fuel with
  | last t meaning =>
    have positive := nonempty t
    obtain ⟨fuel, rfl⟩ : ∃ n, fuel = n + 1 := Nat.exists_eq_add_one.mpr (by omega)
    have head := complete t _ (u :: us) small meaning (.cons first)
    exact joined_last head (stops rfl)
  | @more t m meaning between ts ms others ih =>
    simp only [List.length_append, List.length_cons] at enough small
    obtain ⟨fuel, rfl⟩ : ∃ n, fuel = n + 1 := Nat.exists_eq_add_one.mpr (by omega)
    have ended : Ended s (between.token :: (ts ++ u :: us)) := .mark between joins
    have head := complete t m _ (by omega) meaning ended
    have tail : joined read k fuel (ts ++ u :: us) = .ok (ms, u :: us) := ih (by omega) (by omega)
    simpa using joined_more head between.kind tail

end

section

variable {s : Symbol} {k : TokenKind} {t : Derivation s} {between : Mark k} {ts : List Token}
  {ms : List (Meaning s)}

theorem listed_last (meaning : t.meaning?.map ([·]) = some ms) : Listed s k t.tokens ms := by
  obtain ⟨m, first, rfl⟩ := Option.map_eq_some_iff.mp meaning
  exact .last t first

theorem listed_more {others : Option (List (Meaning s))}
    (meaning : (do return (← t.meaning?) :: (← others)) = some ms)
    (tail : ∀ ms, others = some ms → Listed s k ts ms) :
    Listed s k (t.tokens ++ between.token :: ts) ms := by
  simp only [Option.bind_eq_bind, Option.bind_eq_some_iff] at meaning
  obtain ⟨m, first, ms', rest, same⟩ := meaning
  cases same
  exact .more t first between (tail ms' rest)

end

theorem selectors_listed : ∀ (t : Derivation .selectors) (ss : List Selector), t.meaning? = some ss →
    Listed .selector .comma t.tokens ss
  | .lastSelector _, _, meaning => listed_last meaning
  | .moreSelectors _ _ ss, _, meaning => listed_more meaning (selectors_listed ss)

theorem arguments_listed : ∀ (t : Derivation .arguments) (as : List Argument), t.meaning? = some as →
    Listed .functionArgument .comma t.tokens as
  | .lastArgument _, _, meaning => listed_last meaning
  | .moreArguments _ _ as, _, meaning => listed_more meaning (arguments_listed as)

theorem conjuncts_listed : ∀ (t : Derivation .conjuncts) (cs : List Condition), t.meaning? = some cs →
    Listed .basicExpr .and t.tokens cs
  | .lastConjunct _, _, meaning => listed_last meaning
  | .moreConjuncts _ _ cs, _, meaning => listed_more meaning (conjuncts_listed cs)

theorem disjuncts_listed : ∀ (t : Derivation .disjuncts) (cs : List Condition), t.meaning? = some cs →
    Listed .logicalAnd .or t.tokens cs
  | .lastDisjunct _, _, meaning => listed_last meaning
  | .moreDisjuncts _ _ cs, _, meaning => listed_more meaning (disjuncts_listed cs)

theorem integer?_complete {n? : Option (Leaf integer?)} {u : Token} {us : List Token}
    (other : integer? u.kind = none) :
    Query.Parser.integer? (optionalTokens n? ++ u :: us) = (placed n?, u :: us) := by
  cases n? with
  | some n => simp [optionalTokens, Query.Parser.integer?, integer_kind, placed]
  | none =>
    simp only [optionalTokens, List.nil_append, Query.Parser.integer?]
    split
    · next n kind => simp [kind, integer?] at other
    · rfl

theorem slice_complete {form : SliceForm} {s : Selector} {rest : List Token}
    (meaning : form.selector? = some s) (ended : Ended .selector rest) :
    slice (placed form.start)
      (form.colon.token :: (optionalTokens form.stop ++ (SliceForm.stepTokens form.step ++ rest))) =
      .ok (s, rest) := by
  obtain ⟨start, colon, stop, step⟩ := form
  simp only [SliceForm.selector?, Option.bind_eq_bind, Option.bind_eq_some_iff] at meaning
  obtain ⟨start', startOk, stop', stopOk, step', stepOk, meaning⟩ := meaning
  cases meaning
  simp only [← checkBound_eq_ok_iff] at startOk stopOk stepOk
  obtain ⟨u, us, rfl, first⟩ := ended
  have other : u.kind ≠ .colon ∧ integer? u.kind = none := by
    cases kind : u.kind <;> simp_all [Symbol.mayPrecede, endsSelector, integer?]
  have ends : follow endsSelector (u :: us) = .ok () := Ended.follow (s := .selector) (.cons first)
  cases step with
  | none =>
    have stopRead : Query.Parser.integer? (optionalTokens stop ++ u :: us) = (placed stop, u :: us) :=
      integer?_complete other.2
    simp only [Option.bind_none, placed, Option.map_none] at stepOk
    simp [slice, colon.kind, SliceForm.stepTokens, stopRead, other.1, ends, startOk, stopOk, stepOk,
      bind, Except.bind, pure, Except.pure]
  | some step =>
    obtain ⟨colon', step⟩ := step
    have stopRead : Query.Parser.integer?
        (optionalTokens stop ++ colon'.token :: (optionalTokens step ++ u :: us)) =
        (placed stop, colon'.token :: (optionalTokens step ++ u :: us)) :=
      integer?_complete (by simp [colon'.kind, integer?])
    have stepRead : Query.Parser.integer? (optionalTokens step ++ u :: us) = (placed step, u :: us) :=
      integer?_complete other.2
    simp only [Option.bind_some] at stepOk
    simp [slice, colon.kind, colon'.kind, SliceForm.stepTokens, stopRead, stepRead, ends, startOk,
      stopOk, stepOk, bind, Except.bind, pure, Except.pure]

theorem selector_length_pos (t : Derivation .selector) : 0 < t.tokens.length := by
  cases t with
  | sliceSelector form =>
    obtain ⟨first, more, tokens, -⟩ := form.tokens_eq_cons
    simp [tokens]
  | _ => simp

theorem functionArgument_length_pos (t : Derivation .functionArgument) : 0 < t.tokens.length := by
  obtain ⟨first, more, tokens, -⟩ := t.functionArgument_tokens
  simp [tokens]

theorem basicExpr_length_pos (t : Derivation .basicExpr) : 0 < t.tokens.length := by
  obtain ⟨first, more, tokens, -⟩ := t.opens_basicExpr
  simp [tokens]

theorem logicalAnd_length_pos (t : Derivation .logicalAnd) : 0 < t.tokens.length := by
  obtain ⟨first, more, tokens, -⟩ := t.opens_logicalAnd
  simp [tokens]

theorem selector_complete {inner : Reader Condition} {size : Nat}
    (inside : Complete .logicalExpr inner size) : Complete .selector (selector inner) (size + 1) := by
  intro t s rest small meaning ended
  cases t with
  | nameSelector name =>
    cases meaning
    simp [selector, string_kind]
  | wildcardSelector star =>
    cases meaning
    simp [selector, star.kind]
  | indexSelector n =>
    have ends : follow endsSelector rest = .ok () := ended.follow
    obtain ⟨u, us, rfl, first⟩ := ended
    have other : u.kind ≠ .colon := by
      rintro kind
      simp [kind, Symbol.mayPrecede, endsSelector] at first
    simp only [Derivation.meaning?, Option.ite_none_right_eq_some, Option.some.injEq] at meaning
    obtain ⟨range, rfl⟩ := meaning
    have checked : checkInteger n.value n.token.offset = .ok n.value :=
      checkInteger_eq_ok_iff.mpr ⟨range, rfl⟩
    simp [selector, integer_kind, other, ends, checked, bind, Except.bind, pure, Except.pure]
  | sliceSelector form =>
    have read := slice_complete meaning ended
    obtain ⟨start, colon, stop, step⟩ := form
    cases start with
    | none => simpa [selector, SliceForm.tokens, optionalTokens, placed, colon.kind] using read
    | some start =>
      simpa [selector, SliceForm.tokens, optionalTokens, placed, integer_kind, colon.kind] using read
  | filterSelector question c =>
    simp only [Derivation.meaning?, Option.map_eq_some_iff, Option.filter_eq_some_iff] at meaning
    obtain ⟨c', ⟨meaning, logical⟩, rfl⟩ := meaning
    have read := inside c c' rest (by simpa using small) meaning (ended.weaken .selectorCondition)
    have checked := (checkLogical_eq_ok_iff (u := ())).mpr logical
    have ends : follow endsSelector rest = .ok () := ended.follow
    simp [selector, question.kind, read, checked, ends, bind, Except.bind, pure, Except.pure]

theorem segments_none (inner : Reader Condition) {fuel : Nat} {rest : List Token}
    (follows : Follows .segments rest) : segments inner fuel rest = .ok ([], rest) := by
  cases rest with
  | nil => simp [segments]
  | cons u us =>
    have first := follows u (by simp)
    cases fuel with
    | zero => simp [segments]
    | succ fuel =>
      unfold segments
      split <;> simp_all [Symbol.mayPrecede, startsSegment]

theorem basic_operand {inner : Reader Condition} {fuel : Nat} {t : Token} {ts : List Token}
    (starts : startsOperand t.kind) :
    basic fuel inner (t :: ts) = testOrComparison fuel inner (t :: ts) := by
  have other : t.kind ≠ .lparen ∧ t.kind ≠ .not := by
    cases kind : t.kind <;> simp_all [startsOperand, startsTest, literal?]
  simp [basic, other]

theorem run_of_joined? {join : List Condition → Condition} {ends : TokenKind → Bool}
    {cs : List Condition} {ts : List Token} {c : Condition} (joined : joined? join cs = some c)
    (follows : follow ends ts = .ok ()) :
    (match cs with
      | [c] => pure (c, ts)
      | _ => do
        follow ends ts
        checkAllLogical cs
        return (join cs, ts)) = Except.ok (c, ts) := by
  rcases cs with _ | ⟨first, _ | ⟨second, more⟩⟩
  case cons.nil =>
    cases joined
    rfl
  all_goals
    simp only [joined?, Option.ite_none_right_eq_some, Option.some.injEq] at joined
    obtain ⟨logical, rfl⟩ := joined
    have checked := (checkAllLogical_eq_ok_iff (u := ())).mpr logical
    simp [follows, checked, bind, Except.bind, pure, Except.pure]

section

variable {inner : Reader Condition} {size fuel : Nat} (inside : Complete .logicalExpr inner size)

include inside

theorem bracketedSelection_complete {t : Derivation .bracketedSelection} {ss : List Selector}
    (enough : t.tokens.length ≤ fuel + 1) (small : t.tokens.length ≤ size + 1)
    (meaning : t.meaning? = some ss) (rest : List Token) :
    ∃ (left : Mark .lbracket) (more : List Token), t.tokens = left.token :: more ∧
      bracketed fuel inner (more ++ rest) = .ok (ss, rest) := by
  cases t with
  | bracketedSelection left inner' right =>
    simp only [Derivation.tokens, List.length_append, List.length_cons] at enough small
    have read : separated (selector inner) .rbracket fuel (inner'.tokens ++ right.token :: rest) =
        .ok (ss, rest) :=
      separated_complete (selector_complete inside) selector_length_pos (by decide) (by decide)
        (by decide) right.kind (selectors_listed inner' ss meaning) (by omega) (by omega)
    exact ⟨left, _, rfl, by simpa [bracketed] using read⟩

theorem segments_more {t : Derivation .segment} {s : Segment} {ss : List Segment}
    {us rest : List Token} (enough : t.tokens.length ≤ fuel + 1) (small : t.tokens.length ≤ size + 1)
    (meaning : t.meaning? = some s) (tail : segments inner fuel us = .ok (ss, rest)) :
    segments inner (fuel + 1) (t.tokens ++ us) = .ok (s :: ss, rest) := by
  cases t with
  | childName dot name =>
    cases meaning
    simp [segments, shorthand, dot.kind, name_kind, tail, bind, Except.bind, pure, Except.pure]
  | childWildcard dot star =>
    cases meaning
    simp [segments, shorthand, dot.kind, star.kind, tail, bind, Except.bind, pure, Except.pure]
  | childBracketed b =>
    simp only [Derivation.meaning?, Option.map_eq_some_iff] at meaning
    obtain ⟨ss, meaning, rfl⟩ := meaning
    obtain ⟨left, more, tokens, read⟩ := bracketedSelection_complete inside enough small meaning us
    simp [segments, tokens, left.kind, read, tail, bind, Except.bind, pure, Except.pure]
  | descendantName dots name =>
    cases meaning
    simp [segments, shorthand, dots.kind, name_kind, tail, bind, Except.bind, pure, Except.pure]
  | descendantWildcard dots star =>
    cases meaning
    simp [segments, shorthand, dots.kind, star.kind, tail, bind, Except.bind, pure, Except.pure]
  | descendantBracketed dots b =>
    simp only [Derivation.meaning?, Option.map_eq_some_iff] at meaning
    obtain ⟨ss, meaning, rfl⟩ := meaning
    simp only [Derivation.tokens, List.length_cons] at enough small
    have short : b.tokens.length ≤ fuel + 1 := by omega
    obtain ⟨left, more, tokens, read⟩ :=
      bracketedSelection_complete inside short (by omega) meaning us
    simp [segments, shorthand, tokens, dots.kind, left.kind, read, tail, bind, Except.bind, pure,
      Except.pure]

theorem segments_complete : ∀ (t : Derivation .segments) {ss : List Segment} {rest : List Token}
    {fuel : Nat}, t.tokens.length ≤ fuel → t.tokens.length ≤ size + 1 → t.meaning? = some ss →
    Follows .segments rest → segments inner fuel (t.tokens ++ rest) = .ok (ss, rest)
  | .noSegment, ss, rest, fuel, _, _, meaning, follows => by
    cases meaning
    exact segments_none inner follows
  | .moreSegments s ss, _, rest, fuel, enough, small, meaning, follows => by
    simp only [Derivation.meaning?, Option.bind_eq_bind, Option.bind_eq_some_iff] at meaning
    obtain ⟨s', meaning, ss', meanings, same⟩ := meaning
    cases same
    simp only [Derivation.tokens, List.length_append] at enough small
    obtain ⟨first, more, tokens, -⟩ := s.segment_tokens
    have nonempty : s.tokens.length ≠ 0 := by simp [tokens]
    obtain ⟨fuel, rfl⟩ : ∃ n, fuel = n + 1 := Nat.exists_eq_add_one.mpr (by omega)
    have tail : segments inner fuel (ss.tokens ++ rest) = .ok (ss', rest) :=
      segments_complete ss (by omega) (by omega) meanings follows
    simpa using segments_more inside (by omega) (by omega) meaning tail

theorem functionArgument_complete : Complete .functionArgument (argument inner) size := by
  intro t a rest small meaning ended
  cases t with
  | literalArgument literal =>
    cases meaning
    obtain ⟨u, us, rfl, first⟩ := ended
    have other : comparison? u.kind = none := by
      cases kind : u.kind <;>
        simp_all [Symbol.mayPrecede, endsDisjunction, endsSelector, comparison?]
    simp [argument, literal.reads, other]
  | logicalArgument c =>
    simp only [Derivation.meaning?, Option.map_eq_some_iff] at meaning
    obtain ⟨c', meaning, rfl⟩ := meaning
    have read := inside c c' rest small meaning ended
    obtain ⟨first, more, tokens, kind⟩ := c.opens_logicalExpr
    simp only [tokens, List.cons_append] at read
    simp only [Derivation.tokens, tokens]
    rcases kind with kind | kind | kind | ⟨kind, operator, after, rfl⟩
    · simp [argument, kind, literal?, read, bind, Except.bind, pure, Except.pure]
    · simp [argument, kind, literal?, read, bind, Except.bind, pure, Except.pure]
    · have other : literal? first.kind = none := by
        cases opening : first.kind <;> simp_all [startsTest, literal?]
      simp [argument, other, read, bind, Except.bind, pure, Except.pure]
    · obtain ⟨v, literal⟩ := Option.isSome_iff_exists.mp kind
      simp only [List.cons_append] at read
      simp [argument, literal, operator.reads, read, bind, Except.bind, pure, Except.pure]

theorem functionExpr_complete {t : Derivation .functionExpr} {f : Function} {as : List Argument}
    {rest : List Token} (enough : t.tokens.length ≤ fuel + 1) (small : t.tokens.length < size + 1)
    (meaning : t.meaning? = some (f, as)) (ended : Ended .functionExpr rest) :
    ∃ (name : Leaf name?) (more : List Token), t.tokens = name.token :: more ∧
      call fuel inner name.value name.token (more ++ rest) = .ok ((f, as), rest) := by
  have ends : follow endsOperand rest = .ok () := ended.follow
  cases t with
  | emptyCall name left right =>
    have checked := (checkCall_eq_ok_iff (by simp)).mpr meaning
    refine ⟨name, _, rfl, ?_⟩
    simp [call, arguments, left.kind, right.kind, ends, checked, bind, Except.bind, pure, Except.pure]
  | call name left as right =>
    simp only [Derivation.meaning?, Option.bind_eq_some_iff] at meaning
    obtain ⟨bs, meaning, called⟩ := meaning
    have checked := (checkCall_eq_ok_iff (arguments_isWritten meaning)).mpr called
    simp only [Derivation.tokens, List.length_append, List.length_cons] at enough small
    have read : separated (argument inner) .rparen fuel (as.tokens ++ right.token :: rest) =
        .ok (bs, rest) :=
      separated_complete (functionArgument_complete inside) functionArgument_length_pos (by decide)
        (by decide) (by decide) right.kind (arguments_listed as bs meaning) (by omega) (by omega)
    obtain ⟨first, more, tokens, kind⟩ := as.arguments_tokens
    refine ⟨name, _, rfl, ?_⟩
    simp only [tokens, List.cons_append] at read
    simp [call, arguments, left.kind, tokens, kind, read, ends, checked, bind, Except.bind, pure,
      Except.pure]

theorem filterQuery_complete {t : Derivation .filterQuery} {q : Query} {rest : List Token}
    (enough : t.tokens.length ≤ fuel + 1) (small : t.tokens.length < size + 1)
    (meaning : t.meaning? = some q) (ended : Ended .filterQuery rest) :
    operand fuel inner (t.tokens ++ rest) = .ok (.query q, rest) := by
  cases t with
  | filterQuery anchor ss =>
    simp only [Derivation.meaning?, Option.map_eq_some_iff] at meaning
    obtain ⟨ss', meaning, rfl⟩ := meaning
    simp only [Derivation.tokens, List.length_cons] at enough small
    have read : segments inner fuel (ss.tokens ++ rest) = .ok (ss', rest) :=
      segments_complete inside ss (by omega) (by omega) meaning ended.follows.segments
    rcases anchor_kind anchor with ⟨kind, value⟩ | ⟨kind, value⟩ <;>
      simp [operand, kind, value, read, bind, Except.bind, pure, Except.pure]

theorem comparable_complete (enough : size ≤ fuel) :
    Complete .comparable (operand fuel inner) (size + 1) := by
  intro t o rest small meaning ended
  cases t with
  | literalComparable literal =>
    cases meaning
    have reads := literal.reads
    cases kind : literal.token.kind <;> simp_all [operand, literal?]
  | queryComparable q =>
    simp only [Derivation.meaning?, Option.map_eq_some_iff] at meaning
    obtain ⟨q', meaning, rfl⟩ := meaning
    exact filterQuery_complete inside (by simp at small; omega) small meaning ended
  | callComparable c =>
    simp only [Derivation.meaning?, Option.map_eq_some_iff] at meaning
    obtain ⟨⟨f, as⟩, meaning, rfl⟩ := meaning
    have short : c.tokens.length ≤ fuel + 1 := by
      simp at small
      omega
    obtain ⟨name, more, tokens, read⟩ := functionExpr_complete inside short small meaning ended
    simp [operand, tokens, name_kind, read, bind, Except.bind, pure, Except.pure]

theorem testExpr_complete {t : Derivation .testExpr} {c : Condition} {rest : List Token}
    (enough : size ≤ fuel) (small : t.tokens.length < size + 1) (meaning : t.meaning? = some c)
    (ended : Ended .testExpr rest) :
    ∃ o, operand fuel inner (t.tokens ++ rest) = .ok (o, rest) ∧ asTest o rest = .ok c := by
  cases t with
  | queryTest q =>
    simp only [Derivation.meaning?, Option.map_eq_some_iff] at meaning
    obtain ⟨q', meaning, rfl⟩ := meaning
    exact ⟨.query q', comparable_complete inside enough (.queryComparable q) _ rest small
      (by simp [meaning]) ended, rfl⟩
  | callTest call =>
    simp only [Derivation.meaning?, Option.map_eq_some_iff] at meaning
    obtain ⟨⟨f, as⟩, meaning, rfl⟩ := meaning
    exact ⟨.call f as, comparable_complete inside enough (.callComparable call) _ rest small
      (by simp [meaning]) ended, rfl⟩

theorem parenExpr_complete {t : Derivation .parenExpr} {c : Condition} {rest : List Token}
    (small : t.tokens.length < size + 1) (meaning : t.meaning? = some c)
    (ended : Ended .basicExpr rest) :
    ∃ (left : Mark .lparen) (more : List Token), t.tokens = left.token :: more ∧
      parenthesised inner (more ++ rest) = .ok (c, rest) := by
  cases t with
  | parenExpr left c' right =>
    simp only [Derivation.meaning?, Option.filter_eq_some_iff] at meaning
    obtain ⟨meaning, logical⟩ := meaning
    simp only [Derivation.tokens, List.length_append, List.length_cons] at small
    have read := inside c' c (right.token :: rest) (by omega) meaning
      (.mark right (by simp [Symbol.mayPrecede, endsDisjunction]))
    have checked := (checkLogical_eq_ok_iff (u := ())).mpr logical
    have ends : follow endsTest rest = .ok () := ended.follow
    refine ⟨left, _, rfl, ?_⟩
    simp [parenthesised, read, right.kind, ends, checked, bind, Except.bind, pure, Except.pure]

theorem comparison_complete {left right : Derivation .comparable} {operator : ComparisonOp}
    {c : Condition} {rest : List Token} (enough : size ≤ fuel)
    (small : (Derivation.comparison left operator right).tokens.length < size + 1)
    (meaning : (Derivation.comparison left operator right).meaning? = some c)
    (ended : Ended .basicExpr rest) :
    basic fuel inner ((Derivation.comparison left operator right).tokens ++ rest) = .ok (c, rest) := by
  simp only [Derivation.meaning?, Option.bind_eq_bind, Option.bind_eq_some_iff,
    Option.filter_eq_some_iff] at meaning
  obtain ⟨l, ⟨meaning, leftOk⟩, r, ⟨meaning', rightOk⟩, same⟩ := meaning
  cases same
  simp only [Derivation.tokens, List.length_append, List.length_cons] at small
  have first := comparable_complete inside enough left l
    (operator.token :: (right.tokens ++ rest)) (by omega) meaning
    (.cons (by simp [Symbol.mayPrecede, endsOperand, operator.reads]))
  have second := comparable_complete inside enough right r rest (by omega) meaning'
    (ended.weaken .comparable)
  have checked : checkComparable operator.token.offset l = .ok () :=
    checkComparable_eq_ok_iff.mpr leftOk
  have checked' : checkComparable operator.token.offset r = .ok () :=
    checkComparable_eq_ok_iff.mpr rightOk
  have ends : follow endsTest rest = .ok () := ended.follow
  obtain ⟨u, us, tokens, starts⟩ := left.comparable_tokens
  simp only [tokens, List.cons_append] at first
  simp only [Derivation.tokens, tokens, List.cons_append, List.append_assoc]
  rw [basic_operand starts]
  simp [testOrComparison, first, operator.reads, compared, second, ends, checked, checked', bind,
    Except.bind, pure, Except.pure]

theorem test_complete {t : Derivation .testExpr} {c : Condition} {rest : List Token}
    (enough : size ≤ fuel) (small : t.tokens.length < size + 1) (meaning : t.meaning? = some c)
    (ended : Ended .basicExpr rest) : basic fuel inner (t.tokens ++ rest) = .ok (c, rest) := by
  obtain ⟨o, read, alone⟩ := testExpr_complete inside enough small meaning (ended.weaken .comparable)
  obtain ⟨u, us, tokens, starts⟩ := t.testExpr_tokens
  obtain ⟨v, vs, rfl, first⟩ := ended
  have other : comparison? v.kind = none :=
    Option.not_isSome_iff_eq_none.mp fun operator => not_endsTest_of_comparison? operator first
  simp only [tokens, List.cons_append] at read
  simp only [tokens, List.cons_append]
  rw [basic_operand (by simp [startsOperand, starts])]
  simp [testOrComparison, read, other, alone, bind, Except.bind, pure, Except.pure]

theorem notTest_complete {bang : Mark .not} {t : Derivation .testExpr} {c : Condition}
    {rest : List Token} (enough : size ≤ fuel) (small : t.tokens.length < size)
    (meaning : t.meaning? = some c) (logical : c.isLogical) (ended : Ended .basicExpr rest) :
    basic fuel inner (bang.token :: (t.tokens ++ rest)) = .ok (c.negation, rest) := by
  obtain ⟨o, read, alone⟩ :=
    testExpr_complete inside enough (by omega) meaning (ended.weaken .comparable)
  have checked := (checkLogical_eq_ok_iff (u := ())).mpr logical
  have ends : follow endsTest rest = .ok () := ended.follow
  obtain ⟨u, us, tokens, starts⟩ := t.testExpr_tokens
  have other : u.kind ≠ .lparen ∧ literal? u.kind = none := by
    cases kind : u.kind <;> simp_all [startsTest, literal?]
  simp only [tokens, List.cons_append] at read
  simp [basic, negated, bang.kind, tokens, other, read, ends, alone, checked, bind, Except.bind, pure,
    Except.pure]

theorem basicExpr_complete (enough : size ≤ fuel) :
    Complete .basicExpr (basic fuel inner) (size + 1) := by
  intro t c rest small meaning ended
  cases t with
  | paren p =>
    obtain ⟨left, more, tokens, read⟩ := parenExpr_complete inside small meaning ended
    simp [basic, tokens, left.kind, read]
  | notParen bang p =>
    simp only [Derivation.meaning?, Option.map_eq_some_iff] at meaning
    obtain ⟨c', meaning, rfl⟩ := meaning
    obtain ⟨left, more, tokens, read⟩ :=
      parenExpr_complete inside (by simp at small; omega) meaning ended
    simp [basic, negated, bang.kind, tokens, left.kind, read, bind, Except.bind, pure, Except.pure]
  | comparison left operator right => exact comparison_complete inside enough small meaning ended
  | test t => exact test_complete inside enough small meaning ended
  | notTest bang t =>
    simp only [Derivation.meaning?, Option.map_eq_some_iff, Option.filter_eq_some_iff] at meaning
    obtain ⟨c', ⟨meaning, logical⟩, rfl⟩ := meaning
    simp only [Derivation.tokens, List.length_cons] at small
    exact notTest_complete inside enough (by omega) meaning logical ended

theorem logicalAnd_complete (enough : size < fuel) :
    Complete .logicalAnd (conjunction fuel inner) (size + 1) := by
  intro t c rest small meaning ended
  cases t with
  | logicalAnd cs =>
    simp only [Derivation.meaning?, Option.bind_eq_some_iff] at meaning
    obtain ⟨cs', meaning, whole⟩ := meaning
    have short : cs.tokens.length ≤ fuel := by
      simp at small
      omega
    have after : Ended .conjuncts rest := ended.weaken .conjuncts
    have read : joined (basic fuel inner) .and fuel (cs.tokens ++ rest) = .ok (cs', rest) :=
      joined_complete (basicExpr_complete inside (Nat.le_of_lt enough)) basicExpr_length_pos (by decide)
        (after.weaken .basicExpr) (after.ne_kind (by decide)) (conjuncts_listed cs cs' meaning) short
        small
    simp only [conjunction, Derivation.tokens, read]
    exact run_of_joined? whole ended.follow

theorem logicalExpr_complete (enough : size < fuel) :
    Complete .logicalExpr (disjunction fuel inner) (size + 1) := by
  intro t c rest small meaning ended
  cases t with
  | logicalExpr cs =>
    simp only [Derivation.meaning?, Option.bind_eq_some_iff] at meaning
    obtain ⟨cs', meaning, whole⟩ := meaning
    have short : cs.tokens.length ≤ fuel := by
      simp at small
      omega
    have after : Ended .disjuncts rest := ended.weaken .disjuncts
    have read : joined (conjunction fuel inner) .or fuel (cs.tokens ++ rest) = .ok (cs', rest) :=
      joined_complete (logicalAnd_complete inside enough) logicalAnd_length_pos (by decide)
        (after.weaken .logicalAnd) (after.ne_kind (by decide)) (disjuncts_listed cs cs' meaning) short
        small
    simp only [disjunction, Derivation.tokens, read]
    exact run_of_joined? whole ended.follow

end

theorem condition_complete (fuel : Nat) : Complete .logicalExpr (condition fuel) fuel := by
  -- The induction is on the fuel: a logical expression inside another has fewer tokens than that one.
  induction fuel with
  | zero =>
    intro t c rest small
    simp at small
  | succ fuel ih => exact logicalExpr_complete ih (Nat.lt_succ_self fuel)

theorem query_complete {t : Derivation .query} {q : Query} {eof : Token} {rest : List Token}
    {fuel : Nat} (enough : t.tokens.length ≤ fuel) (meaning : t.meaning? = some q)
    (ends : eof.kind = .eof) : query fuel (t.tokens ++ eof :: rest) = .ok q := by
  cases t with
  | query root ss =>
    simp only [Derivation.meaning?, Option.map_eq_some_iff] at meaning
    obtain ⟨ss', meaning, rfl⟩ := meaning
    simp only [Derivation.tokens, List.length_cons] at enough
    have follows : Follows .segments (eof :: rest) :=
      .cons (by simp [Symbol.mayPrecede, ends, startsSegment])
    have read : segments (condition fuel) fuel (ss.tokens ++ eof :: rest) = .ok (ss', eof :: rest) :=
      segments_complete (condition_complete fuel) ss (by omega) (by omega) meaning follows
    simp [query, root.kind, read, ends, bind, Except.bind, pure, Except.pure]

end Grammar

end JsonPath
