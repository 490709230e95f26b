import JsonPath.Proofs.Grammar.Unambiguous

namespace JsonPath

namespace Grammar

open Query.Parser

/-- Some derivation from the symbol begins with the tokens. -/
def Viable (s : Symbol) (ts : List Token) : Prop :=
  ∃ (t : Derivation s) (more : List Token), t.tokens = ts ++ more

/-- Some derivation from the symbol, with nothing or a token that `p` admits behind it, begins with
the tokens. -/
def Admits (p : TokenKind → Bool) (s : Symbol) (ts : List Token) : Prop :=
  ∃ (t : Derivation s) (rest more : List Token),
    (∀ u ∈ rest.head?, p u.kind) ∧ t.tokens ++ rest = ts ++ more

theorem Viable.admits {p : TokenKind → Bool} {s : Symbol} {ts : List Token} (viable : Viable s ts) :
    Admits p s ts := by
  obtain ⟨t, more, tokens⟩ := viable
  exact ⟨t, [], more, by simp, by rw [List.append_nil, tokens]⟩

/-- No derivation goes on after the tokens of one with what is left. -/
def Stops {s : Symbol} (t : Derivation s) (rest : List Token) : Prop :=
  ∀ u ∈ rest.head?, ¬ Viable s (t.tokens ++ [u])

section

variable {s : Symbol} {t t' : Derivation s} {u : Token} {us rest : List Token}

theorem Stops.first (stops : Stops t (u :: us)) : ¬ Viable s (t.tokens ++ [u]) := stops u (by simp)

theorem Stops.cut (stops : Stops t (u :: us)) {ws : List Token} (follows : Follows s rest)
    (same : t'.tokens ++ rest = t.tokens ++ u :: ws) : t' = t ∧ rest = u :: ws := by
  rcases List.append_eq_append_iff.mp same with ⟨front, longer, split⟩ | ⟨front, longer, split⟩
  · cases front with
    | nil =>
      rw [List.append_nil] at longer
      exact ⟨(Derivation.eq_of_tokens_eq longer).symm, split⟩
    | cons v front =>
      have after : Follows s (v :: front) := by
        intro w member
        exact follows w (by rw [split]; simpa using member)
      obtain ⟨-, nothing⟩ := t.unique t' [] (v :: front) .nil after
        (by simpa using longer)
      contradiction
  · cases front with
    | nil =>
      rw [List.append_nil] at longer
      exact ⟨Derivation.eq_of_tokens_eq longer, split.symm⟩
    | cons v front =>
      obtain ⟨rfl, -⟩ := List.cons.inj split
      exact absurd ⟨t', front, by simpa using longer⟩ stops.first

theorem Stops.of_free (free : ∀ k, s.mayPrecede k) (t : Derivation s) (us : List Token) :
    Stops t us := by
  rintro u - ⟨t', more, same⟩
  obtain ⟨-, nothing⟩ := t.unique t' (u :: more) [] (.any free) (.any free)
    (by simpa using same.symm)
  contradiction

theorem Stops.admits {p : TokenKind → Bool} (stops : Stops t (u :: us))
    (more : ∀ k, p k → s.mayPrecede k) (admits : Admits p s (t.tokens ++ [u])) : p u.kind := by
  obtain ⟨t', rest, after, first, same⟩ := admits
  rw [List.append_assoc] at same
  obtain ⟨-, rfl⟩ := stops.cut (fun v member => more _ (first v member)) same
  exact first u (by simp)

end

section

variable {s s' : Symbol} {before rest x : List Token} {first : Option Token}
  {wrap : Derivation s → Derivation s'} {p p' : TokenKind → Bool} {u : Token}

/-- `wrap` puts tokens before a part. It is the production for all that begins with those tokens and
with `first`. -/
structure Wraps (before : List Token) (first : Option Token)
    (wrap : Derivation s → Derivation s') : Prop where
  tokens : ∀ t, (wrap t).tokens = before ++ t.tokens
  only : ∀ u ∈ first, ∀ t' rest more, t'.tokens ++ rest = before ++ u :: more → ∃ t, t' = wrap t

namespace Wraps

theorem viable (wraps : Wraps before first wrap) (viable : Viable s x) : Viable s' (before ++ x) := by
  obtain ⟨t, more, tokens⟩ := viable
  exact ⟨wrap t, more, by rw [wraps.tokens, tokens, List.append_assoc]⟩

theorem admits (wraps : Wraps before first wrap) (starts : u ∈ first) (fits : ∀ k, p' k → p k)
    (admits : Admits p' s' (before ++ u :: x)) : Admits p s (u :: x) := by
  obtain ⟨t', rest, more, follows, same⟩ := admits
  obtain ⟨t, rfl⟩ := wraps.only u starts t' rest (x ++ more) (by simpa using same)
  rw [wraps.tokens, List.append_assoc, List.append_assoc] at same
  exact ⟨t, rest, more, fun v member => fits _ (follows v member), List.append_cancel_left same⟩

theorem stops {t : Derivation s} (wraps : Wraps before (t.tokens ++ rest).head? wrap)
    (stops : Stops t rest) : Stops (wrap t) rest := by
  rintro u member ⟨t', more, same⟩
  rw [wraps.tokens, List.append_assoc, List.append_assoc] at same
  obtain ⟨v, vs, starts, front⟩ :
      ∃ v vs, v ∈ (t.tokens ++ rest).head? ∧ t.tokens ++ ([u] ++ more) = v :: vs := by
    cases front : t.tokens with
    | nil => exact ⟨u, more, by simpa using member, rfl⟩
    | cons v vs => exact ⟨v, _, by simp, rfl⟩
  obtain ⟨t', rfl⟩ := wraps.only v starts t' [] vs (by rw [List.append_nil, same, front])
  rw [wraps.tokens] at same
  exact stops u member ⟨t', more, by simpa using List.append_cancel_left same⟩

end Wraps

end

/-- The productions of a list: its last item, or an item, a mark and the rest of the list. -/
structure Listing (item list : Symbol) (k : TokenKind) where
  last : Derivation item → Derivation list
  more : Derivation item → Mark k → Derivation list → Derivation list
  last_tokens : ∀ t, (last t).tokens = t.tokens
  more_tokens : ∀ t m ts, (more t m ts).tokens = t.tokens ++ m.token :: ts.tokens
  cases : ∀ ts, (∃ t, ts = last t) ∨ ∃ t m ts', ts = more t m ts'
  joins : item.mayPrecede k
  ends : ∀ k, list.mayPrecede k → item.mayPrecede k
  separates : ¬ list.mayPrecede k

namespace Listing

def selectors : Listing .selector .selectors .comma where
  last := .lastSelector
  more := .moreSelectors
  last_tokens _ := rfl
  more_tokens _ _ _ := rfl
  cases
    | .lastSelector s => .inl ⟨s, rfl⟩
    | .moreSelectors s comma ss => .inr ⟨s, comma, ss, rfl⟩
  joins := by decide
  ends _ follows := (Bool.and_eq_true_iff.mp follows).1
  separates := by decide

def arguments : Listing .functionArgument .arguments .comma where
  last := .lastArgument
  more := .moreArguments
  last_tokens _ := rfl
  more_tokens _ _ _ := rfl
  cases
    | .lastArgument a => .inl ⟨a, rfl⟩
    | .moreArguments a comma as => .inr ⟨a, comma, as, rfl⟩
  joins := by decide
  ends _ follows := (Bool.and_eq_true_iff.mp follows).1
  separates := by decide

def conjuncts : Listing .basicExpr .conjuncts .and where
  last := .lastConjunct
  more := .moreConjuncts
  last_tokens _ := rfl
  more_tokens _ _ _ := rfl
  cases
    | .lastConjunct c => .inl ⟨c, rfl⟩
    | .moreConjuncts c and cs => .inr ⟨c, and, cs, rfl⟩
  joins := by decide
  ends _ follows := (Bool.and_eq_true_iff.mp follows).1
  separates := by decide

def disjuncts : Listing .logicalAnd .disjuncts .or where
  last := .lastDisjunct
  more := .moreDisjuncts
  last_tokens _ := rfl
  more_tokens _ _ _ := rfl
  cases
    | .lastDisjunct c => .inl ⟨c, rfl⟩
    | .moreDisjuncts c or cs => .inr ⟨c, or, cs, rfl⟩
  joins := by decide
  ends _ follows := (Bool.and_eq_true_iff.mp follows).1
  separates := by decide

variable {item list : Symbol} {k : TokenKind} (listing : Listing item list k)
  {p : TokenKind → Bool} {x us : List Token} {t : Derivation item} {m : Mark k}

include listing

theorem viable_last (viable : Viable item x) : Viable list x := by
  obtain ⟨t, more, tokens⟩ := viable
  exact ⟨listing.last t, more, by rw [listing.last_tokens, tokens]⟩

theorem viable_more (t : Derivation item) (m : Mark k) (viable : Viable list x) :
    Viable list (t.tokens ++ m.token :: x) := by
  obtain ⟨ts, more, tokens⟩ := viable
  exact ⟨listing.more t m ts, more, by simp [listing.more_tokens, tokens]⟩

theorem admits_item (ends : ∀ k, p k → list.mayPrecede k) (admits : Admits p list x) :
    Admits item.mayPrecede item x := by
  obtain ⟨ts, rest, more, first, same⟩ := admits
  rcases listing.cases ts with ⟨t, rfl⟩ | ⟨t, m, ts', rfl⟩
  · rw [listing.last_tokens] at same
    exact ⟨t, rest, more, fun u member => listing.ends _ (ends _ (first u member)), same⟩
  · rw [listing.more_tokens, List.append_assoc] at same
    exact ⟨t, _, more, Follows.mark m listing.joins, same⟩

theorem admits_tail (ends : ∀ k, p k → list.mayPrecede k) (stops : Stops t (m.token :: us))
    (admits : Admits p list (t.tokens ++ m.token :: x)) : Admits p list x := by
  obtain ⟨ts, rest, more, first, same⟩ := admits
  simp only [List.append_assoc, List.cons_append] at same
  rcases listing.cases ts with ⟨t', rfl⟩ | ⟨t', m', ts', rfl⟩
  · rw [listing.last_tokens] at same
    have follows : Follows item rest := fun u member => listing.ends _ (ends _ (first u member))
    obtain ⟨-, rfl⟩ := stops.cut follows same
    exact absurd (m.kind ▸ ends _ (first m.token (by simp))) listing.separates
  · simp only [listing.more_tokens, List.append_assoc, List.cons_append] at same
    obtain ⟨-, rest'⟩ := stops.cut (Follows.mark m' listing.joins) same
    exact ⟨ts', rest, more, first, (List.cons.inj rest').2⟩

theorem stops_last (stops : Stops t us) (other : ∀ u ∈ us.head?, u.kind ≠ k) :
    Stops (listing.last t) us := by
  rintro u member ⟨ts, more, same⟩
  obtain ⟨us, rfl⟩ : ∃ ws, us = u :: ws := by
    cases us <;> simp_all
  rw [listing.last_tokens] at same
  rcases listing.cases ts with ⟨t', rfl⟩ | ⟨t', m', ts', rfl⟩
  · rw [listing.last_tokens] at same
    exact stops.first ⟨t', more, same⟩
  · rw [listing.more_tokens, List.append_assoc] at same
    obtain ⟨-, rest⟩ := stops.cut (Follows.mark m' listing.joins) same
    obtain ⟨rfl, -⟩ := List.cons.inj rest
    exact other _ member m'.kind

theorem stops_more {ts : Derivation list} (stops : Stops t (m.token :: (ts.tokens ++ us)))
    (tail : Stops ts us) : Stops (listing.more t m ts) us := by
  rintro u member ⟨ts', more, same⟩
  simp only [listing.more_tokens, List.append_assoc, List.cons_append] at same
  rcases listing.cases ts' with ⟨t', rfl⟩ | ⟨t', m', ts', rfl⟩
  · rw [listing.last_tokens] at same
    obtain ⟨-, nothing⟩ := stops.cut .nil ((List.append_nil _).trans same)
    contradiction
  · rw [listing.more_tokens] at same
    obtain ⟨-, rest⟩ := stops.cut (Follows.mark m' listing.joins) same
    exact tail u member ⟨ts', more, by simpa using (List.cons.inj rest).2⟩

end Listing

def Mark.bare (k : TokenKind) : Mark k := ⟨⟨k, 0, []⟩, (), by simp [fixed]⟩

namespace Derivation

def star : Derivation .selectors := .lastSelector (.wildcardSelector (.bare .wildcard))

def bracketedStar : Derivation .bracketedSelection :=
  .bracketedSelection (.bare .lbracket) star (.bare .rbracket)

def currentNode : Derivation .filterQuery :=
  .filterQuery ⟨⟨.current, 0, []⟩, .current, rfl⟩ .noSegment

def currentTest : Derivation .basicExpr := .test (.queryTest currentNode)

def conjunct (t : Derivation .basicExpr) : Derivation .logicalAnd := .logicalAnd (.lastConjunct t)

def disjunct (t : Derivation .basicExpr) : Derivation .logicalExpr :=
  .logicalExpr (.lastDisjunct (conjunct t))

def currentArgument : Derivation .functionArgument := .logicalArgument (disjunct currentTest)

def emptyFunction : Derivation .functionExpr :=
  .emptyCall ⟨⟨.name "f", 0, []⟩, "f", rfl⟩ (.bare .lparen) (.bare .rparen)

def sample : (s : Symbol) → Derivation s
  | .query => .query (.bare .root) .noSegment
  | .segments => .noSegment
  | .segment => .childBracketed bracketedStar
  | .bracketedSelection => bracketedStar
  | .selectors => star
  | .selector => .wildcardSelector (.bare .wildcard)
  | .logicalExpr => disjunct currentTest
  | .disjuncts => .lastDisjunct (conjunct currentTest)
  | .logicalAnd => conjunct currentTest
  | .conjuncts => .lastConjunct currentTest
  | .basicExpr => currentTest
  | .parenExpr => .parenExpr (.bare .lparen) (disjunct currentTest) (.bare .rparen)
  | .testExpr => .queryTest currentNode
  | .comparable => .queryComparable currentNode
  | .filterQuery => currentNode
  | .functionExpr => emptyFunction
  | .arguments => .lastArgument currentArgument
  | .functionArgument => currentArgument

end Derivation

theorem viable_nil (s : Symbol) : Viable s [] := ⟨.sample s, _, rfl⟩

end Grammar

end JsonPath
