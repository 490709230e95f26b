import JsonPath.Proofs.Grammar.Productions
import JsonPath.Proofs.Grammar.Viable

namespace JsonPath

namespace Grammar

open Query.Parser

def Static : ParseError → Prop
  | .fault (.typing _) => True
  | .fault (.syntactic (.integerOutOfRange _ _)) => True
  | .fault (.syntactic (.detachedArguments _ _)) => True
  | _ => False

def refusal : List Token → ParseError
  | [] => .fault (.syntactic (.unexpectedEnd 0))
  | t :: _ =>
    if t.kind = .eof then .fault (.syntactic (.unexpectedEnd t.offset))
    else .fault (.syntactic (.unexpected t.text t.offset))

theorem unexpected_eq {α : Type} (ts : List Token) :
    (unexpected ts : Except ParseError α) = .error (refusal ts) := by
  cases ts with
  | nil => rfl
  | cons t ts =>
    simp only [unexpected, syntaxError, refusal]
    split <;> rfl

theorem unexpected_bind {α β : Type} (ts : List Token) (f : α → Except ParseError β) :
    unexpected ts >>= f = unexpected ts := by
  simp only [unexpected_eq]
  rfl

/-- An error blames the first token that no derivation has after the tokens before it, and that `p`
does not admit behind one. -/
def Refused (p : TokenKind → Bool) (s : Symbol) (ts : List Token) (e : ParseError) : Prop :=
  ∃ before us, ts = before ++ us ∧ e = refusal us ∧ Viable s before ∧
    ∀ u ∈ us.head?, ¬ Admits p s (before ++ [u])

/-- What is read leaves tokens that are accepted, and what is refused breaks a static check or is
blamed on a token. -/
def Answered {α : Type} (accepts : List Token → Prop) (p : TokenKind → Bool) (s : Symbol)
    (ts : List Token) : Except ParseError (α × List Token) → Prop
  | .ok (_, rest) => accepts rest
  | .error e => Static e ∨ Refused p s ts e

def Longest (s : Symbol) (ts rest : List Token) : Prop :=
  ∃ t : Derivation s, ts = t.tokens ++ rest ∧ Stops t rest

def Closed (s : Symbol) (close : TokenKind) (ts rest : List Token) : Prop :=
  ∃ (t : Derivation s) (right : Mark close), ts = t.tokens ++ right.token :: rest

abbrev Judged {α : Type} (p : TokenKind → Bool) (s : Symbol) (ts : List Token)
    (x : Except ParseError (α × List Token)) : Prop :=
  Answered (Longest s ts) p s ts x

namespace Answered

variable {α β γ : Type} {accepts accepts' : List Token → Prop} {p p' : TokenKind → Bool}
  {s s' : Symbol} {whole ts us : List Token}

theorem done (t : Derivation s) (same : ts = t.tokens ++ us) (stops : Stops t us) (a : α) :
    Judged p s ts (.ok (a, us)) :=
  ⟨t, same, stops⟩

theorem refuse (before : List Token) (same : ts = before ++ us) (viable : Viable s before)
    (never : ∀ u ∈ us.head?, ¬ Admits p s (before ++ [u])) :
    Answered accepts p s ts (unexpected us : Except ParseError (α × List Token)) := by
  rw [unexpected_eq]
  exact .inr ⟨before, us, same, rfl, viable, never⟩

theorem bind (before : List Token) (same : whole = before ++ ts)
    {m : Except ParseError (α × List Token)}
    {f : α × List Token → Except ParseError (β × List Token)} (part : Answered accepts p s ts m)
    (viable : ∀ x more, ts = x ++ more → Viable s x → Viable s' (before ++ x))
    (admits : ∀ u x more, ts = u :: (x ++ more) → Admits p' s' (before ++ u :: x) →
      Admits p s (u :: x))
    (next : ∀ a us, m = .ok (a, us) → accepts us → Answered accepts' p' s' whole (f (a, us))) :
    Answered accepts' p' s' whole (m >>= f) := by
  subst same
  rcases m with e | ⟨a, us⟩
  · rcases part with static | ⟨first, us, rfl, rfl, viableFirst, never⟩
    · exact .inl static
    · refine .inr ⟨before ++ first, us, by simp, rfl, viable first us rfl viableFirst, ?_⟩
      intro u member admitted
      obtain ⟨us, rfl⟩ : ∃ ws, us = u :: ws := by
        cases us <;> simp_all
      refine never u member ?_
      rw [List.append_assoc] at admitted
      cases first with
      | nil => exact admits u [] us rfl admitted
      | cons v first => exact admits v (first ++ [u]) us (by simp) admitted
  · exact next a us rfl part

theorem lift (before : List Token) (same : whole = before ++ ts)
    {m : Except ParseError (α × List Token)} (part : Answered accepts p s ts m)
    (viable : ∀ x more, ts = x ++ more → Viable s x → Viable s' (before ++ x))
    (admits : ∀ u x more, ts = u :: (x ++ more) → Admits p' s' (before ++ u :: x) →
      Admits p s (u :: x))
    (next : ∀ us, accepts us → accepts' us) : Answered accepts' p' s' whole m := by
  have run := bind (f := pure) before same part viable admits fun _ us _ accepted => next us accepted
  rwa [bind_pure] at run

theorem andThen {m : Except ParseError (α × List Token)}
    {f : α × List Token → Except ParseError (β × List Token)} (first : Answered accepts p s ts m)
    (next : ∀ a us, m = .ok (a, us) → accepts us → Answered accepts' p s ts (f (a, us))) :
    Answered accepts' p s ts (m >>= f) :=
  bind [] rfl first (fun _ _ _ viable => viable) (fun _ _ _ _ admits => admits) next

theorem inside {before : List Token} (ts : List Token) (same : whole = before ++ ts)
    {wrap : Derivation s → Derivation s'} (wraps : Wraps before ts.head? wrap)
    (fits : ∀ k, p' k → p k) {m : Except ParseError (α × List Token)} (part : Judged p s ts m) :
    Judged p' s' whole m := by
  refine lift before same part ?_ ?_ ?_
  · exact fun x more _ viable => wraps.viable viable
  · exact fun u x more starts admits => wraps.admits (by simp [starts]) fits admits
  · rintro us ⟨t, rfl, stops⟩
    exact ⟨wrap t, by rw [same, wraps.tokens, List.append_assoc], wraps.stops stops⟩

theorem check {c : Except ParseError γ} {f : γ → Except ParseError (α × List Token)}
    (static : ∀ e, c = .error e → Static e) (next : ∀ b, Answered accepts p s ts (f b)) :
    Answered accepts p s ts (c >>= f) := by
  cases c with
  | ok b => exact next b
  | error e => exact .inl (static e rfl)

theorem follow (t : Derivation s) (same : ts = t.tokens ++ us) (stops : Stops t us)
    (ends : ∀ k, p k → s.mayPrecede k) {m : Except ParseError (α × List Token)}
    (next : Answered accepts p s ts m) :
    Answered accepts p s ts (do
      Query.Parser.follow p us
      m) := by
  have viable : Viable s t.tokens := ⟨t, [], by simp⟩
  cases us with
  | nil => exact refuse t.tokens same viable (by simp)
  | cons u us =>
    by_cases first : p u.kind
    · simpa [Query.Parser.follow, first, Bind.bind, Except.bind] using next
    · have refused : Answered accepts p s ts
          (unexpected (u :: us) : Except ParseError (α × List Token)) := by
        refine refuse t.tokens same viable fun v member admits => ?_
        obtain rfl : u = v := by simpa using member
        exact first (stops.admits ends admits)
      rw [unexpected_eq] at refused
      simpa [Query.Parser.follow, first, unexpected_eq, Bind.bind, Except.bind] using refused

end Answered

def Checks {α : Type} (c : Except ParseError α) : Prop := ∀ e, c = .error e → Static e

namespace Checks

variable {α β : Type} {c : Except ParseError α}

theorem ok (a : α) : Checks (.ok a) := nofun

theorem error {e : ParseError} (static : Static e) : Checks (.error e : Except ParseError α) := by
  rintro _ ⟨⟩
  exact static

theorem bind {f : α → Except ParseError β} (first : Checks c) (next : ∀ a, Checks (f a)) :
    Checks (c >>= f) := by
  cases c with
  | ok a => exact next a
  | error e => exact error (first e rfl)

theorem map {f : α → β} (first : Checks c) : Checks (c.map f) := by
  cases c with
  | ok a => exact ok (f a)
  | error e => exact error (first e rfl)

end Checks

theorem checks_integer (n : Int) (offset : Nat) : Checks (checkInteger n offset) := by
  unfold checkInteger
  split
  · exact .ok n
  · exact .error trivial

theorem checks_bound (bound : Option (Int × Nat)) : Checks (checkBound bound) := by
  cases bound with
  | none => exact .ok none
  | some bound => exact (checks_integer bound.1 bound.2).map

theorem checks_logical (c : Condition) : Checks (checkLogical c) := by
  unfold checkLogical
  split
  · split
    · exact .error trivial
    · exact .ok ()
  · exact .ok ()

theorem checks_allLogical (cs : List Condition) : Checks (checkAllLogical cs) := by
  induction cs with
  | nil => exact .ok ()
  | cons c cs ih => exact (checks_logical c).bind fun _ => ih

theorem checks_comparable (offset : Nat) (o : Operand) : Checks (checkComparable offset o) := by
  unfold checkComparable
  split
  · exact .ok ()
  · split
    · exact .ok ()
    · exact .error trivial
  · split
    · exact .ok ()
    · exact .error trivial

theorem checks_arguments (f : Function) (offset place : Nat) (types : List DeclaredType)
    (as : List Argument) : Checks (fitArguments f offset place types as) := by
  induction types generalizing place as with
  | nil => exact .ok []
  | cons type types ih =>
    cases as with
    | nil => exact .ok []
    | cons a as =>
      rw [fitArguments]
      split
      · exact .error trivial
      · exact (ih (place + 1) as).bind fun _ => .ok _

theorem checks_call (name : String) (token paren : Token) (as : List Argument) :
    Checks (checkCall name token paren as) := by
  unfold checkCall
  split
  · exact .error trivial
  · split
    · exact .error trivial
    · split
      · exact .error trivial
      · exact (checks_arguments _ _ _ _ as).bind fun _ => .ok _

namespace Listing

variable {α β : Type} {item list : Symbol} {k : TokenKind} (listing : Listing item list k)
  {accepts accepts' : List Token → Prop} {p : TokenKind → Bool} {ts us : List Token}

include listing

theorem answered_item (ends : ∀ k, p k → list.mayPrecede k)
    {m : Except ParseError (α × List Token)}
    {f : α × List Token → Except ParseError (β × List Token)}
    (first : Judged item.mayPrecede item ts m)
    (next : ∀ a us, Longest item ts us → Answered accepts p list ts (f (a, us))) :
    Answered accepts p list ts (m >>= f) := by
  refine .bind [] rfl first ?_ ?_ fun a us _ longest => next a us longest
  · exact fun x more _ viable => listing.viable_last viable
  · exact fun u x more _ admits => listing.admits_item ends admits

theorem answered_tail {t : Derivation item} {m : Mark k} {a : α}
    {x : Except ParseError (List α × List Token)} (ends : ∀ k, p k → list.mayPrecede k)
    (stops : Stops t (m.token :: us)) (tail : Answered accepts p list us x)
    (next : ∀ rest, accepts rest → accepts' rest) :
    Answered accepts' p list (t.tokens ++ m.token :: us) (do
      let (as, rest) ← x
      return (a :: as, rest)) := by
  refine .bind (t.tokens ++ [m.token]) (by simp) tail ?_ ?_ fun _ rest _ accepted => next rest accepted
  · intro x more _ viable
    simpa using listing.viable_more t m viable
  · rintro v x more rfl admits
    exact listing.admits_tail ends stops (by simpa using admits)

end Listing

section

variable {α : Type} {item list : Symbol} {k : TokenKind} (listing : Listing item list k)
  {read : Reader α} {size : Nat}
  (items : ∀ ts, ts.length ≤ size → Judged item.mayPrecede item ts (read ts))

include listing items

theorem joined_judged {fuel : Nat} {ts : List Token} (small : ts.length ≤ size)
    (enough : ts.length ≤ fuel) : Judged list.mayPrecede list ts (joined read k fuel ts) := by
  induction fuel generalizing ts with
  | zero =>
    obtain rfl : ts = [] := List.length_eq_zero_iff.mp (by omega)
    exact .refuse [] rfl (viable_nil list) (by simp)
  | succ fuel ih =>
    rw [joined]
    refine listing.answered_item (fun _ follows => follows) (items ts small) ?_
    rintro a us ⟨t, rfl, stops⟩
    have same : t.tokens ++ us = (listing.last t).tokens ++ us := by rw [listing.last_tokens]
    cases us with
    | nil => exact .done (listing.last t) same (listing.stops_last stops (by simp)) _
    | cons u us =>
      simp only
      split
      · next marked =>
        simp only [List.length_append, List.length_cons] at small enough
        have tail := @ih us (by omega) (by omega)
        refine listing.answered_tail (m := .of marked) (fun _ follows => follows) stops tail ?_
        rintro rest ⟨ts, rfl, stops'⟩
        exact ⟨listing.more t (.of marked) ts, by simp [listing.more_tokens, Mark.of],
          listing.stops_more stops stops'⟩
      · next other =>
        exact .done (listing.last t) same (listing.stops_last stops (by simpa using other)) _

theorem separated_answered (ofComma : k = .comma) {close : TokenKind}
    (closes : list.mayPrecede close) {fuel : Nat} {ts : List Token} (small : ts.length ≤ size)
    (enough : ts.length ≤ fuel) :
    Answered (Closed list close ts) (· = close) list ts (separated read close fuel ts) := by
  have ends (k : TokenKind) (same : (k = close : Bool)) : list.mayPrecede k := by
    simpa [of_decide_eq_true same] using closes
  induction fuel generalizing ts with
  | zero =>
    obtain rfl : ts = [] := List.length_eq_zero_iff.mp (by omega)
    exact .refuse [] rfl (viable_nil list) (by simp)
  | succ fuel ih =>
    rw [separated]
    refine listing.answered_item ends (items ts small) ?_
    rintro a us ⟨t, rfl, stops⟩
    have viable : Viable list t.tokens := listing.viable_last ⟨t, [], by simp⟩
    cases us with
    | nil => exact .refuse t.tokens rfl viable (by simp)
    | cons u us =>
      simp only
      split
      · next comma =>
        simp only [List.length_append, List.length_cons] at small enough
        have tail := @ih us (by omega) (by omega)
        have marked : u.kind = k := comma.trans ofComma.symm
        refine listing.answered_tail (m := .of marked) ends stops tail ?_
        rintro rest ⟨ts, right, rfl⟩
        exact ⟨listing.more t (.of marked) ts, right, by simp [listing.more_tokens, Mark.of]⟩
      · next other =>
        split
        · next closing => exact ⟨listing.last t, .of closing, by simp [listing.last_tokens, Mark.of]⟩
        · next open' =>
          refine .refuse t.tokens rfl viable fun v member admits => ?_
          obtain rfl : u = v := by simpa using member
          have stops' : Stops (listing.last t) (u :: us) :=
            listing.stops_last stops (by simpa [ofComma] using other)
          rw [← listing.last_tokens] at admits
          exact open' (by simpa using stops'.admits ends admits)

end

end Grammar

end JsonPath
