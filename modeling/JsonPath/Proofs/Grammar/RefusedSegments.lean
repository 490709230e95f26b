import JsonPath.Proofs.Grammar.Refusal
import JsonPath.Proofs.Grammar.Soundness

namespace JsonPath

namespace Grammar

open Query.Parser

theorem integer?_longest (ts : List Token) : ∃ n? us,
    Query.Parser.integer? ts = (placed n?, us) ∧ ts = optionalTokens n? ++ us ∧
      (n? = none → NoInteger us) := by
  cases ts with
  | nil => exact ⟨none, [], rfl, rfl, fun _ => by simp [NoInteger]⟩
  | cons t ts =>
    by_cases number : ∃ n, t.kind = .number (.int n)
    · obtain ⟨n, kind⟩ := number
      refine ⟨some (.ofInteger kind), ts, ?_, rfl, nofun⟩
      simp [Query.Parser.integer?, kind, placed, Leaf.ofInteger]
    · refine ⟨none, t :: ts, ?_, rfl, fun _ => ?_⟩
      · simp only [Query.Parser.integer?]
        split
        · next n kind => exact absurd ⟨n, kind⟩ number
        · rfl
      · intro u member n kind
        obtain rfl : t = u := by simpa using member
        exact number ⟨n, kind⟩

structure SliceForm.Longest (form : SliceForm) (us : List Token) : Prop where
  stop : form.stop = none → NoInteger (stepTokens form.step ++ us)
  colon : form.step = none → ∀ u ∈ us.head?, u.kind ≠ .colon
  step : ∀ c, form.step = some (c, none) → NoInteger us

theorem SliceForm.Longest.step_ends {form : SliceForm} {u : Token} {us more : List Token}
    (longest : form.Longest (u :: us)) (step' : Option (Mark .colon × Option (Leaf integer?))) :
    stepTokens form.step ++ u :: more ≠ stepTokens step' := by
  obtain ⟨start, colon, stop, step⟩ := form
  intro same
  cases step with
  | none =>
    cases step' with
    | none => contradiction
    | some step' =>
      obtain ⟨rfl, -⟩ := List.cons.inj same
      exact longest.colon rfl _ (by simp) step'.1.kind
  | some step =>
    cases step' with
    | none => contradiction
    | some step' =>
      obtain ⟨colon, count⟩ := step
      have last : count = none → NoInteger (u :: more) := fun none =>
        longest.step colon (by rw [none])
      obtain ⟨-, nothing⟩ := optionalTokens_cut last (fun _ => by simp [NoInteger])
        ((List.cons.inj same).2.trans (List.append_nil _).symm)
      contradiction

theorem SliceForm.Longest.stops {form : SliceForm} {us : List Token} (longest : form.Longest us) :
    Stops (.sliceSelector form) us := by
  rintro u member ⟨t', more, same⟩
  obtain ⟨ws, rfl⟩ : ∃ ws, us = u :: ws := by
    cases us <;> simp_all
  cases t' with
  | sliceSelector form' =>
    have heads :
        (stepTokens form.step ++ u :: more).head? = (stepTokens form.step ++ u :: ws).head? := by
      simp [List.head?_append]
    have afterStop : form.stop = none → NoInteger (stepTokens form.step ++ u :: more) :=
      fun none t first => longest.stop none t (heads ▸ first)
    simp only [Derivation.tokens, tokens, List.append_assoc, List.cons_append,
      List.nil_append] at same
    obtain ⟨-, fromColon⟩ := optionalTokens_unique (noInteger_mark form'.colon (by simp) _)
      (noInteger_mark form.colon (by simp) _) same
    obtain ⟨-, afterColon⟩ := List.cons.inj fromColon
    have afterStop' : NoInteger (stepTokens form'.step) := by
      simpa using stepTokens_noInteger .nil form'.step
    obtain ⟨-, fromStep⟩ := optionalTokens_cut (fun _ => afterStop') afterStop afterColon
    exact longest.step_ends form'.step fromStep.symm
  | indexSelector index =>
    obtain ⟨first, others, tokens, -⟩ := form.tokens_eq_cons
    have length := congrArg List.length same
    simp [tokens] at length
  | _ => grind

theorem sliceSelector_judged (form : SliceForm) {ts us : List Token} (same : ts = form.tokens ++ us)
    (longest : form.Longest us) : Judged endsSelector .selector ts (do
      follow endsSelector us
      let start ← checkBound (placed form.start)
      let stop ← checkBound (placed form.stop)
      let step ← checkBound (placed (form.step.bind (·.2)))
      return (Selector.slice start stop step, us)) := by
  refine .follow (.sliceSelector form) same longest.stops (fun _ ends => ends) ?_
  refine .check (checks_bound _) fun start => ?_
  refine .check (checks_bound _) fun stop => ?_
  refine .check (checks_bound _) fun step => ?_
  exact .done (.sliceSelector form) same longest.stops _

theorem slice_judged (start : Option (Leaf integer?)) {t : Token} (colon : t.kind = .colon)
    (ts : List Token) :
    Judged endsSelector .selector (optionalTokens start ++ t :: ts)
      (slice (placed start) (t :: ts)) := by
  obtain ⟨stop, us, stopRead, rfl, afterStop⟩ := integer?_longest ts
  simp only [slice, colon, if_true, stopRead]
  have noStep (us : List Token) (afterStop : stop = none → NoInteger us)
      (noColon : ∀ u ∈ us.head?, u.kind ≠ .colon) :=
    have same : optionalTokens start ++ t :: (optionalTokens stop ++ us) =
        SliceForm.tokens ⟨start, .of colon, stop, none⟩ ++ us := by
      simp [SliceForm.tokens, SliceForm.stepTokens, Mark.of]
    sliceSelector_judged _ same ⟨afterStop, fun _ => noColon, by simp⟩
  cases us with
  | nil => exact noStep [] afterStop (by simp)
  | cons u us =>
    by_cases colon' : u.kind = .colon
    · obtain ⟨step, vs, stepRead, rfl, afterStep⟩ := integer?_longest us
      simp only [colon', if_true, stepRead]
      refine sliceSelector_judged ⟨start, .of colon, stop, some (.of colon', step)⟩ ?_ ?_
      · simp [SliceForm.tokens, SliceForm.stepTokens, Mark.of]
      · refine ⟨fun _ => noInteger_mark (.of colon') (by simp) _, by simp, ?_⟩
        rintro c ⟨⟩
        exact afterStep rfl
    · simp only [colon', if_false]
      exact noStep (u :: us) afterStop (by simpa using colon')

theorem stops_index {index : Leaf integer?} {us : List Token}
    (noColon : ∀ u ∈ us.head?, u.kind ≠ .colon) : Stops (.indexSelector index) us := by
  rintro u member ⟨t', more, same⟩
  cases t' with
  | sliceSelector form =>
    obtain ⟨start, colon, stop, step⟩ := form
    cases start <;> grind [SliceForm.tokens, optionalTokens]
  | _ => grind

theorem index_judged (index : Leaf integer?) {us : List Token}
    (noColon : ∀ u ∈ us.head?, u.kind ≠ .colon) :
    Judged endsSelector .selector (index.token :: us) (do
      follow endsSelector us
      let n ← checkInteger index.value index.token.offset
      return (Selector.index n, us)) := by
  refine .follow (.indexSelector index) rfl (stops_index noColon) (fun _ ends => ends) ?_
  exact .check (checks_integer _ _) fun n => .done (.indexSelector index) rfl (stops_index noColon) _

section

variable {inner : Reader Condition} {size : Nat}
  (inside : ∀ ts, ts.length ≤ size → Judged endsDisjunction .logicalExpr ts (inner ts))

include inside

theorem filter_judged {t : Token} {ts : List Token} (question : t.kind = .question)
    (small : ts.length ≤ size) :
    Judged endsSelector .selector (t :: ts) (do
      let (c, us) ← inner ts
      follow endsSelector us
      checkLogical c
      return (Selector.filter c, us)) := by
  let mark : Mark .question := .of question
  have filter : Wraps [mark.token] ts.head? (.filterSelector mark) := by
    refine ⟨fun _ => rfl, fun u _ t' rest more same => ?_⟩
    cases t' <;> grind
  refine .andThen (.inside _ rfl filter (fun _ => endsDisjunction_of_endsSelector)
    (inside ts small)) ?_
  rintro c us - ⟨t', same, stops⟩
  exact .follow t' same stops (fun _ ends => ends)
    (.check (checks_logical c) fun _ => .done t' same stops _)

theorem selector_judged {ts : List Token} (small : ts.length ≤ size) :
    Judged endsSelector .selector ts (selector inner ts) := by
  cases ts with
  | nil => exact .refuse [] rfl (viable_nil _) (by simp)
  | cons t ts =>
    simp only [List.length_cons] at small
    simp only [selector]
    split
    · next name kind =>
      refine .done (.nameSelector ⟨t, name, by simp [string?, kind]⟩) rfl ?_ _
      rintro u member ⟨t', more, same⟩
      cases t' <;> grind
    · next star =>
      refine .done (.wildcardSelector (.of star)) rfl ?_ _
      rintro u member ⟨t', more, same⟩
      cases t' <;> grind
    · next colon => exact slice_judged none colon ts
    · next n kind =>
      cases ts with
      | nil => exact .refuse [t] rfl ⟨.indexSelector (.ofInteger kind), [], rfl⟩ (by simp)
      | cons u us =>
        simp only
        split
        · next colon => exact slice_judged (some (.ofInteger kind)) colon us
        · next noColon => exact index_judged (.ofInteger kind) (by simpa using noColon)
    · next question => exact filter_judged inside question (by omega)
    · next noString noWildcard noColon noInteger noQuestion =>
      refine .refuse [] rfl (viable_nil _) ?_
      rintro u member ⟨t', rest, more, first, same⟩
      cases t' <;> grind

end

section

variable {inner : Reader Condition} {size : Nat}
  (inside : ∀ ts, ts.length ≤ size → Judged endsDisjunction .logicalExpr ts (inner ts))
  {fuel : Nat} {t : Token} {ts : List Token}

include inside

theorem bracketed_judged (left : t.kind = .lbracket) (small : ts.length ≤ size)
    (enough : ts.length ≤ fuel) :
    Judged (fun _ => true) .bracketedSelection (t :: ts) (bracketed fuel inner ts) := by
  have selectors : Answered (Closed .selectors .rbracket ts) (· = .rbracket) .selectors ts
      (separated (selector inner) .rbracket fuel ts) :=
    separated_answered .selectors (fun ts small => selector_judged inside small) rfl (by decide)
      small enough
  refine .lift [t] rfl selectors ?_ ?_ ?_
  · rintro x more - ⟨ss, after, tokens⟩
    exact ⟨.bracketedSelection (.of left) ss (.bare .rbracket), _, by simp [tokens, Mark.of]; rfl⟩
  · rintro u x more - ⟨t', rest, after, first, same⟩
    cases t' with
    | bracketedSelection left' ss right =>
      refine ⟨ss, right.token :: rest, after, by simp [right.kind], ?_⟩
      simpa using (List.cons.inj same).2
  · rintro us ⟨ss, right, rfl⟩
    exact ⟨.bracketedSelection (.of left) ss right, by simp [Mark.of], .of_free (fun _ => rfl) _ _⟩

omit inside in
theorem childShorthand_judged (dot : t.kind = .dot) :
    Judged (fun _ => true) .segment (t :: ts) (shorthand fuel inner false ts) := by
  have viable : Viable .segment [t] :=
    ⟨.childWildcard (.of dot) (.bare .wildcard), [(Mark.bare .wildcard).token], rfl⟩
  cases ts with
  | nil => exact .refuse [t] rfl viable (by simp)
  | cons u us =>
    simp only [shorthand]
    split
    · next name kind =>
      exact .done (.childName (.of dot) (.ofName kind)) rfl (.of_free (fun _ => rfl) _ _) _
    · next star =>
      exact .done (.childWildcard (.of dot) (.of star)) rfl (.of_free (fun _ => rfl) _ _) _
    all_goals
      refine .refuse [t] rfl viable ?_
      rintro v member ⟨t', rest, more, first, same⟩
      cases t' <;> grind

theorem descendantShorthand_judged (dots : t.kind = .dotdot) (small : ts.length ≤ size)
    (enough : ts.length ≤ fuel) :
    Judged (fun _ => true) .segment (t :: ts) (shorthand fuel inner true ts) := by
  have viable : Viable .segment [t] :=
    ⟨.descendantWildcard (.of dots) (.bare .wildcard), [(Mark.bare .wildcard).token], rfl⟩
  cases ts with
  | nil => exact .refuse [t] rfl viable (by simp)
  | cons u us =>
    simp only [List.length_cons] at small enough
    simp only [shorthand]
    split
    · next name kind =>
      exact .done (.descendantName (.of dots) (.ofName kind)) rfl (.of_free (fun _ => rfl) _ _) _
    · next star =>
      exact .done (.descendantWildcard (.of dots) (.of star)) rfl (.of_free (fun _ => rfl) _ _) _
    · next left =>
      let mark : Mark .dotdot := .of dots
      have bracket : Wraps [mark.token] (some u) (.descendantBracketed mark) := by
        refine ⟨fun _ => rfl, fun v first t' rest more same => ?_⟩
        cases t' <;> grind
      exact .inside (u :: us) rfl bracket (fun _ _ => rfl)
        (bracketed_judged inside left (by omega) (by omega))
    · next noName noWildcard noBracket =>
      refine .refuse [t] rfl viable ?_
      rintro v member ⟨t', rest, more, first, same⟩
      cases t' <;> grind

end

theorem segment_ne_nil (s : Derivation .segment) (more : List Token) : s.tokens ++ more ≠ [] := by
  obtain ⟨first, others, tokens, -⟩ := s.segment_tokens
  simp [tokens]

theorem Stops.moreSegments {s : Derivation .segment} {ss : Derivation .segments} {us : List Token}
    (stops : Stops ss us) : Stops (.moreSegments s ss) us := by
  rintro u member ⟨t', more, same⟩
  cases t' with
  | noSegment => exact segment_ne_nil s (ss.tokens ++ [u] ++ more) (by simpa using same.symm)
  | moreSegments s' ss' =>
    obtain ⟨-, others⟩ := s.unique s' (ss.tokens ++ [u] ++ more) ss'.tokens (.any fun _ => rfl)
      (.any fun _ => rfl) (by simpa using same.symm)
    exact stops u member ⟨ss', more, others.symm⟩

section

variable {t : Token} {ts : List Token}

theorem stops_noSegment (other : ¬ startsSegment t.kind) : Stops .noSegment (t :: ts) := by
  rintro u member ⟨t', more, same⟩
  obtain rfl : t = u := by simpa using member
  cases t' with
  | noSegment => contradiction
  | moreSegments s ss =>
    obtain ⟨first, others, tokens, starts⟩ := s.segment_tokens
    have same : first :: (others ++ ss.tokens) = t :: more := by simpa [tokens] using same
    exact other ((List.cons.inj same).1 ▸ starts)

theorem moreSegments_judged {head : Except ParseError (List Selector × List Token)}
    {read : Reader (List Segment)} {size : Nat} (wrap : List Selector → Segment)
    (starts : startsSegment t.kind) (first : Judged (fun _ => true) .segment (t :: ts) head)
    (tail : ∀ us, us.length ≤ size → Judged Symbol.segments.mayPrecede .segments us (read us))
    (small : ts.length ≤ size) :
    Judged Symbol.segments.mayPrecede .segments (t :: ts) (do
      let (ss, us) ← head
      let (more, us) ← read us
      return (wrap ss :: more, us)) := by
  -- A segment ends by itself, so first it and then the others are judged apart.
  refine .bind [] rfl first ?_ ?_ ?_
  · rintro x more - ⟨s, after, tokens⟩
    exact ⟨.moreSegments s .noSegment, after, by simp [tokens]⟩
  · rintro u x more same ⟨t', rest, after, first, split⟩
    obtain ⟨rfl, -⟩ := List.cons.inj same
    cases t' with
    | noSegment =>
      obtain rfl : rest = t :: (x ++ after) := split
      simpa [Symbol.mayPrecede, starts] using first t (by simp)
    | moreSegments s ss => exact ⟨s, ss.tokens ++ rest, after, by simp, by simpa using split⟩
  · rintro selectors us - ⟨s, same, -⟩
    have shorter : us.length ≤ size := by
      obtain ⟨first, others, tokens, -⟩ := s.segment_tokens
      have lengths := congrArg List.length same
      simp only [tokens, List.length_cons, List.length_append] at lengths
      omega
    refine .bind s.tokens same (tail us shorter) ?_ ?_ ?_
    · rintro x more - ⟨ss, after, tokens⟩
      exact ⟨.moreSegments s ss, after, by simp [tokens]⟩
    · rintro u x more rfl ⟨t', rest, after, first, split⟩
      cases t' with
      | noSegment =>
        exact absurd (by simpa using split) (Derivation.Unique.noSegment_ne (s := s) first)
      | moreSegments s' ss =>
        obtain ⟨-, others⟩ := s.unique s' (u :: x ++ after) (ss.tokens ++ rest) (.any fun _ => rfl)
          (.any fun _ => rfl) (by simpa using split.symm)
        exact ⟨ss, rest, after, first, others.symm⟩
    · rintro more rest - ⟨ss, rfl, stops⟩
      exact .done (.moreSegments s ss) (by simp [same]) stops.moreSegments _

end

theorem segments_judged {inner : Reader Condition} {size fuel : Nat}
    (inside : ∀ ts, ts.length ≤ size → Judged endsDisjunction .logicalExpr ts (inner ts))
    {ts : List Token} (small : ts.length ≤ size) (enough : ts.length ≤ fuel) :
    Judged Symbol.segments.mayPrecede .segments ts (segments inner fuel ts) := by
  induction fuel generalizing ts with
  | zero =>
    obtain rfl : ts = [] := List.length_eq_zero_iff.mp (by omega)
    exact .done .noSegment rfl (by simp [Stops]) _
  | succ fuel ih =>
    cases ts with
    | nil => exact .done .noSegment rfl (by simp [Stops]) _
    | cons t ts =>
      simp only [List.length_cons] at small enough
      have tail (us : List Token) (shorter : us.length ≤ ts.length) :
          Judged Symbol.segments.mayPrecede .segments us (segments inner fuel us) :=
        ih (by omega) (by omega)
      simp only [segments]
      split
      · next dot =>
        exact moreSegments_judged _ (by simp [dot, startsSegment]) (childShorthand_judged dot) tail
          (Nat.le_refl _)
      · next dots =>
        exact moreSegments_judged _ (by simp [dots, startsSegment])
          (descendantShorthand_judged inside dots (by omega) (by omega)) tail (Nat.le_refl _)
      · next left =>
        have bracket : Wraps [] (some t) .childBracketed := by
          refine ⟨fun _ => rfl, fun u first t' rest more same => ?_⟩
          cases t' <;> grind
        refine moreSegments_judged _ (by simp [left, startsSegment]) ?_ tail (Nat.le_refl _)
        exact .inside (t :: ts) rfl bracket (fun _ _ => rfl)
          (bracketed_judged inside left (by omega) (by omega))
      · next noDot noDots noBracket =>
        exact .done .noSegment rfl (stops_noSegment (by simp [startsSegment])) _

end Grammar

end JsonPath
