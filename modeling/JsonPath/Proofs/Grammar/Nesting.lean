import JsonPath.Proofs.Grammar.Checks

namespace JsonPath

namespace Query

def openCount (ts : List Token) : Int :=
  ts.countP (fun t => t.kind = .lparen ∨ t.kind = .lbracket) -
    ts.countP (fun t => t.kind = .rparen ∨ t.kind = .rbracket)

/-- No bracket or parenthesis nests deeper than the limit. -/
def NestsWithin (limit : Int) (ts : List Token) : Prop :=
  ∀ before t after, ts = before ++ t :: after → t.kind = .lparen ∨ t.kind = .lbracket →
    openCount (before ++ [t]) ≤ limit

def NestsWithinFrom (limit depth : Int) (ts : List Token) : Prop :=
  ∀ before t after, ts = before ++ t :: after → t.kind = .lparen ∨ t.kind = .lbracket →
    depth + openCount (before ++ [t]) ≤ limit

theorem openCount_cons (t : Token) (ts : List Token) :
    openCount (t :: ts) = openCount [t] + openCount ts := by
  simp only [openCount, List.countP_cons, List.countP_nil]
  omega

theorem nestsWithinFrom_nil (limit depth : Int) : NestsWithinFrom limit depth [] := by
  intro before t after same
  simp at same

theorem nestsWithinFrom_cons_iff {limit depth : Int} {t : Token} {ts : List Token} :
    NestsWithinFrom limit depth (t :: ts) ↔
      (t.kind = .lparen ∨ t.kind = .lbracket → depth + openCount [t] ≤ limit) ∧
        NestsWithinFrom limit (depth + openCount [t]) ts := by
  constructor
  · intro within
    refine ⟨fun opens => within [] t ts rfl opens, ?_⟩
    rintro before u after rfl opens
    have bound := within (t :: before) u after rfl opens
    rw [List.cons_append, openCount_cons] at bound
    omega
  · rintro ⟨first, within⟩ before u after same opens
    cases before with
    | nil =>
      obtain ⟨rfl, rfl⟩ := List.cons.inj same
      exact first opens
    | cons v before =>
      obtain ⟨rfl, rfl⟩ := List.cons.inj same
      have bound := within before u after rfl opens
      rw [List.cons_append, openCount_cons]
      omega

theorem checkNesting_eq_ok_iff {limit depth : Int} {ts : List Token} :
    checkNesting limit depth ts = .ok () ↔ NestsWithinFrom limit depth ts := by
  induction ts generalizing depth with
  | nil => simp [checkNesting, nestsWithinFrom_nil]
  | cons t ts ih =>
    rw [nestsWithinFrom_cons_iff, checkNesting]
    split
    case h_1 kind | h_2 kind =>
      have opened : openCount [t] = 1 := by simp [openCount, kind]
      rw [opened]
      split
      · simp [kind]
        omega
      · rw [ih]
        simp [kind]
        omega
    case h_3 kind | h_4 kind =>
      have closed : openCount [t] = -1 := by simp [openCount, kind]
      rw [closed, ih]
      simp [kind, Int.sub_eq_add_neg]
    case h_5 notLparen notLbracket notRparen notRbracket =>
      have unchanged : openCount [t] = 0 := by simp_all [openCount]
      rw [unchanged, ih]
      simp_all

theorem checkNesting_eq_ok_iff_nestsWithin {limit : Int} {ts : List Token} :
    checkNesting limit 0 ts = .ok () ↔ NestsWithin limit ts := by
  simp [checkNesting_eq_ok_iff, NestsWithinFrom, NestsWithin]

theorem nestsWithin_iff {limit : Int} {ts : List Token} :
    NestsWithin limit ts ↔ NestsWithinFrom limit 0 ts := by
  simp [NestsWithin, NestsWithinFrom]

theorem openCount_append (ts us : List Token) :
    openCount (ts ++ us) = openCount ts + openCount us := by
  simp only [openCount, List.countP_append]
  omega

theorem nestsWithinFrom_append_iff {limit depth : Int} {ts us : List Token} :
    NestsWithinFrom limit depth (ts ++ us) ↔
      NestsWithinFrom limit depth ts ∧ NestsWithinFrom limit (depth + openCount ts) us := by
  induction ts generalizing depth with
  | nil => simp [nestsWithinFrom_nil, openCount]
  | cons t ts ih =>
    rw [List.cons_append, nestsWithinFrom_cons_iff, nestsWithinFrom_cons_iff, ih,
      openCount_cons t ts, and_assoc, Int.add_assoc]

/-- `t` is the first token that opens more brackets and parentheses than the limit allows. -/
def Exceeds (limit : Int) (ts : List Token) (t : Token) : Prop :=
  ∃ before after, ts = before ++ t :: after ∧ limit < openCount (before ++ [t]) ∧
    ∀ shorter, shorter <+: before → openCount shorter ≤ limit

def ExceedsFrom (limit depth : Int) (ts : List Token) (t : Token) : Prop :=
  ∃ before after, ts = before ++ t :: after ∧ limit < depth + openCount (before ++ [t]) ∧
    ∀ shorter, shorter <+: before → depth + openCount shorter ≤ limit

theorem exceeds_iff {limit : Int} {ts : List Token} {t : Token} :
    Exceeds limit ts t ↔ ExceedsFrom limit 0 ts t := by
  simp [Exceeds, ExceedsFrom]

theorem not_exceedsFrom_nil (limit depth : Int) (t : Token) : ¬ ExceedsFrom limit depth [] t := by
  rintro ⟨before, after, same, -⟩
  simp at same

theorem exceedsFrom_cons_iff {limit depth : Int} (within : depth ≤ limit) {u t : Token}
    {ts : List Token} :
    ExceedsFrom limit depth (u :: ts) t ↔
      (limit < depth + openCount [u] ∧ u = t) ∨
        (depth + openCount [u] ≤ limit ∧ ExceedsFrom limit (depth + openCount [u]) ts t) := by
  constructor
  · rintro ⟨before, after, same, beyond, shorter⟩
    cases before with
    | nil =>
      obtain ⟨rfl, rfl⟩ := List.cons.inj same
      exact .inl ⟨beyond, rfl⟩
    | cons v before =>
      obtain ⟨rfl, rfl⟩ := List.cons.inj same
      refine .inr ⟨shorter [u] (by simp), before, after, rfl, ?_, fun front inside => ?_⟩
      · rw [List.cons_append, openCount_cons] at beyond
        omega
      · have bound := shorter (u :: front) (by simpa using inside)
        rw [openCount_cons] at bound
        omega
  · rintro (⟨beyond, rfl⟩ | ⟨below, before, after, rfl, beyond, shorter⟩)
    · refine ⟨[], ts, rfl, beyond, fun front inside => ?_⟩
      rw [List.prefix_nil.mp inside]
      simpa [openCount] using within
    · refine ⟨u :: before, after, rfl, ?_, fun front inside => ?_⟩
      · rw [List.cons_append, openCount_cons]
        omega
      · cases front with
        | nil => simpa [openCount] using within
        | cons v front =>
          obtain ⟨rfl, rest⟩ := List.cons_prefix_cons.mp inside
          have bound := shorter front rest
          rw [openCount_cons]
          omega

theorem checkNesting_eq_error_iff {limit depth : Int} (within : depth ≤ limit) {ts : List Token}
    {e : ParseError} : checkNesting limit depth ts = .error e ↔
      ∃ t, ExceedsFrom limit depth ts t ∧ e = .fault (.syntactic (.tooDeep limit t.offset)) := by
  induction ts generalizing depth with
  | nil => simp [checkNesting, not_exceedsFrom_nil]
  | cons u ts ih =>
    simp only [exceedsFrom_cons_iff within]
    rw [checkNesting]
    split
    case h_1 kind | h_2 kind =>
      have opened : openCount [u] = 1 := by simp [openCount, kind]
      rw [opened]
      split
      · next beyond => grind [Parser.syntaxError]
      · next below =>
        rw [ih (by omega)]
        grind
    case h_3 kind | h_4 kind =>
      have closed : openCount [u] = -1 := by simp [openCount, kind]
      rw [closed, ih (by omega)]
      grind
    case h_5 notLparen notLbracket notRparen notRbracket =>
      have unchanged : openCount [u] = 0 := by simp_all [openCount]
      rw [unchanged, ih within]
      grind

theorem exists_exceedsFrom_iff {limit depth : Int} (within : depth ≤ limit) {ts : List Token} :
    (∃ t, ExceedsFrom limit depth ts t) ↔ ∃ front, front <+: ts ∧ limit < depth + openCount front := by
  induction ts generalizing depth with
  | nil => simp [not_exceedsFrom_nil, openCount, within]
  | cons u ts ih =>
    simp only [exceedsFrom_cons_iff within]
    by_cases beyond : limit < depth + openCount [u]
    · exact iff_of_true ⟨u, .inl ⟨beyond, rfl⟩⟩ ⟨[u], by simp, beyond⟩
    · have below := Int.not_lt.mp beyond
      simp only [beyond, false_and, below, true_and, false_or]
      rw [ih below]
      constructor
      · rintro ⟨front, inside, larger⟩
        refine ⟨u :: front, by simpa using inside, ?_⟩
        rw [openCount_cons]
        omega
      · rintro ⟨front, inside, larger⟩
        cases front with
        | nil =>
          simp only [openCount, List.countP_nil] at larger
          omega
        | cons v front =>
          obtain ⟨rfl, rest⟩ := List.cons_prefix_cons.mp inside
          refine ⟨front, rest, ?_⟩
          rw [openCount_cons] at larger
          omega

theorem checkNesting_eq_ok_of_fronts {limit : Int} (nonneg : 0 ≤ limit) {ts : List Token}
    (fronts : ∀ front, front <+: ts → openCount front ≤ limit) : checkNesting limit 0 ts = .ok () := by
  cases checked : checkNesting limit 0 ts with
  | ok u => rfl
  | error e =>
    obtain ⟨t, exceeds, -⟩ := (checkNesting_eq_error_iff nonneg).mp checked
    obtain ⟨front, inside, beyond⟩ := (exists_exceedsFrom_iff nonneg).mp ⟨t, exceeds⟩
    have below := fronts front inside
    omega

end Query

end JsonPath
