import JsonPath.Proofs.Value.Reordered
import JsonPath.Settings

namespace JsonPath

theorem lookup_putMember (name other : String) (v : Value) (members : List (String × Value)) :
    (putMember name v members).lookup other =
      if other = name then some v else members.lookup other := by
  induction members with
  | nil =>
    by_cases same : other = name
    · simp [putMember, same]
    · have differs : (other == name) = false := by simpa using same
      simp [putMember, same, List.lookup_cons, differs]
  | cons p members ih =>
    obtain ⟨n, w⟩ := p
    by_cases here : n = name
    · subst here
      by_cases same : other = n
      · simp [putMember, same]
      · have differs : (other == n) = false := by simpa using same
        simp [putMember, List.lookup_cons, same, differs]
    · rw [putMember, if_neg here]
      by_cases same : other = n
      · subst same
        simp [here]
      · have differs : (other == n) = false := by simpa using same
        simp [List.lookup_cons, differs, ih]

namespace Settings

section

variable {flag key : String} {v w : Value}

def IsColor (flag : String) : Prop := flag = "--color" ∨ flag = "--no-color"

instance (flag : String) : Decidable (IsColor flag) := inferInstanceAs (Decidable (_ ∨ _))

theorem setting?_int {low : Int} (known : intSettings.lookup flag = some (key, low)) (v : Value) :
    setting? flag v = (intOption? (some low) v).map fun n => (key, .int n) := by
  simp only [setting?, known]

theorem setting?_of_isColor (color : IsColor flag) (v : Value) : setting? flag v = none := by
  rcases color with rfl | rfl <;> rfl

theorem setting?_sound (sets : setting? flag v = some (key, w)) :
    flags.lookup key = some flag ∧ setting? flag w = some (key, w) := by
  -- The three tables agree with the one table of flags; that is checked entry by entry.
  have intFlags : ∀ p ∈ intSettings, flags.lookup p.2.1 = some p.1 := by decide
  have boolFlags : ∀ p ∈ boolSettings, flags.lookup p.2 = some p.1 := by decide
  have textFlags : ∀ p ∈ textSettings, flags.lookup p.2 = some p.1 := by decide
  have mem {α : Type} {table : List (String × α)} {a : α} (found : table.lookup flag = some a) :
      (flag, a) ∈ table := by
    obtain ⟨before, after, rfl, -⟩ := List.lookup_eq_some_iff.mp found
    simp
  unfold setting? at sets
  split at sets
  · next key' low known =>
    obtain ⟨n, accepted, same⟩ := Option.map_eq_some_iff.mp sets
    cases same
    refine ⟨intFlags _ (mem known), ?_⟩
    have enough : ¬ (some low).any (n < ·) := by
      unfold intOption? at accepted
      split at accepted
      · simp only [Option.ite_none_left_eq_some, Option.some.injEq] at accepted
        exact accepted.2 ▸ accepted.1
      · contradiction
    simp [setting?_int known, intOption?, Value.int, enough]
  · next unknown =>
    split at sets
    · next key' known =>
      simp only [Option.ite_none_right_eq_some, Option.some.injEq, Prod.mk.injEq] at sets
      obtain ⟨bool, rfl, rfl⟩ := sets
      exact ⟨boolFlags _ (mem known), by simp [setting?, unknown, known, bool]⟩
    · next unknown' =>
      obtain ⟨key', known, texts⟩ := Option.bind_eq_some_iff.mp sets
      obtain ⟨s, accepted, same⟩ := Option.map_eq_some_iff.mp texts
      cases same
      refine ⟨textFlags _ (mem known), ?_⟩
      have same : v = .string s := by
        unfold textOption? at accepted
        split at accepted
        · simp only [Option.ite_none_left_eq_some, Option.some.injEq] at accepted
          rw [accepted.2.2]
        · contradiction
      subst same
      simp [setting?, unknown, unknown', known, accepted]

theorem flag_eq_of_setting? {flag' : String} {v' w' : Value} (sets : setting? flag v = some (key, w))
    (sets' : setting? flag' v' = some (key, w')) : flag = flag' := by
  have same := (setting?_sound sets).1.symm.trans (setting?_sound sets').1
  exact Option.some.inj same

theorem ne_color_of_setting? (sets : setting? flag v = some (key, w)) : key ≠ "color_flag" := by
  rintro rfl
  obtain ⟨known, again⟩ := setting?_sound sets
  have same : flag = "--color/--no-color" := (Option.some.inj known).symm
  subst same
  contradiction

end

section

variable {entries : List (String × Value)} {d d' : Defaults} {key : String} {v : Value}

theorem applySettings?_of_isColor {flag : String} (color : IsColor flag) (value : Value) :
    applySettings? ((flag, value) :: entries) d = applySettings? entries d :=
  if_pos color

theorem applySettings?_of_not_isColor {flag : String} (other : ¬ IsColor flag) (value : Value) :
    applySettings? ((flag, value) :: entries) d =
      (applySetting? flag value d).bind (applySettings? entries) :=
  if_neg other

theorem applySettings?_isSome_iff : (applySettings? entries d).isSome ↔
    ∀ e ∈ entries, ¬ IsColor e.1 → (setting? e.1 e.2).isSome := by
  induction entries generalizing d with
  | nil => simp [applySettings?]
  | cons e entries ih =>
    obtain ⟨flag, value⟩ := e
    rw [List.forall_mem_cons]
    by_cases color : IsColor flag
    · rw [applySettings?_of_isColor color, ih]
      simp [color]
    · rw [applySettings?_of_not_isColor color, applySetting?]
      cases sets : setting? flag value with
      | none => simp [color]
      | some p => simp [ih]

theorem lookup_applySettings? (distinct : (entries.map Prod.fst).Nodup)
    (applied : applySettings? entries d = some d') : d'.lookup key = some v ↔
      (∃ e ∈ entries, setting? e.1 e.2 = some (key, v)) ∨
      (∀ e ∈ entries, ∀ w, setting? e.1 e.2 ≠ some (key, w)) ∧ d.lookup key = some v := by
  induction entries generalizing d with
  | nil =>
    cases applied
    simp
  | cons e entries ih =>
    obtain ⟨flag, value⟩ := e
    obtain ⟨fresh, distinct⟩ := List.nodup_cons.mp distinct
    rw [List.exists_mem_cons_iff, List.forall_mem_cons]
    by_cases color : IsColor flag
    · rw [applySettings?_of_isColor color] at applied
      simp [ih distinct applied, setting?_of_isColor color]
    · rw [applySettings?_of_not_isColor color, applySetting?] at applied
      obtain ⟨d₁, put, applied⟩ := Option.bind_eq_some_iff.mp applied
      obtain ⟨⟨key', w⟩, sets, rfl⟩ := Option.map_eq_some_iff.mp put
      rw [ih distinct applied, lookup_putMember, sets]
      by_cases same : key = key'
      · -- The flags are distinct, so no later entry sets the same parameter again.
        subst same
        have alone : ∀ e ∈ entries, ∀ u, setting? e.1 e.2 ≠ some (key, u) := by
          intro e member u later
          have sameFlag : flag = e.1 := flag_eq_of_setting? sets later
          exact fresh (List.mem_map.mpr ⟨e, member, sameFlag.symm⟩)
        have none : ¬ ∃ e ∈ entries, setting? e.1 e.2 = some (key, v) :=
          fun ⟨e, member, later⟩ => alone e member v later
        have all : (∀ e ∈ entries, ∀ u, setting? e.1 e.2 ≠ some (key, u)) ↔ True := iff_true_intro alone
        simp only [none, all]
        simp
      · have other : key' ≠ key := Ne.symm same
        simp [same, other]

end

section

variable {config config' : List (String × Value)} (distinct : (config.map Prod.fst).Nodup)

def EntryValid (e : String × Value) : Prop :=
  if IsColor e.1 then isBool e.2 else (setting? e.1 e.2).isSome

def Contradictory (config : List (String × Value)) : Prop :=
  ("--color", .bool true) ∈ config ∧ ("--no-color", .bool true) ∈ config

def Sets (config : List (String × Value)) (key : String) (v : Value) : Prop :=
  (∃ e ∈ config, setting? e.1 e.2 = some (key, v)) ∨
    key = "color_flag" ∧ (("--color", .bool true) ∈ config ∧ v = .bool true ∨
      ("--no-color", .bool true) ∈ config ∧ v = .bool false)

include distinct

theorem lookup_eq_some_iff_mem {name : String} {v : Value} :
    config.lookup name = some v ↔ (name, v) ∈ config :=
  ⟨mem_of_lookup_eq_some, lookup_eq_some_of_mem distinct⟩

theorem any_not_isBool_eq_false_iff {flag : String} :
    (config.lookup flag).any (!isBool ·) = false ↔ ∀ v, (flag, v) ∈ config → isBool v := by
  simp only [← lookup_eq_some_iff_mem distinct]
  cases config.lookup flag <;> simp

theorem any_isTrue_iff {flag : String} :
    (config.lookup flag).any isTrue ↔ (flag, .bool true) ∈ config := by
  rw [← lookup_eq_some_iff_mem distinct]
  cases config.lookup flag with
  | none => simp
  | some v => cases v <;> simp [isTrue]

theorem colorDefaults_isSome_iff : (colorDefaults config).isSome ↔
    (∀ e ∈ config, IsColor e.1 → isBool e.2) ∧ ¬ Contradictory config := by
  have bools : (∀ e ∈ config, IsColor e.1 → isBool e.2) ↔
      (config.lookup "--color").any (!isBool ·) = false ∧
        (config.lookup "--no-color").any (!isBool ·) = false := by
    rw [any_not_isBool_eq_false_iff distinct, any_not_isBool_eq_false_iff distinct]
    constructor
    · exact fun all => ⟨fun v member => all _ member (.inl rfl), fun v member => all _ member (.inr rfl)⟩
    · rintro ⟨on, off⟩ ⟨flag, v⟩ member (rfl | rfl)
      · exact on v member
      · exact off v member
  rw [bools, Contradictory, ← any_isTrue_iff distinct, ← any_isTrue_iff distinct, colorDefaults]
  cases (config.lookup "--color").any (!isBool ·) <;> cases (config.lookup "--no-color").any (!isBool ·) <;>
    cases (config.lookup "--color").any isTrue <;> cases (config.lookup "--no-color").any isTrue <;> simp

theorem lookup_colorDefaults {d : Defaults} (accepted : colorDefaults config = some d) {key : String}
    {v : Value} : d.lookup key = some v ↔
      key = "color_flag" ∧ (("--color", .bool true) ∈ config ∧ v = .bool true ∨
        ("--no-color", .bool true) ∈ config ∧ v = .bool false) := by
  simp only [← any_isTrue_iff distinct]
  simp only [colorDefaults, Option.ite_none_left_eq_some] at accepted
  obtain ⟨-, accepted⟩ := accepted
  have one (b : Bool) : ([("color_flag", .bool b)] : Defaults).lookup key = some v ↔
      key = "color_flag" ∧ v = .bool b := by
    by_cases same : key = "color_flag"
    · simp [same, eq_comm]
    · have differs : (key == "color_flag") = false := by simpa using same
      simp [List.lookup_cons, differs, same]
  split at accepted <;> cases accepted <;> next on off => simp [one, on, off]

/-- A section is accepted exactly if all its entries are valid and no two contradict each other. -/
theorem defaults?_isSome_iff : (defaults? config).isSome ↔
    (∀ e ∈ config, EntryValid e) ∧ ¬ Contradictory config := by
  have valid : (∀ e ∈ config, EntryValid e) ↔
      (∀ e ∈ config, IsColor e.1 → isBool e.2) ∧
        ∀ e ∈ config, ¬ IsColor e.1 → (setting? e.1 e.2).isSome := by
    -- Colours are checked apart from the rest, in a pass of their own.
    rw [← forall₂_and]
    refine forall₂_congr fun e _ => ?_
    by_cases color : IsColor e.1 <;> simp [EntryValid, color]
  rw [valid, and_right_comm, ← colorDefaults_isSome_iff distinct, defaults?]
  cases colorDefaults config with
  | none => simp
  | some d => simp [applySettings?_isSome_iff]

theorem lookup_defaults? {d : Defaults} (accepted : defaults? config = some d) {key : String}
    {v : Value} : d.lookup key = some v ↔ Sets config key v := by
  obtain ⟨colors, first, applied⟩ := Option.bind_eq_some_iff.mp accepted
  rw [lookup_applySettings? distinct applied, lookup_colorDefaults distinct first, Sets]
  refine or_congr_right (and_iff_right_of_imp ?_)
  rintro ⟨rfl, -⟩ e - w sets
  exact ne_color_of_setting? sets rfl

theorem defaults?_of_perm (reordered : config.Perm config') :
    (defaults? config).map (fun d key => d.lookup key) =
      (defaults? config').map fun d key => d.lookup key := by
  have distinct' : (config'.map Prod.fst).Nodup := (reordered.map Prod.fst).nodup_iff.mp distinct
  have accepted : (defaults? config).isSome ↔ (defaults? config').isSome := by
    rw [defaults?_isSome_iff distinct, defaults?_isSome_iff distinct']
    simp only [Contradictory, reordered.mem_iff]
  have sets (key : String) (v : Value) : Sets config key v ↔ Sets config' key v := by
    simp only [Sets, reordered.mem_iff]
  rcases first : defaults? config with _ | d <;> rcases second : defaults? config' with _ | d'
  · rfl
  · simp [first, second] at accepted
  · simp [first, second] at accepted
  · refine congrArg some (funext fun key => Option.ext fun v => ?_)
    rw [lookup_defaults? distinct first, lookup_defaults? distinct' second, sets]

theorem defaults?_eq_none_of_mem {e : String × Value} (member : e ∈ config) (invalid : ¬ EntryValid e) :
    defaults? config = none := by
  rw [← Option.not_isSome_iff_eq_none, defaults?_isSome_iff distinct]
  exact fun accepted => invalid (accepted.1 e member)

end

end Settings

end JsonPath
