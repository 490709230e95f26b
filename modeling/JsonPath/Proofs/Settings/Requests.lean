import JsonPath.Command.Program
import JsonPath.Proofs.Command.EntryPoints
import JsonPath.Proofs.Settings.Defaults

namespace JsonPath

open Session (answer)
open Settings (savedText)

namespace QueryRequest

def settings (r : QueryRequest) : List (String × Value) := [
  ("--offset", .int r.offset),
  ("--max-results", .int r.maxResults),
  ("--max-depth", .int r.maxDepth),
  ("--max-nodes-visited", .int r.maxNodesVisited),
  ("--out", .string r.out)]

end QueryRequest

theorem Format.ofName?_of_blank {s : String} (blank : (trimBlanks s).isEmpty) : ofName? s = none := by
  have empty : trimBlanks s = "" := String.isEmpty_iff.mp blank
  have normal : normalize s = "" := by
    rw [normalize, empty, ← String.toList_inj]
    simp
  rw [ofName?, normal]
  rfl

namespace Settings

theorem setting?_int_isSome {flag key : String} {low : Int}
    (known : intSettings.lookup flag = some (key, low)) {n : Int} :
    (setting? flag (.int n)).isSome ↔ low ≤ n := by
  rw [setting?_int known]
  simp [intOption?, Value.int]

theorem setting?_out_isSome {s : String} :
    (setting? "--out" (.string s)).isSome ↔ (Format.ofName? s).isSome := by
  have noInt : intSettings.lookup "--out" = none := by decide
  have noBool : boolSettings.lookup "--out" = none := by decide
  have isText : textSettings.lookup "--out" = some "out" := by decide
  simp only [setting?, noInt, noBool, isText, Option.bind_some, Option.isSome_map]
  rw [textOption?]
  -- The settings refuse a blank name before they look for a format of that name; there is none.
  by_cases blank : (trimBlanks s).isEmpty
  · simp [blank, Format.ofName?_of_blank blank]
  · cases Format.ofName? s <;> simp [blank]

end Settings

open Settings

theorem QueryRequest.check_eq_ok_iff {r : QueryRequest} :
    (∃ format, r.check = .ok format) ↔ ∀ p ∈ r.settings, (setting? p.1 p.2).isSome := by
  have zero {flag key : String} {n : Int} (known : intSettings.lookup flag = some (key, 0)) :
      (setting? flag (.int n)).isSome ↔ ¬ n < 0 := by
    rw [setting?_int_isSome known, Int.not_lt]
  have one {flag key : String} {n : Int} (known : intSettings.lookup flag = some (key, 1)) :
      (setting? flag (.int n)).isSome ↔ ¬ n < 1 := by
    rw [setting?_int_isSome known, Int.not_lt]
  simp only [settings, List.forall_mem_cons, List.not_mem_nil, false_implies, implies_true, and_true]
  rw [@zero "--offset" "offset" _ rfl, @zero "--max-results" "max_results" _ rfl,
    @one "--max-depth" "max_depth" _ rfl, @one "--max-nodes-visited" "max_nodes_visited" _ rfl,
    setting?_out_isSome]
  unfold check
  split
  · next negative => simp [negative]
  · next offset =>
    split
    · next negative => simp [negative]
    · next results =>
      split
      · next small => simp [small]
      · next depth =>
        split
        · next small => simp [small]
        · next visited =>
          cases Format.ofName? r.out <;> simp [offset, results, depth, visited]

namespace Invocation

def NoneGiven (a : Arguments) : Prop :=
  ∀ p ∈ [Parameter.maxResults, .offset, .maxDepth, .maxNodesVisited, .out], a.text? p = none

abbrev queryDefaults (defaults : Defaults) : Defaults :=
  ((commandDefaults defaults).lookup "query").getD []

theorem lookup_queryDefaults (defaults : Defaults) {key : String} (other : key ≠ "verbose") :
    (queryDefaults defaults).lookup key = defaults.lookup key := by
  change (defaults.filter fun p => p.1 != "verbose").lookup key = _
  induction defaults with
  | nil => rfl
  | cons p defaults ih =>
    obtain ⟨k, v⟩ := p
    by_cases verbose : k = "verbose"
    · subst verbose
      have differs : (key == "verbose") = false := by simpa using other
      simpa [List.lookup_cons, differs] using ih
    · have kept : (k != "verbose") = true := by simpa using verbose
      simp only [List.filter_cons, kept, if_true, List.lookup_cons, ih]

theorem queryRequest?_of_noneGiven {a : Arguments} (none : NoneGiven a) (defaults : Defaults)
    (query : String) (file : Option String) :
    ∃ r, queryRequest? defaults a query file = some r ∧ r.query = query ∧ r.settings = [
      ("--offset", .int ((intDefault? defaults "offset").getD 0)),
      ("--max-results", .int ((intDefault? defaults "max_results").getD 0)),
      ("--max-depth", .int ((intDefault? defaults "max_depth").getD 512)),
      ("--max-nodes-visited", .int ((intDefault? defaults "max_nodes_visited").getD 1000000)),
      ("--out", .string ((textDefault? defaults "out").getD "values"))] := by
  simp only [NoneGiven, List.forall_mem_cons, List.not_mem_nil, false_implies, implies_true,
    and_true] at none
  obtain ⟨maxResults, offset, maxDepth, maxNodesVisited, out⟩ := none
  simp only [queryRequest?, int?, text, maxResults, offset, maxDepth, maxNodesVisited, out,
    Option.bind_eq_bind, Option.bind_some, Option.pure_def, Option.getD_none]
  exact ⟨_, rfl, rfl, rfl⟩

variable {given : List (String × Value)} (distinct : (given.map Prod.fst).Nodup) {defaults : Defaults}
  (accepted : defaults? given = some defaults)

include distinct accepted

theorem setting?_of_lookup {flag key : String} (known : flags.lookup key = some flag)
    (other : key ≠ "color_flag" ∧ key ≠ "verbose") {v : Value}
    (found : (queryDefaults defaults).lookup key = some v) : (setting? flag v).isSome := by
  rw [lookup_queryDefaults defaults other.2, lookup_defaults? distinct accepted] at found
  rcases found with ⟨e, -, sets⟩ | ⟨color, -⟩
  · obtain ⟨known', again⟩ := setting?_sound sets
    have same : flag = e.1 := Option.some.inj (known.symm.trans known')
    simp [same, again]
  · exact absurd color other.1

theorem setting?_intDefault {flag key : String} (known : flags.lookup key = some flag)
    (other : key ≠ "color_flag" ∧ key ≠ "verbose") {base : Int}
    (plain : (setting? flag (.int base)).isSome) :
    (setting? flag (.int ((intDefault? (queryDefaults defaults) key).getD base))).isSome := by
  unfold intDefault?
  split
  · next n found => exact setting?_of_lookup distinct accepted known other found
  · exact plain

theorem setting?_textDefault {flag key : String} (known : flags.lookup key = some flag)
    (other : key ≠ "color_flag" ∧ key ≠ "verbose") {base : String}
    (plain : (setting? flag (.string base)).isSome) :
    (setting? flag (.string ((textDefault? (queryDefaults defaults) key).getD base))).isSome := by
  unfold textDefault?
  split
  · next s found => exact setting?_of_lookup distinct accepted known other found
  · exact plain

theorem queryRequest?_checked {a : Arguments} (none : NoneGiven a) (query : String)
    (file : Option String) :
    ∃ r format, queryRequest? (queryDefaults defaults) a query file = some r ∧ r.query = query ∧
      r.check = .ok format := by
  obtain ⟨r, run, same, settings⟩ := queryRequest?_of_noneGiven none (queryDefaults defaults) query file
  have checks : ∀ p ∈ r.settings, (setting? p.1 p.2).isSome := by
    rw [settings]
    simp only [List.forall_mem_cons, List.not_mem_nil, false_implies, implies_true, and_true]
    exact ⟨setting?_intDefault distinct accepted rfl (by decide) rfl,
      setting?_intDefault distinct accepted rfl (by decide) rfl,
      setting?_intDefault distinct accepted rfl (by decide) rfl,
      setting?_intDefault distinct accepted rfl (by decide) rfl,
      setting?_textDefault distinct accepted rfl (by decide) (by decide +kernel)⟩
  obtain ⟨format, passed⟩ := QueryRequest.check_eq_ok_iff.mpr checks
  exact ⟨r, format, run, same, passed⟩

end Invocation

namespace Settings

/-- A saved query that may be used: its name is not blank, and its text is a query. -/
def SavedValid (e : String × String) : Prop :=
  (trimBlanks e.1).isEmpty = false ∧ ∃ q, Query.parse e.2 ({} : Options).maxExpressionDepth = .ok q

theorem isValidQuery_eq_ok_true_iff {text : String} {log : List LogEntry} :
    (∃ log', Session.isValidQuery text none log = .ok true log') ↔
      ∃ q, Query.parse text ({} : Options).maxExpressionDepth = .ok q := by
  have valid : (∃ log', Session.isValidQuery text none log = .ok true log') ↔
      answer (Session.isValidQuery text none) log = .ok true := by
    unfold answer
    cases Session.isValidQuery text none log <;> simp
  rw [valid, Session.answer_isValidQuery]
  simp only [← Query.ofText_eq_ok_iff]
  have limit : (Session.resolve none (some false)).maxExpressionDepth =
      ({} : Options).maxExpressionDepth := rfl
  rw [limit]
  rcases Query.ofText text ({} : Options).maxExpressionDepth with failure | q
  · cases failure <;> simp [Session.settle, Except.map]
  · simp [Session.settle, Except.map]

theorem savedQueriesValid_iff {saved : SavedQueries} {log : List LogEntry} :
    (∃ log', savedQueriesValid saved log = .ok true log') ↔ ∀ e ∈ saved, SavedValid e := by
  induction saved generalizing log with
  | nil => simp [savedQueriesValid, pure, EStateM.pure]
  | cons e saved ih =>
    obtain ⟨name, text⟩ := e
    rw [List.forall_mem_cons, SavedValid, savedQueriesValid]
    by_cases blank : (trimBlanks name).isEmpty
    · simp [blank, pure, EStateM.pure]
    · rw [if_neg blank]
      simp only [EStateM.bind_eq_ok, blank, true_and]
      constructor
      · rintro ⟨log', valid, middle, run, rest⟩
        cases valid with
        | false => cases rest
        | true => exact ⟨isValidQuery_eq_ok_true_iff.mp ⟨middle, run⟩, ih.mp ⟨log', rest⟩⟩
      · rintro ⟨parsed, later⟩
        obtain ⟨middle, run⟩ : ∃ middle, Session.isValidQuery text none log = .ok true middle :=
          isValidQuery_eq_ok_true_iff.mpr parsed
        obtain ⟨log', rest⟩ : ∃ log', savedQueriesValid saved middle = .ok true log' := ih.mpr later
        exact ⟨log', true, middle, run, rest⟩

theorem compile_of_saved {saved : SavedQueries} (valid : ∀ e ∈ saved, SavedValid e) {r : QueryRequest}
    {format : Format} (checked : r.check = .ok format) (named : r.query ∈ saved.map Prod.fst)
    (t : Transcript) : ∃ c u, r.compile saved t = .ok c u := by
  rw [QueryRequest.compile_eq_ok_iff checked]
  cases found : saved.lookup r.query with
  | none =>
    obtain ⟨e, member, same⟩ := List.mem_map.mp named
    have absent := List.lookup_eq_none_iff.mp found e member
    simp [same] at absent
  | some text =>
    obtain ⟨before, after, rfl, -⟩ := List.lookup_eq_some_iff.mp found
    have resolved : savedText (before ++ (r.query, text) :: after) r.query = text := by
      simp [savedText, resolveQuery, found]
    rw [resolved]
    exact (valid (r.query, text) (by simp)).2

theorem defaults?_singleton {p : String × Value} (valid : (setting? p.1 p.2).isSome) :
    (defaults? [p]).isSome := by
  have other : ¬ IsColor p.1 := by
    intro color
    rw [setting?_of_isColor color] at valid
    contradiction
  have names : ([p].map Prod.fst).Nodup := List.nodup_singleton p.1
  rw [defaults?_isSome_iff names]
  refine ⟨?_, ?_⟩
  · simpa [EntryValid, other] using valid
  · rintro ⟨on, -⟩
    rw [List.mem_singleton] at on
    exact other (.inl (on ▸ rfl))

section

variable {config config' : List (String × Value)}

theorem sections?_of_perm (distinct : (config.map Prod.fst).Nodup) (reordered : config.Perm config') :
    sections? config = sections? config' := by
  have known (unknown : String × Value → Bool) : config.any unknown = config'.any unknown :=
    reordered.any_eq
  simp only [sections?, known, lookup_eq_of_perm distinct reordered]

theorem given_distinct {given : List (String × Value)} {saved : SavedQueries}
    (distinct : (Value.object config).Everywhere Value.NamesDistinct)
    (sections : sections? config = some (given, saved)) : (given.map Prod.fst).Nodup := by
  simp only [sections?, Option.ite_none_left_eq_some] at sections
  obtain ⟨-, sections⟩ := sections
  split at sections
  · next members found =>
    simp only [Option.map_eq_some_iff, Prod.mk.injEq] at sections
    obtain ⟨-, -, rfl, -⟩ := sections
    cases present : config.lookup "defaults" with
    | none =>
      rw [present] at found
      cases found
      exact List.nodup_nil
    | some v =>
      rw [present] at found
      cases found
      have place : (Value.object config).at? [.member "defaults"] = some (.object members) := by
        simp [Value.at?, Value.child?, Value.member?, present]
      exact distinct _ _ place
  · contradiction

end

/-- What settings accept and what the query command takes go together. -/
structure AgreesWithRequests (config : List (String × Value)) : Prop where
  /-- A request that takes its options from accepted defaults passes their checks, and compiles every
  query that was saved with them. -/
  requests : ∀ given saved defaults log log', sections? config = some (given, saved) →
    defaults? given = some defaults → savedQueriesValid saved log = .ok true log' →
    ∀ a query file, Invocation.NoneGiven a → ∃ r format,
      Invocation.queryRequest? (Invocation.queryDefaults defaults) a query file = some r ∧
      r.query = query ∧ r.check = .ok format ∧
      (query ∈ saved.map Prod.fst → ∀ t, ∃ c u, r.compile saved t = .ok c u)
  /-- An option whose value is no default fails the checks of every request. -/
  rejected : ∀ r : QueryRequest, ∀ p ∈ r.settings, defaults? [p] = none →
    ∃ refusal, r.check = .error refusal
  order : (∀ config', config.Perm config' → sections? config = sections? config') ∧
    ∀ given saved, sections? config = some (given, saved) →
      (∀ given', given.Perm given' →
        (defaults? given).map (fun d key => d.lookup key) =
          (defaults? given').map fun d key => d.lookup key) ∧
      ∀ saved', saved.Perm saved' → ∀ log, (∃ log', savedQueriesValid saved log = .ok true log') ↔
        ∃ log', savedQueriesValid saved' log = .ok true log'
  invalid : ∀ given saved, sections? config = some (given, saved) →
    ∀ e ∈ given, ¬ EntryValid e → defaults? given = none

theorem agreesWithRequests {config : List (String × Value)}
    (distinct : (Value.object config).Everywhere Value.NamesDistinct) : AgreesWithRequests config where
  requests given saved defaults log log' sections accepted valid a query file none := by
    obtain ⟨r, format, run, same, checked⟩ :=
      Invocation.queryRequest?_checked (given_distinct distinct sections) accepted none query file
    refine ⟨r, format, run, same, checked, fun named t => ?_⟩
    rw [← same] at named
    exact compile_of_saved (savedQueriesValid_iff.mp ⟨log', valid⟩) checked named t
  rejected r p member rejected := by
    cases checked : r.check with
    | error refusal => exact ⟨refusal, rfl⟩
    | ok format =>
      have valid := QueryRequest.check_eq_ok_iff.mp ⟨format, checked⟩ p member
      have accepted := defaults?_singleton valid
      rw [rejected] at accepted
      contradiction
  order := by
    have names : (config.map Prod.fst).Nodup := distinct [] _ rfl
    refine ⟨fun config' reordered => sections?_of_perm names reordered,
      fun given saved sections => ⟨fun given' reordered =>
        defaults?_of_perm (given_distinct distinct sections) reordered, fun saved' reordered log => ?_⟩⟩
    rw [savedQueriesValid_iff, savedQueriesValid_iff]
    simp only [reordered.mem_iff]
  invalid _ _ sections _ member entry :=
    defaults?_eq_none_of_mem (given_distinct distinct sections) member entry

theorem agreesWithRequests_nodes :
    (Value.object [("queries", .object [("b", .string "$.a")]),
      ("defaults", .object [("--out", .string "nodes"), ("--offset", .int 2)])]).Everywhere
        Value.NamesDistinct ∧
    AgreesWithRequests [("queries", .object [("b", .string "$.a")]),
      ("defaults", .object [("--out", .string "nodes"), ("--offset", .int 2)])] ∧
    sections? [("queries", .object [("b", .string "$.a")]),
      ("defaults", .object [("--out", .string "nodes"), ("--offset", .int 2)])] =
        some ([("--out", .string "nodes"), ("--offset", .int 2)], [("b", "$.a")]) ∧
    (defaults? [("--out", .string "nodes"), ("--offset", .int 2)]).isSome ∧
    ∃ log, savedQueriesValid [("b", "$.a")] [] = .ok true log := by
  have distinct : (Value.object [("queries", .object [("b", .string "$.a")]),
      ("defaults", .object [("--out", .string "nodes"), ("--offset", .int 2)])]).Everywhere
        Value.NamesDistinct := by
    have scalar (v : Value) (isScalar : v.isContainer = false) : v.Everywhere Value.NamesDistinct :=
      Value.namesDistinct_of_scalar isScalar
    refine Value.everywhere_object (by simp [Value.NamesDistinct]) ?_
    simp only [List.forall_mem_cons, List.not_mem_nil, false_implies, implies_true, and_true]
    refine ⟨Value.everywhere_object (by simp [Value.NamesDistinct]) ?_,
      Value.everywhere_object (by simp [Value.NamesDistinct]) ?_⟩
    · simpa using scalar (.string "$.a") rfl
    · simpa using ⟨scalar (.string "nodes") rfl, scalar (.int 2) rfl⟩
  exact ⟨distinct, agreesWithRequests distinct, rfl, by decide +kernel, _, rfl⟩

end Settings

end JsonPath
