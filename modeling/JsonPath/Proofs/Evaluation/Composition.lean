import JsonPath.Proofs.Evaluation.Descent
import JsonPath.Proofs.Evaluation.Visits
import Mathlib.Algebra.GroupWithZero.Nat

namespace JsonPath

namespace Eval

section

variable {scope : Scope}

theorem segments_append (first rest : List Segment) (nodes : List Node) :
    segments scope (first ++ rest) nodes = segments scope first nodes >>= segments scope rest := by
  induction first generalizing nodes with
  | nil => rw [List.nil_append, segments, pure_bind]
  | cons s first ih =>
    rw [List.cons_append, segments, segments, bind_assoc]
    congr 1
    funext nodes
    exact ih nodes

theorem segment_append (s : Segment) (nodes nodes' : List Node) :
    segment scope s (nodes ++ nodes') = (do
      let here ← segment scope s nodes
      let more ← segment scope s nodes'
      return here ++ more) := by
  cases s with
  | child ss => simp only [segment, flatMap_append]
  | descendant ss => simp only [segment, flatMap_append]

theorem segments_of_no_nodes (ss : List Segment) : segments scope ss [] = pure [] := by
  have segment_none (s : Segment) : segment scope s [] = pure [] := by
    cases s <;> rw [segment, flatMap]
  induction ss with
  | nil => rw [segments]
  | cons s ss ih => rw [segments, segment_none, pure_bind, ih]

theorem segment_steady (s : Segment) (nodes : List Node) :
    Steady scope.options (segment scope s nodes) :=
  (Steady.congruence scope.options).segment s nodes

theorem segments_steady (ss : List Segment) (nodes : List Node) :
    Steady scope.options (segments scope ss nodes) :=
  (Steady.congruence scope.options).segments ss nodes

theorem query_steady (q : Query) (current : Node) : Steady scope.options (query scope q current) :=
  (Steady.congruence scope.options).query q current

variable {nodes nodes' ns ns' here more : List Node} {start start' cost cost' : Nat}

theorem Spends.of_segment_append {s : Segment}
    (spends : Spends scope.options start (segment scope s (nodes ++ nodes')) ns cost) :
    ∃ here more c c', Spends scope.options start (segment scope s nodes) here c ∧
      Spends scope.options (start + c) (segment scope s nodes') more c' ∧ here ++ more = ns ∧
      c + c' = cost := by
  rw [segment_append] at spends
  obtain ⟨here, c, left, first, rest, rfl⟩ := spends.of_bind (segment_steady s nodes) fun here =>
    (segment_steady s nodes').bind fun more => .pure (here ++ more)
  obtain ⟨more, c', none, second, last, rfl⟩ := rest.of_bind (segment_steady s nodes') fun more =>
    .pure (here ++ more)
  obtain ⟨rfl, rfl⟩ := Spends.pure_iff.mp last
  exact ⟨here, more, c, c', first, second, rfl, rfl⟩

theorem Spends.segment_append {s : Segment}
    (first : Spends scope.options start (segment scope s nodes) here cost)
    (second : Spends scope.options (start + cost) (segment scope s nodes') more cost') :
    Spends scope.options start (segment scope s (nodes ++ nodes')) (here ++ more) (cost + cost') := by
  rw [Eval.segment_append]
  refine first.bind (segment_steady s nodes)
    (fun here => (segment_steady s nodes').bind fun more => .pure (here ++ more)) ?_ (Nat.le_refl _)
  exact second.bind (segment_steady s nodes') (fun more => .pure (here ++ more))
    (Spends.pure_iff.mpr ⟨rfl, rfl⟩) (Nat.le_refl _)

/-- A run on two lists of nodes is a run on each. Segment by segment the second list is visited later
than on its own, so it has fewer visits left. -/
theorem Spends.of_segments_append {ss : List Segment}
    (spends : Spends scope.options start (segments scope ss (nodes ++ nodes')) ns cost) :
    ∃ here more c c', Spends scope.options start (segments scope ss nodes) here c ∧
      Spends scope.options start (segments scope ss nodes') more c' ∧ here ++ more = ns ∧
      c + c' = cost := by
  induction ss generalizing nodes nodes' ns start cost with
  | nil =>
    rw [segments] at spends
    obtain ⟨rfl, rfl⟩ := Spends.pure_iff.mp spends
    refine ⟨nodes, nodes', 0, 0, ?_, ?_, rfl, rfl⟩
    · rw [segments]
      exact Spends.pure_iff.mpr ⟨rfl, rfl⟩
    · rw [segments]
      exact Spends.pure_iff.mpr ⟨rfl, rfl⟩
  | cons s ss ih =>
    rw [segments] at spends
    obtain ⟨middle, a, b, first, rest, rfl⟩ :=
      spends.of_bind (segment_steady s _) (segments_steady ss)
    obtain ⟨x, y, c, c', firstHere, firstMore, rfl, rfl⟩ := first.of_segment_append
    obtain ⟨here, more, d, d', restHere, restMore, rfl, rfl⟩ := ih rest
    have firstAlone : Spends scope.options start (segment scope s nodes') y c' :=
      firstMore.from_start (segment_steady s nodes') (.inl (by omega))
    refine ⟨here, more, c + d, c' + d', ?_, ?_, rfl, by omega⟩
    · rw [segments]
      exact firstHere.bind (segment_steady s nodes) (segments_steady ss) restHere (by omega)
    · rw [segments]
      exact firstAlone.bind (segment_steady s nodes') (segments_steady ss) restMore (by omega)

theorem Spends.segments_append {ss : List Segment} {start'' : Nat}
    (first : Spends scope.options start (segments scope ss nodes) here cost)
    (second : Spends scope.options start' (segments scope ss nodes') more cost')
    (enough : (start'' + (cost + cost') : Nat) ≤ scope.options.maxNodesVisited) :
    Spends scope.options start'' (segments scope ss (nodes ++ nodes')) (here ++ more)
      (cost + cost') := by
  induction ss generalizing nodes nodes' start start' start'' cost cost' with
  | nil =>
    rw [segments] at first second ⊢
    obtain ⟨rfl, rfl⟩ := Spends.pure_iff.mp first
    obtain ⟨rfl, rfl⟩ := Spends.pure_iff.mp second
    exact Spends.pure_iff.mpr ⟨rfl, rfl⟩
  | cons s ss ih =>
    rw [segments] at first second ⊢
    obtain ⟨x, c, d, firstHere, restHere, rfl⟩ :=
      first.of_bind (segment_steady s nodes) (segments_steady ss)
    obtain ⟨y, c', d', firstMore, restMore, rfl⟩ :=
      second.of_bind (segment_steady s nodes') (segments_steady ss)
    have before : Spends scope.options start'' (segment scope s nodes) x c :=
      firstHere.from_start (segment_steady s nodes) (.inr (by omega))
    have after : Spends scope.options (start'' + c) (segment scope s nodes') y c' :=
      firstMore.from_start (segment_steady s nodes') (.inr (by omega))
    have left : (start'' + (c + c') + (d + d') : Nat) ≤ scope.options.maxNodesVisited := by omega
    have total : c + c' + (d + d') = c + d + (c' + d') := by omega
    rw [← total]
    exact (before.segment_append after).bind (segment_steady s _) (segments_steady ss)
      (ih restHere restMore left) (Nat.le_refl _)

theorem Spends.each_node {ss : List Segment}
    (spends : Spends scope.options start (segments scope ss nodes) ns cost) :
    ∃ parts : List (List Node × Nat),
      List.Forall₂ (fun n part => Spends scope.options 0 (segments scope ss [n]) part.1 part.2)
        nodes parts ∧
      (parts.map Prod.fst).flatten = ns ∧ (parts.map Prod.snd).sum = cost := by
  induction nodes generalizing ns cost with
  | nil =>
    rw [segments_of_no_nodes] at spends
    obtain ⟨rfl, rfl⟩ := Spends.pure_iff.mp spends
    exact ⟨[], .nil, rfl, rfl⟩
  | cons n nodes ih =>
    rw [← List.singleton_append] at spends
    obtain ⟨here, more, c, c', first, second, rfl, rfl⟩ := spends.of_segments_append
    obtain ⟨parts, each, rfl, rfl⟩ := ih second
    have alone : Spends scope.options 0 (segments scope ss [n]) here c :=
      first.from_start (segments_steady ss [n]) (.inl (Nat.zero_le start))
    exact ⟨(here, c) :: parts, .cons alone each, rfl, rfl⟩

theorem Spends.of_each_node {ss : List Segment} {parts : List (List Node × Nat)}
    (each : List.Forall₂ (fun n part => Spends scope.options 0 (segments scope ss [n]) part.1 part.2)
      nodes parts)
    (enough : (start + (parts.map Prod.snd).sum : Nat) ≤ scope.options.maxNodesVisited) :
    Spends scope.options start (segments scope ss nodes) (parts.map Prod.fst).flatten
      (parts.map Prod.snd).sum := by
  induction each with
  | nil =>
    rw [segments_of_no_nodes]
    exact Spends.pure_iff.mpr ⟨rfl, rfl⟩
  | @cons n part nodes parts alone each ih =>
    simp only [List.map_cons, List.sum_cons, List.flatten_cons] at enough ⊢
    rw [← List.singleton_append]
    exact alone.segments_append (ih (by omega)) enough

end

end Eval

namespace Query

/-- Run on its own, with nothing visited or compiled before, a query selects the nodes and charges the
visits. -/
def Selects (q : Query) (scope : Scope) (current : Node) (nodes : List Node) (visits : Nat) : Prop :=
  ∃ p, Eval.query scope q current {} = .ok nodes p ∧ p.visited = visits

/-- What the first segments select, and then the others from each of those nodes, in order. -/
def SelectsInTurn (scope : Scope) (anchor : Anchor) (first rest : List Segment) (current : Node)
    (nodes : List Node) (visits : Nat) : Prop :=
  ∃ middle spent parts, (mk anchor first).Selects scope current middle spent ∧
    List.Forall₂ (fun n (part : List Node × Nat) => (mk .current rest).Selects scope n part.1 part.2)
      middle parts ∧
    (parts.map Prod.fst).flatten = nodes ∧ spent + (parts.map Prod.snd).sum = visits

variable {scope : Scope} {q : Query} {rest : List Segment} {current n : Node} {nodes : List Node}
  {visits : Nat}

theorem selects_iff_spends :
    q.Selects scope current nodes visits ↔
      Eval.Spends scope.options 0 (Eval.query scope q current) nodes visits := by
  have kept : Matcher.CompiledUnder scope.options {} := Matcher.compiledUnder_empty scope.options
  constructor
  · rintro ⟨p, run, rfl⟩
    exact ⟨{}, p, kept, rfl, run, (Nat.zero_add _).symm⟩
  · intro spends
    have again : ∃ q', Eval.query scope q current {} = .ok nodes q' ∧ q'.visited = 0 + visits :=
      spends.run (Eval.query_steady q current) kept (.inl (Nat.le_refl 0))
    simpa [Selects] using again

theorem selects_current_iff : (mk .current rest).Selects scope n nodes visits ↔
    Eval.Spends scope.options 0 (Eval.segments scope rest [n]) nodes visits := by
  rw [selects_iff_spends, Eval.query]

theorem query_append (scope : Scope) (anchor : Anchor) (first rest : List Segment) (current : Node) :
    Eval.query scope (mk anchor (first ++ rest)) current =
      Eval.query scope (mk anchor first) current >>= Eval.segments scope rest := by
  cases anchor with
  | root => rw [Eval.query, Eval.query, Eval.segments_append]
  | current => rw [Eval.query, Eval.query, Eval.segments_append]

/-- Queries compose. To run more segments is to run them from each node selected so far, in order, and
the visits are those of all these runs. This holds wherever an evaluation stands, limits apart. -/
theorem append_selectsInTurn (scope : Scope) (anchor : Anchor) (first rest : List Segment)
    (current : Node) {p : Progress} (kept : p.matcher.CompiledUnder scope.options) :
    (∀ nodes p', Eval.query scope (mk anchor (first ++ rest)) current p = .ok nodes p' →
      ∃ visits, SelectsInTurn scope anchor first rest current nodes visits ∧
        p'.visited = p.visited + visits) ∧
    ∀ nodes visits, SelectsInTurn scope anchor first rest current nodes visits →
      (p.visited + visits : Nat) ≤ scope.options.maxNodesVisited →
      ∃ p', Eval.query scope (mk anchor (first ++ rest)) current p = .ok nodes p' ∧
        p'.visited = p.visited + visits := by
  have steady : Eval.Steady scope.options (Eval.query scope (mk anchor first) current) :=
    Eval.query_steady (mk anchor first) current
  rw [query_append]
  constructor
  · intro nodes p' run
    obtain ⟨cost, spends, charged⟩ :=
      Eval.Spends.of_run (steady.bind (Eval.segments_steady rest)) kept run
    obtain ⟨middle, spent, more, before, after, rfl⟩ := spends.of_bind steady (Eval.segments_steady rest)
    have alone := before.from_start steady (.inl (Nat.zero_le _))
    obtain ⟨parts, each, rfl, rfl⟩ := after.each_node
    exact ⟨_, ⟨middle, spent, parts, selects_iff_spends.mpr alone,
      each.imp fun n part spends => selects_current_iff.mpr spends, rfl, rfl⟩, charged⟩
  · rintro nodes visits ⟨middle, spent, parts, before, each, rfl, rfl⟩ enough
    have alone := selects_iff_spends.mp before
    have here : Eval.Spends scope.options p.visited (Eval.query scope (mk anchor first) current) middle
        spent := alone.from_start steady (.inr (by omega))
    have each' := each.imp fun n part selects => selects_current_iff.mp selects
    have left : (p.visited + spent + (parts.map Prod.snd).sum : Nat) ≤
        scope.options.maxNodesVisited := by omega
    have whole := here.bind steady (Eval.segments_steady rest) (Eval.Spends.of_each_node each' left)
      (Nat.le_refl _)
    exact whole.run (steady.bind (Eval.segments_steady rest)) kept (.inl (Nat.le_refl _))

/-- A pattern that is compiled for the first node only, or for each in a run of its own. -/
theorem append_selectsInTurn_filter :
    let b : Query := .mk .current [.child [.name "b"]]
    let first : List Segment := [.child [.wildcard]]
    let rest : List Segment :=
      [.child [.filter (.call .fullMatch [.query b, .literal (.string "x+")])]]
    let document : Value := .object
      [("a", .array [.object [("b", .string "x")]]),
        ("c", .array [.object [("b", .string "y")], .object [("b", .string "xx")]])]
    let scope : Scope := ⟨document, {}⟩
    ({} : Progress).matcher.CompiledUnder scope.options ∧
      ∃ nodes p', Eval.query scope (mk .root (first ++ rest)) (.root document) {} = .ok nodes p' ∧
        nodes.map Node.path = ["$['a'][0]", "$['c'][1]"] ∧
        ∃ visits, SelectsInTurn scope .root first rest (.root document) nodes visits ∧
          p'.visited = visits := by
  intro b first rest document scope
  have kept : ({} : Progress).matcher.CompiledUnder scope.options :=
    Matcher.compiledUnder_empty scope.options
  have selected : Eval.paths? (Eval.query scope (mk .root (first ++ rest)) (.root document) {}) =
      some ["$['a'][0]", "$['c'][1]"] := by
    decide +kernel
  obtain ⟨nodes, p', run, paths⟩ := Eval.exists_of_paths? selected
  obtain ⟨visits, selects, charged⟩ :=
    (append_selectsInTurn scope .root first rest (.root document) kept).1 nodes p' run
  exact ⟨kept, nodes, p', run, paths, visits, selects, by simpa using charged⟩

end Query

end JsonPath
