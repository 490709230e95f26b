import JsonPath.Proofs.Pattern.Derivation
import JsonPath.Proofs.Pattern.Walk

namespace JsonPath

namespace CharTest

def ExcludesOnly (d : Char) (t : CharTest) : Prop := ∀ e, t = .char true e → e = d

theorem mem_excluded {ts : List CharTest} {e : Char} : e ∈ excluded ts ↔ .char true e ∈ ts := by
  induction ts with
  | nil => simp [excluded]
  | cons t ts ih =>
    cases t with
    | char negated c =>
      cases negated with
      | true => simp [excluded, ih]
      | false => simp [excluded, ih]
    | _ => simp [excluded, ih]

theorem anyHolds_iff {ts : List CharTest} {d : Char} (only : ∀ t ∈ ts, t.ExcludesOnly d) (c : Char) :
    anyHolds ts c ↔ ∃ t ∈ ts, t.holds c := by
  have alone {e : Char} (member : .char true e ∈ ts) : c ∈ excluded ts ↔ c = e := by
    rw [mem_excluded]
    constructor
    · intro excluded
      rw [only _ excluded c rfl, only _ member e rfl]
    · rintro rfl
      exact member
  rw [anyHolds, List.any_eq_true]
  refine exists_congr fun t => and_congr_right fun member => ?_
  split
  · simp [holds, alone member]
  · rfl

theorem exists_holds_of_coverAll {ts : List CharTest} (covers : coverAll ts) (c : Char) :
    ∃ t ∈ ts, t.holds c := by
  obtain ⟨t, member, complement⟩ := List.any_eq_true.mp covers
  cases t with
  | category negated name =>
    have member' := List.contains_iff_mem.mp complement
    by_cases holds : Pattern.inCategory name c = negated
    · exact ⟨_, member', by simp [CharTest.holds, holds]⟩
    · exact ⟨_, member, by simp [CharTest.holds, holds]⟩
  | _ => contradiction

end CharTest

namespace Normal

def product (ns : List Normal) : Language Char := (ns.map language).prod

def sum (ns : List Normal) : Language Char := {w | ∃ n ∈ ns, w ∈ n.language}

def total (bs : List (List Normal)) : Language Char := {w | ∃ ns ∈ bs, w ∈ product ns}

theorem mem_sum {ns : List Normal} {w : List Char} : w ∈ sum ns ↔ ∃ n ∈ ns, w ∈ n.language := Iff.rfl

theorem mem_total {bs : List (List Normal)} {w : List Char} : w ∈ total bs ↔ ∃ ns ∈ bs, w ∈ product ns :=
  Iff.rfl

theorem product_cons (n : Normal) (ns : List Normal) : product (n :: ns) = n.language * product ns := by
  rw [product, List.map_cons, List.prod_cons]
  rfl

theorem product_singleton (n : Normal) : product [n] = n.language := by
  rw [product_cons, show product [] = 1 from rfl, mul_one]

theorem product_append (ns ms : List Normal) : product (ns ++ ms) = product ns * product ms := by
  rw [product, List.map_append, List.prod_append]
  rfl

theorem total_singleton (ns : List Normal) : total [ns] = product ns := by
  ext w
  simp [mem_total]

theorem total_append (bs bs' : List (List Normal)) : total (bs ++ bs') = total bs + total bs' := by
  ext w
  simp [Language.mem_add, mem_total, or_and_right, exists_or]

theorem product_items (n : Normal) : product n.items = n.language := by
  induction n with
  | empty => rfl
  | sequence n ns _ ih => rw [items, product_cons, ih, language]
  | _ => exact product_singleton _

theorem language_ofItems (ns : List Normal) : (ofItems ns).language = product ns := by
  induction ns with
  | nil => rfl
  | cons n ns ih =>
    cases ns with
    | nil => rw [ofItems, product_singleton]
    | cons m ns =>
      rw [ofItems, language, ih, ← product_cons]
      exact List.cons_ne_nil m ns

theorem sum_alternatives (n : Normal) : sum n.alternatives = n.language := by
  have alone (m : Normal) : sum [m] = m.language := by
    ext w
    simp [mem_sum]
  induction n with
  | branches n ns _ ih =>
    ext w
    rw [language, Language.mem_add, ← ih, alternatives]
    simp [mem_sum]
  | _ => exact alone _

theorem language_ofAlternatives {ns : List Normal} (nonempty : ns ≠ []) :
    (ofAlternatives ns).language = sum ns := by
  induction ns with
  | nil => contradiction
  | cons n ns ih =>
    cases ns with
    | nil =>
      ext w
      simp [ofAlternatives, mem_sum]
    | cons m ns =>
      ext w
      have others := List.cons_ne_nil m ns
      rw [ofAlternatives, language, Language.mem_add, ih others]
      · simp [mem_sum]
      · exact others

section

variable {tests : CharTest → Prop} {bounds : Nat → Option Nat → Prop}

theorem each_items {n : Normal} (each : n.Each tests bounds) : ∀ m ∈ n.items, m.Each tests bounds := by
  induction n with
  | empty => simp [items]
  | sequence n ns _ ih =>
    intro m member
    rcases List.mem_cons.mp member with rfl | member
    · exact each.1
    · exact ih each.2 m member
  | _ =>
    intro m member
    rwa [List.mem_singleton.mp member]

theorem each_ofItems {ns : List Normal} (each : ∀ n ∈ ns, n.Each tests bounds) :
    (ofItems ns).Each tests bounds := by
  induction ns with
  | nil => trivial
  | cons n ns ih =>
    obtain ⟨first, rest⟩ := List.forall_mem_cons.mp each
    cases ns with
    | nil => exact first
    | cons m ns => exact ⟨first, ih rest⟩

theorem each_alternatives {n : Normal} (each : n.Each tests bounds) :
    ∀ m ∈ n.alternatives, m.Each tests bounds := by
  induction n with
  | branches n ns _ ih =>
    intro m member
    rcases List.mem_cons.mp member with rfl | member
    · exact each.1
    · exact ih each.2 m member
  | _ =>
    intro m member
    rwa [List.mem_singleton.mp member]

theorem each_ofAlternatives {ns : List Normal} (each : ∀ n ∈ ns, n.Each tests bounds) :
    (ofAlternatives ns).Each tests bounds := by
  induction ns with
  | nil => trivial
  | cons n ns ih =>
    obtain ⟨first, rest⟩ := List.forall_mem_cons.mp each
    cases ns with
    | nil => exact first
    | cons m ns => exact ⟨first, ih rest⟩

theorem each_ofTests {ts : List CharTest} (each : ∀ t ∈ ts, tests t) :
    (ofTests ts).Each tests bounds := by
  unfold ofTests
  split
  · trivial
  · split
    · next t _ => exact each t List.mem_cons_self
    · exact each

theorem each_tests {n : Normal} (each : n.Each tests bounds) : ∀ t ∈ n.tests, tests t := by
  unfold Normal.tests
  split
  · simp
  · next t _ =>
    intro u member
    rw [List.mem_singleton.mp member]
    exact each
  · exact each
  · simp

end

theorem language_ofTests {ts : List CharTest} {d : Char} (only : ∀ t ∈ ts, t.ExcludesOnly d) :
    (ofTests ts).language = Letter fun c => ∃ t ∈ ts, t.holds c := by
  unfold ofTests
  split
  · next covers =>
    ext w
    exact exists_congr fun c => and_congr_left fun _ =>
      ⟨fun _ => CharTest.exists_holds_of_coverAll covers c, fun _ => trivial⟩
  · split
    · ext w
      simp [language, Letter]
    · ext w
      exact exists_congr fun c => and_congr_left fun _ => CharTest.anyHolds_iff only c

theorem holds_test (item : ClassItem) (c : Char) : item.test.holds c = item.holds c := by
  cases item with
  | range low lowEscaped high highEscaped =>
    by_cases same : low = high
    · subst same
      have one : c = low ↔ low ≤ c ∧ c ≤ low := by
        rw [and_comm]
        exact ⟨fun same => same ▸ ⟨Char.le_refl c, Char.le_refl c⟩, fun both => Char.le_antisymm both.1 both.2⟩
      rw [Bool.eq_iff_iff]
      simp [ClassItem.test, CharTest.holds, ClassItem.holds, one]
    · simp [ClassItem.test, CharTest.holds, ClassItem.holds, same]
  | _ => simp [ClassItem.test, CharTest.holds, ClassItem.holds]

theorem holds_exclusion (item : ClassItem) (c : Char) : item.exclusion.holds c = !item.holds c := by
  rw [← holds_test]
  cases item with
  | range low lowEscaped high highEscaped =>
    by_cases same : low = high <;> simp [ClassItem.exclusion, ClassItem.test, CharTest.holds, same]
  | _ => simp [ClassItem.exclusion, ClassItem.test, CharTest.holds]

theorem holds_unescaped (item : ClassItem) (c : Char) : item.unescaped.holds c = item.holds c := by
  rw [← holds_test item]
  cases item with
  | range low lowEscaped high highEscaped =>
    by_cases same : low = high <;>
      simp [ClassItem.unescaped, ClassItem.test, CharTest.holds, ClassItem.holds, same]
  | _ => simp [ClassItem.unescaped, ClassItem.test, CharTest.holds, ClassItem.holds]

theorem test_excludesOnly (item : ClassItem) (d : Char) : item.test.ExcludesOnly d := by
  intro e excludes
  cases item with
  | range low lowEscaped high highEscaped =>
    by_cases same : low = high <;> simp [ClassItem.test, same] at excludes
  | _ => cases excludes

/-- A complement whose members do not leave it empty, and which excludes only this character if it excludes
a single one. -/
def PlainClass (d : Char) (negated : Bool) (members : List ClassItem) : Prop :=
  negated = true → CharTest.coverAll (members.map (·.test)) = false ∧
    ∀ item, members = [item] → item.exclusion.ExcludesOnly d

theorem language_ofClass {d : Char} {negated : Bool} {members : List ClassItem}
    (plain : PlainClass d negated members) :
    (ofClass negated members).language = Letter fun c => members.any (·.holds c) = !negated := by
  cases negated with
  | false =>
    unfold ofClass
    rw [Bool.not_false, Bool.true_or, if_pos rfl, language_ofTests (d := d)]
    · ext w
      refine exists_congr fun c => and_congr_left fun _ => ?_
      simp [holds_test]
    · intro t member
      obtain ⟨item, -, rfl⟩ := List.mem_map.mp member
      exact test_excludesOnly item d
  | true =>
    have leaves := (plain rfl).1
    unfold ofClass
    rw [Bool.not_true, Bool.false_or, leaves, if_neg Bool.false_ne_true]
    split
    · next item =>
      ext w
      exact exists_congr fun c => and_congr_left fun _ => by simp [holds_exclusion]
    · ext w
      exact exists_congr fun c => and_congr_left fun _ => by simp [CharTest.holds, holds_unescaped]

theorem each_ofClass {d : Char} {negated : Bool} {members : List ClassItem}
    {bounds : Nat → Option Nat → Prop} (plain : PlainClass d negated members) :
    (ofClass negated members).Each (·.ExcludesOnly d) bounds := by
  unfold ofClass
  split
  · apply each_ofTests
    intro t member
    obtain ⟨item, -, rfl⟩ := List.mem_map.mp member
    exact test_excludesOnly item d
  · next other =>
    have negates : negated = true := by
      cases negated with
      | true => rfl
      | false => simp at other
    split
    · next item => exact (plain negates).2 item rfl
    · intro e same
      cases same

theorem language_tests {n : Normal} {d : Char} {bounds : Nat → Option Nat → Prop}
    (each : n.Each (·.ExcludesOnly d) bounds) (some : n.tests ≠ []) :
    n.language = Letter fun c => ∃ t ∈ n.tests, t.holds c := by
  unfold Normal.tests at some ⊢
  split
  · simp at some
  · ext w
    simp [language, Letter]
  · ext w
    exact exists_congr fun c => and_congr_left fun _ => CharTest.anyHolds_iff each c
  · simp at some

section

variable {d : Char} {bounds : Nat → Option Nat → Prop}

theorem joinRun_spec {run : List Normal} (each : ∀ n ∈ run, n.Each (·.ExcludesOnly d) bounds)
    (single : ∀ n ∈ run, n.tests ≠ []) :
    sum (joinRun run) = sum run ∧ (∀ n ∈ joinRun run, n.Each (·.ExcludesOnly d) bounds) ∧
      (run ≠ [] → joinRun run ≠ []) := by
  have same (n : Normal) : n ∈ run.eraseDups ↔ n ∈ run := List.mem_eraseDups
  have distinct : sum run.eraseDups = sum run := by
    ext w
    simp only [mem_sum, same]
  unfold joinRun
  split
  · next none =>
    rw [none] at distinct same
    refine ⟨distinct, by simp, fun some => ?_⟩
    obtain ⟨n, member⟩ := List.exists_mem_of_ne_nil run some
    exact absurd ((same n).mpr member) List.not_mem_nil
  · next n one =>
    rw [one] at distinct same
    refine ⟨distinct, fun m member => each m ((same m).mp member), fun _ => List.cons_ne_nil n []⟩
  · have only : ∀ t ∈ run.eraseDups.flatMap Normal.tests, t.ExcludesOnly d := by
      intro t member
      obtain ⟨n, member, inside⟩ := List.mem_flatMap.mp member
      exact each_tests (each n ((same n).mp member)) t inside
    refine ⟨?_, ?_, fun _ => List.cons_ne_nil _ []⟩
    · rw [← distinct]
      ext w
      simp only [mem_sum, List.mem_singleton, exists_eq_left, language_ofTests only]
      constructor
      · rintro ⟨c, ⟨t, member, holds⟩, rfl⟩
        obtain ⟨n, member, inside⟩ := List.mem_flatMap.mp member
        refine ⟨n, member, ?_⟩
        rw [language_tests (each n ((same n).mp member)) (single n ((same n).mp member))]
        exact ⟨c, ⟨t, inside, holds⟩, rfl⟩
      · rintro ⟨n, member, belongs⟩
        rw [language_tests (each n ((same n).mp member)) (single n ((same n).mp member))] at belongs
        obtain ⟨c, ⟨t, inside, holds⟩, rfl⟩ := belongs
        exact ⟨c, ⟨t, List.mem_flatMap.mpr ⟨n, member, inside⟩, holds⟩, rfl⟩
    · intro m member
      rw [List.mem_singleton.mp member]
      exact each_ofTests only

theorem sum_append (ns ms : List Normal) : sum (ns ++ ms) = sum ns + sum ms := by
  ext w
  simp [Language.mem_add, mem_sum, or_and_right, exists_or]

theorem joinNeighbours_spec {run ns : List Normal}
    (each : ∀ n ∈ run ++ ns, n.Each (·.ExcludesOnly d) bounds) (single : ∀ n ∈ run, n.tests ≠ []) :
    sum (joinNeighbours run ns) = sum (run ++ ns) ∧
      (∀ n ∈ joinNeighbours run ns, n.Each (·.ExcludesOnly d) bounds) ∧
      (run ++ ns ≠ [] → joinNeighbours run ns ≠ []) := by
  induction ns generalizing run with
  | nil =>
    rw [List.append_nil] at each ⊢
    exact joinRun_spec each single
  | cons n ns ih =>
    rw [joinNeighbours]
    split
    · next none =>
      obtain ⟨eachRun, eachRest⟩ := List.forall_mem_append.mp each
      obtain ⟨here, eachRest⟩ := List.forall_mem_cons.mp eachRest
      obtain ⟨joined, eachJoined, -⟩ := joinRun_spec eachRun single
      have none : ∀ n ∈ ([] : List Normal), n.tests ≠ [] := by simp
      obtain ⟨more, eachMore, -⟩ := ih eachRest none
      refine ⟨?_, ?_, by simp⟩
      · rw [sum_append, sum_append, joined]
        congr 1
        ext w
        have rest := congrArg (w ∈ ·) more
        simp only [mem_sum, List.nil_append] at rest
        simp [mem_sum, rest]
      · intro m member
        rcases List.mem_append.mp member with member | member
        · exact eachJoined m member
        · rcases List.mem_cons.mp member with rfl | member
          · exact here
          · exact eachMore m member
    · next some =>
      have whole : run ++ n :: ns = run ++ [n] ++ ns := by simp
      rw [whole] at each ⊢
      apply ih each
      intro m member
      rcases List.mem_append.mp member with member | member
      · exact single m member
      · rw [List.mem_singleton.mp member]
        simpa using some

end

theorem commonItems_prefix (ns : List Normal) (others : List (List Normal)) :
    ∀ ms ∈ ns :: others, commonItems ns others <+: ms := by
  induction ns generalizing others with
  | nil =>
    intro ms _
    exact List.nil_prefix
  | cons n ns ih =>
    rw [commonItems]
    split
    · next shared =>
      have heads : ∀ ms ∈ others, ms.head? = some n := by
        have both := (Bool.and_eq_true _ _).mp shared
        simpa using both.2
      intro ms member
      rcases List.mem_cons.mp member with rfl | member
      · exact (List.cons_prefix_cons).mpr ⟨rfl, ih _ ns List.mem_cons_self⟩
      · obtain ⟨tail, rfl⟩ := List.head?_eq_some_iff.mp (heads ms member)
        refine (List.cons_prefix_cons).mpr ⟨rfl, ih _ tail ?_⟩
        exact List.mem_cons_of_mem _ (List.mem_map.mpr ⟨n :: tail, member, rfl⟩)
    · intro ms _
      exact List.nil_prefix

theorem splitBranch_spec {tests : CharTest → Prop} {bounds : Nat → Option Nat → Prop} {ns : List Normal}
    (each : ∀ n ∈ ns, n.Each tests bounds) : total (splitBranch ns) = product ns ∧
      (∀ ms ∈ splitBranch ns, ∀ n ∈ ms, n.Each tests bounds) ∧ splitBranch ns ≠ [] := by
  unfold splitBranch
  split
  · next n rest =>
    refine ⟨?_, ?_, ?_⟩
    · rw [product_singleton, ← sum_alternatives]
      ext w
      simp [mem_total, mem_sum, product_items]
    · intro ms member
      obtain ⟨m, inside, rfl⟩ := List.mem_map.mp member
      exact each_items (each_alternatives (each _ List.mem_cons_self) m inside)
    · simp [alternatives]
  · refine ⟨total_singleton _, ?_, List.cons_ne_nil _ []⟩
    intro ms member
    rwa [List.mem_singleton.mp member]

theorem language_remainder (ns : List Normal) : (remainder ns).language = product ns := by
  unfold remainder
  split
  · rw [language, product_singleton, show (empty : Normal).language = 1 from rfl, mul_one]
  · exact language_ofItems ns

theorem each_remainder {tests : CharTest → Prop} {bounds : Nat → Option Nat → Prop} {ns : List Normal}
    (each : ∀ n ∈ ns, n.Each tests bounds) : (remainder ns).Each tests bounds := by
  unfold remainder
  split
  · exact ⟨each _ List.mem_cons_self, trivial⟩
  · exact each_ofItems each

/-- Branches that begin with the same items, as those items and then what is left of each branch. -/
theorem factored_spec {d : Char} {bounds : Nat → Option Nat → Prop} {bs : List (List Normal)}
    {common : List Normal} (nonempty : bs ≠ []) (shared : ∀ ns ∈ bs, common <+: ns)
    (each : ∀ ns ∈ bs, ∀ n ∈ ns, n.Each (·.ExcludesOnly d) bounds) :
    let rests := bs.map fun ns => remainder (ns.drop common.length)
    product (common ++ [ofAlternatives (joinNeighbours [] rests)]) = total bs ∧
      ∀ n ∈ common ++ [ofAlternatives (joinNeighbours [] rests)], n.Each (·.ExcludesOnly d) bounds := by
  intro rests
  have eachRest : ∀ n ∈ [] ++ rests, n.Each (·.ExcludesOnly d) bounds := by
    intro n member
    obtain ⟨ns, inside, rfl⟩ := List.mem_map.mp member
    exact each_remainder fun m inside' => each ns inside m (List.mem_of_mem_drop inside')
  obtain ⟨joined, eachJoined, some⟩ := joinNeighbours_spec eachRest (by simp)
  have someRest : [] ++ rests ≠ [] := by simp [rests, nonempty]
  constructor
  · rw [product_append, product_singleton, language_ofAlternatives (some someRest), joined]
    ext w
    constructor
    · rintro ⟨u, first, v, ⟨n, member, second⟩, rfl⟩
      obtain ⟨ns, inside, rfl⟩ := List.mem_map.mp member
      obtain ⟨rest, rfl⟩ := shared ns inside
      rw [language_remainder, List.drop_left] at second
      refine ⟨_, inside, ?_⟩
      rw [product_append]
      exact Language.append_mem_mul first second
    · rintro ⟨ns, inside, belongs⟩
      obtain ⟨rest, rfl⟩ := shared ns inside
      rw [product_append] at belongs
      obtain ⟨u, first, v, second, rfl⟩ := belongs
      refine ⟨u, first, v, ⟨_, List.mem_map.mpr ⟨_, inside, rfl⟩, ?_⟩, rfl⟩
      rwa [language_remainder, List.drop_left]
  · intro n member
    rcases List.mem_append.mp member with inside | inside
    · obtain ⟨ns, rest, rfl⟩ := List.exists_cons_of_ne_nil nonempty
      exact each ns List.mem_cons_self n ((shared ns List.mem_cons_self).subset inside)
    · rw [List.mem_singleton.mp inside]
      exact each_ofAlternatives eachJoined

theorem ofBranches_spec {d : Char} {bounds : Nat → Option Nat → Prop} {bs : List (List Normal)}
    (nonempty : bs ≠ []) (each : ∀ ns ∈ bs, ∀ n ∈ ns, n.Each (·.ExcludesOnly d) bounds) :
    product (ofBranches bs) = total bs ∧
      ∀ n ∈ ofBranches bs, n.Each (·.ExcludesOnly d) bounds := by
  unfold ofBranches
  split
  · contradiction
  · next ns =>
    rw [total_singleton]
    exact ⟨rfl, each ns List.mem_cons_self⟩
  · have split : total (bs.flatMap splitBranch) = total bs := by
      ext w
      constructor
      · rintro ⟨ms, member, belongs⟩
        obtain ⟨ns, inside, member⟩ := List.mem_flatMap.mp member
        refine ⟨ns, inside, ?_⟩
        rw [← (splitBranch_spec (each ns inside)).1]
        exact ⟨ms, member, belongs⟩
      · rintro ⟨ns, inside, belongs⟩
        rw [← (splitBranch_spec (each ns inside)).1] at belongs
        obtain ⟨ms, member, belongs⟩ := belongs
        exact ⟨ms, List.mem_flatMap.mpr ⟨ns, inside, member⟩, belongs⟩
    have eachSplit : ∀ ms ∈ bs.flatMap splitBranch, ∀ n ∈ ms, n.Each (·.ExcludesOnly d) bounds := by
      intro ms member
      obtain ⟨ns, inside, member⟩ := List.mem_flatMap.mp member
      exact (splitBranch_spec (each ns inside)).2.1 ms member
    have someSplit : bs.flatMap splitBranch ≠ [] := by
      obtain ⟨ns, rest, rfl⟩ := List.exists_cons_of_ne_nil nonempty
      have some := (splitBranch_spec (each ns List.mem_cons_self)).2.2
      simp [some]
    rw [← split]
    apply factored_spec someSplit
    · obtain ⟨c, cs, same⟩ := List.exists_cons_of_ne_nil someSplit
      rw [same]
      exact commonItems_prefix c cs
    · exact eachSplit

end Normal

namespace Pattern

theorem repeats_one {low : Nat} {high? : Option Nat} (ordered : ∀ high ∈ high?, low ≤ high) :
    Repeats 1 low high? = 1 := by
  ext w
  constructor
  · rintro ⟨n, -, -, member⟩
    rwa [one_pow] at member
  · intro member
    exact ⟨low, Nat.le_refl low, ordered, by rwa [one_pow]⟩

theorem repeats_once (l : Language Char) : Repeats l 1 (some 1) = l := by
  ext w
  constructor
  · rintro ⟨n, least, most, member⟩
    rwa [Nat.le_antisymm (most 1 rfl) least, pow_one] at member
  · intro member
    exact ⟨1, Nat.le_refl 1, by simp, by rwa [pow_one]⟩

theorem high_of_inOrder {q : Quantifier} (ordered : q.InOrder) : ∀ high ∈ q.high?, q.low ≤ high := by
  intro high same
  cases q <;> cases same
  · exact Nat.zero_le 1
  · exact Nat.le_refl _
  · exact ordered

theorem language_of_isHollow {p : Pattern} (ordered : p.InOrder) (hollow : p.isHollow) :
    p.language = 1 := by
  induction p with
  | empty => rfl
  | group p ih => exact ih ordered hollow
  | quantified p q ih => rw [language, ih ordered.1 hollow, repeats_one (high_of_inOrder ordered.2)]
  | sequence p ps ih ih' =>
    obtain ⟨first, rest⟩ := (Bool.and_eq_true _ _).mp hollow
    rw [language, ih ordered.1 first, ih' ordered.2 rest, mul_one]
  | alternatives p ps ih ih' =>
    obtain ⟨first, rest⟩ := (Bool.and_eq_true _ _).mp hollow
    rw [language, ih ordered.1 first, ih' ordered.2 rest]
    ext w
    rw [Language.mem_add, or_self]
  | _ => contradiction

def Plain (d : Char) : Pattern → Prop := Each (Normal.PlainClass d) fun _ => True

def Sane (d : Char) : Normal → Prop :=
  Normal.Each (·.ExcludesOnly d) fun low high? => ∀ high ∈ high?, low ≤ high

/-- Branches of sane forms, one of them at least, have this language together. -/
structure Forms (d : Char) (bs : List (List Normal)) (l : Language Char) : Prop where
  language : Normal.total bs = l
  sane : ∀ ns ∈ bs, ∀ n ∈ ns, Sane d n
  nonempty : bs ≠ []

namespace Forms

variable {d : Char} {bs bs' : List (List Normal)} {l l' : Language Char}

theorem branch {ns : List Normal} (same : Normal.product ns = l) (sane : ∀ n ∈ ns, Sane d n) :
    Forms d [ns] l := by
  refine ⟨?_, ?_, List.cons_ne_nil _ []⟩
  · rw [Normal.total_singleton, same]
  · intro ms member
    rw [List.mem_singleton.mp member]
    exact sane

theorem item {n : Normal} (same : n.language = l) (sane : Sane d n) : Forms d [[n]] l := by
  apply branch
  · rw [Normal.product_singleton, same]
  · intro m member
    rw [List.mem_singleton.mp member]
    exact sane

theorem joined (forms : Forms d bs l) :
    Normal.product (Normal.ofBranches bs) = l ∧ ∀ n ∈ Normal.ofBranches bs, Sane d n := by
  rw [← forms.language]
  exact Normal.ofBranches_spec forms.nonempty forms.sane

theorem sequence (first : Forms d bs l) (rest : Forms d bs' l') :
    Forms d [Normal.ofBranches bs ++ Normal.ofBranches bs'] (l * l') := by
  obtain ⟨same, sane⟩ := first.joined
  obtain ⟨same', sane'⟩ := rest.joined
  apply branch
  · rw [Normal.product_append, same, same']
  · exact List.forall_mem_append.mpr ⟨sane, sane'⟩

theorem alternatives (first : Forms d bs l) (rest : Forms d bs' l') : Forms d (bs ++ bs') (l + l') := by
  refine ⟨?_, List.forall_mem_append.mpr ⟨first.sane, rest.sane⟩, by simp [first.nonempty]⟩
  rw [Normal.total_append, first.language, rest.language]

theorem repeated (body : Forms d bs l) {low : Nat} {high? : Option Nat}
    (bounds : ∀ high ∈ high?, low ≤ high) :
    Forms d [[.repeated (.ofItems (Normal.ofBranches bs)) low high?]] (Repeats l low high?) := by
  obtain ⟨same, sane⟩ := body.joined
  apply item
  · rw [Normal.language, Normal.language_ofItems, same]
  · exact ⟨Normal.each_ofItems sane, bounds⟩

end Forms

/-- A body that takes part once, or has no text but the empty one, stands for its repetition. -/
theorem repeats_of_once {p : Pattern} {q : Quantifier} (ordered : p.InOrder) (inOrder : q.InOrder)
    (once : p.isHollow || (q.low = 1 && q.high? = some 1)) :
    Repeats p.language q.low q.high? = p.language := by
  rcases (Bool.or_eq_true _ _).mp once with hollow | single
  · rw [language_of_isHollow ordered hollow, repeats_one (high_of_inOrder inOrder)]
  · have both : q.low = 1 ∧ q.high? = some 1 := by simpa using single
    rw [both.1, both.2, repeats_once]

theorem branchForms_spec {d : Char} {p : Pattern} (ordered : p.InOrder) (plain : p.Plain d) :
    Forms d p.branchForms p.language := by
  induction p with
  | empty => exact .branch rfl (by simp)
  | char c escaped =>
    apply Forms.item
    · rw [language, ← letter_eq]
      exact letter_congr fun c => by simp [CharTest.holds]
    · intro e same
      cases same
  | dot =>
    apply Forms.item
    · exact letter_congr fun c => by simp [CharTest.holds, ClassItem.holds]
    · intro e same
      cases same
  | set negated items =>
    apply Forms.item
    · rw [Normal.language_ofClass plain]
      cases negated with
      | true => exact letter_congr fun c => by simp
      | false => exact letter_congr fun c => by simp
    · exact Normal.each_ofClass plain
  | category negated name =>
    apply Forms.item
    · exact letter_congr fun c => by cases negated <;> simp [CharTest.holds]
    · intro e same
      cases same
  | group p ih =>
    obtain ⟨same, sane⟩ := (ih ordered plain).joined
    exact .branch same sane
  | quantified p q ih =>
    have body := ih ordered.1 plain.1
    rw [branchForms, language]
    split
    · next once =>
      rw [repeats_of_once ordered.1 ordered.2 once]
      obtain ⟨same, sane⟩ := body.joined
      exact .branch same sane
    · exact body.repeated (high_of_inOrder ordered.2)
  | sequence p ps ih ih' => exact (ih ordered.1 plain.1).sequence (ih' ordered.2 plain.2)
  | alternatives p ps ih ih' => exact (ih ordered.1 plain.1).alternatives (ih' ordered.2 plain.2)

theorem normal_spec {d : Char} {p : Pattern} (ordered : p.InOrder) (plain : p.Plain d) :
    p.normal.language = p.language ∧ Sane d p.normal := by
  obtain ⟨same, sane⟩ := (branchForms_spec ordered plain).joined
  exact ⟨by rw [normal, Normal.language_ofItems, same], Normal.each_ofItems sane⟩

end Pattern

end JsonPath
