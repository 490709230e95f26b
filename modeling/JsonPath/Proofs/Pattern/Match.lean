import JsonPath.Proofs.Pattern.Normal
import JsonPath.Proofs.Pattern.Translation

namespace JsonPath

namespace Normal

/-- What a form can begin with: the empty text only if that is told, and other texts only with a
character that one of the items has. -/
def BeginsWith (l : Language Char) (fs : List Normal) (hasEmpty : Bool) : Prop :=
  ([] ∈ l → hasEmpty = true) ∧ ∀ c w, c :: w ∈ l → ∃ f ∈ fs, [c] ∈ f.language

def IsItem (n : Normal) : Prop := (∃ t, n = test t) ∨ ∃ ts, n = anyOf ts

theorem BeginsWith.mul {l m : Language Char} {fs gs : List Normal} {hasEmpty hasEmpty' : Bool}
    (begins : BeginsWith l fs hasEmpty) (begins' : BeginsWith m gs hasEmpty') :
    BeginsWith (l * m) (fs ++ gs) hasEmpty' := by
  constructor
  · rintro ⟨u, -, v, second, whole⟩
    obtain ⟨-, rfl⟩ := List.append_eq_nil_iff.mp whole
    exact begins'.1 second
  · rintro c w ⟨u, first, v, second, whole⟩
    cases u with
    | nil =>
      rw [show v = c :: w from whole] at second
      obtain ⟨f, inside, member⟩ := begins'.2 c w second
      exact ⟨f, List.mem_append_right fs inside, member⟩
    | cons e u =>
      obtain ⟨rfl, -⟩ := List.cons.inj whole
      obtain ⟨f, inside, member⟩ := begins.2 e u first
      exact ⟨f, List.mem_append_left gs inside, member⟩

theorem BeginsWith.mul_of_nonempty {l m : Language Char} {fs : List Normal} {hasEmpty : Bool}
    (begins : BeginsWith l fs hasEmpty) (nonempty : hasEmpty = false) : BeginsWith (l * m) fs false := by
  have none : [] ∉ l := by
    intro member
    rw [begins.1 member] at nonempty
    contradiction
  constructor
  · rintro ⟨u, first, v, -, whole⟩
    obtain ⟨rfl, -⟩ := List.append_eq_nil_iff.mp whole
    exact absurd first none
  · rintro c w ⟨u, first, v, -, whole⟩
    cases u with
    | nil => exact absurd first none
    | cons e u =>
      obtain ⟨rfl, -⟩ := List.cons.inj whole
      exact begins.2 e u first

theorem BeginsWith.repeats {l : Language Char} {fs : List Normal} {hasEmpty : Bool}
    (begins : BeginsWith l fs hasEmpty) (low : Nat) (high? : Option Nat) :
    BeginsWith (Repeats l low high?) fs (hasEmpty || low = 0) := by
  constructor
  · rintro ⟨n, least, -, member⟩
    cases n with
    | zero => simp [Nat.le_zero.mp least]
    | succ n =>
      rw [pow_succ] at member
      obtain ⟨u, -, v, second, whole⟩ := member
      obtain ⟨-, rfl⟩ := List.append_eq_nil_iff.mp whole
      rw [begins.1 second, Bool.true_or]
  · rintro c w ⟨n, -, -, member⟩
    induction n generalizing w with
    | zero => cases member
    | succ n ih =>
      rw [pow_succ] at member
      obtain ⟨u, first, v, second, whole⟩ := member
      cases u with
      | nil =>
        rw [show v = c :: w from whole] at second
        exact begins.2 c w second
      | cons e u =>
        obtain ⟨rfl, -⟩ := List.cons.inj whole
        exact ih u first

theorem BeginsWith.add {l m : Language Char} {fs gs : List Normal} {hasEmpty hasEmpty' : Bool}
    (begins : BeginsWith l fs hasEmpty) (begins' : BeginsWith m gs hasEmpty') :
    BeginsWith (l + m) (fs ++ gs) (hasEmpty || hasEmpty') := by
  constructor
  · rintro (none | none)
    · rw [begins.1 none, Bool.true_or]
    · rw [begins'.1 none, Bool.or_true]
  · rintro c w (member | member)
    · obtain ⟨f, inside, member⟩ := begins.2 c w member
      exact ⟨f, List.mem_append_left gs inside, member⟩
    · obtain ⟨f, inside, member⟩ := begins'.2 c w member
      exact ⟨f, List.mem_append_right fs inside, member⟩

theorem IsItem.beginsWith {n : Normal} (item : IsItem n) : BeginsWith n.language [n] false := by
  obtain ⟨t, rfl⟩ | ⟨ts, rfl⟩ := item <;>
  · constructor
    · rintro ⟨c, -, none⟩
      contradiction
    · rintro c w ⟨e, holds, same⟩
      obtain ⟨rfl, -⟩ := List.cons.inj same
      exact ⟨_, List.mem_cons_self, c, holds, rfl⟩

theorem firsts?_spec {tests : CharTest → Prop} {bounds : Nat → Option Nat → Prop} {n : Normal}
    {fs : List Normal} {hasEmpty : Bool} (found : n.firsts? = some (fs, hasEmpty))
    (each : n.Each tests bounds) :
    BeginsWith n.language fs hasEmpty ∧ ∀ f ∈ fs, IsItem f ∧ f.Each tests bounds := by
  induction n generalizing fs hasEmpty with
  | empty =>
    cases found
    refine ⟨⟨fun _ => rfl, fun c w member => by cases member⟩, by simp⟩
  | any => contradiction
  | test t =>
    cases found
    have item : IsItem (.test t) := .inl ⟨t, rfl⟩
    exact ⟨item.beginsWith, List.forall_mem_singleton.mpr ⟨item, each⟩⟩
  | anyOf ts =>
    cases found
    have item : IsItem (.anyOf ts) := .inr ⟨ts, rfl⟩
    exact ⟨item.beginsWith, List.forall_mem_singleton.mpr ⟨item, each⟩⟩
  | sequence n ns ih ih' =>
    obtain ⟨⟨gs, e⟩, first, found⟩ := Option.bind_eq_some_iff.mp found
    obtain ⟨begins, items⟩ := ih first each.1
    simp only at found
    split at found
    · obtain ⟨⟨hs, e'⟩, rest, found⟩ := Option.bind_eq_some_iff.mp found
      obtain ⟨begins', items'⟩ := ih' rest each.2
      cases found
      exact ⟨begins.mul begins', List.forall_mem_append.mpr ⟨items, items'⟩⟩
    · next nonempty =>
      cases found
      exact ⟨begins.mul_of_nonempty (by simpa using nonempty), items⟩
  | branches n ns ih ih' =>
    obtain ⟨⟨gs, e⟩, first, found⟩ := Option.bind_eq_some_iff.mp found
    obtain ⟨⟨hs, e'⟩, rest, found⟩ := Option.bind_eq_some_iff.mp found
    obtain ⟨begins, items⟩ := ih first each.1
    obtain ⟨begins', items'⟩ := ih' rest each.2
    cases found
    exact ⟨begins.add begins', List.forall_mem_append.mpr ⟨items, items'⟩⟩
  | repeated n low high? ih =>
    obtain ⟨⟨gs, e⟩, body, found⟩ := Option.bind_eq_some_iff.mp found
    obtain ⟨begins, items⟩ := ih body each.1
    cases found
    exact ⟨begins.repeats low high?, items⟩

theorem firstClass?_spec {d : Char} {bounds : Nat → Option Nat → Prop} {n : Normal}
    {ts : List CharTest} (found : n.firstClass? = some ts) (each : n.Each (·.ExcludesOnly d) bounds)
    {w : List Char} (member : w ∈ n.language) : ∃ c v, w = c :: v ∧ CharTest.anyHolds ts c := by
  unfold firstClass? at found
  split at found
  · next fs first =>
    obtain ⟨begins, items⟩ := firsts?_spec first each
    simp only at found
    split at found
    · contradiction
    · cases found
      have only : ∀ t ∈ fs.flatMap itemTests, t.ExcludesOnly d := by
        intro t member
        obtain ⟨f, inside, member⟩ := List.mem_flatMap.mp member
        obtain ⟨⟨u, rfl⟩ | ⟨us, rfl⟩, eachItem⟩ := items f inside
        · rw [List.mem_singleton.mp member]
          exact eachItem
        · exact eachItem t member
      cases w with
      | nil => exact absurd (begins.1 member) Bool.false_ne_true
      | cons c v =>
        refine ⟨c, v, rfl, (CharTest.anyHolds_iff only c).mpr ?_⟩
        obtain ⟨f, inside, one⟩ := begins.2 c v member
        obtain ⟨⟨u, rfl⟩ | ⟨us, rfl⟩, eachItem⟩ := items f inside
        · obtain ⟨e, holds, same⟩ := one
          cases same
          exact ⟨u, List.mem_flatMap.mpr ⟨_, inside, List.mem_cons_self⟩, holds⟩
        · obtain ⟨e, holds, same⟩ := one
          cases same
          obtain ⟨t, member, holds⟩ := (CharTest.anyHolds_iff eachItem c).mp holds
          exact ⟨t, List.mem_flatMap.mpr ⟨_, inside, member⟩, holds⟩
  · contradiction

theorem within_starts (n : Normal) (text : List Char) : Walk.Within text.length (n.starts text) := by
  intro i start
  unfold starts at start
  split at start
  · obtain ⟨c, here, -⟩ := (Walk.testBit_marks _ text i).mp start
    exact Nat.le_of_lt (List.getElem?_eq_some_iff.mp here).1
  · rw [Nat.one_shiftLeft, Nat.testBit_two_pow_sub_one, decide_eq_true_eq] at start
    exact Nat.le_of_lt_succ start

theorem testBit_starts {d : Char} {bounds : Nat → Option Nat → Prop} {n : Normal}
    (each : n.Each (·.ExcludesOnly d) bounds) {text : List Char} {i j : Nat}
    (leads : Leads text n.language i j) : (n.starts text).testBit i := by
  obtain ⟨before, part, after, rfl, rfl, rfl, member⟩ := leads
  unfold starts
  split
  · next ts found =>
    obtain ⟨c, v, rfl, holds⟩ := firstClass?_spec found each member
    exact (Walk.testBit_marks _ _ _).mpr ⟨c, by simp, holds⟩
  · rw [Nat.one_shiftLeft, Nat.testBit_two_pow_sub_one, decide_eq_true_eq]
    simp only [List.length_append]
    omega

end Normal

namespace Pattern

section

variable {d : Char} {p : Pattern} (ordered : p.InOrder) (plain : p.Plain d)

include ordered plain

theorem follows_normal (text : List Char) :
    Walk.Follows text ((p.normal.walk text).ends text.length) p.language := by
  obtain ⟨same, sane⟩ := normal_spec ordered plain
  rw [← same]
  exact Normal.follows_walk text p.normal sane

theorem matchesWhole_iff (text : List Char) : p.matchesWhole text ↔ text ∈ p.language := by
  obtain ⟨same, sane⟩ := normal_spec ordered plain
  have within : Walk.Within text.length (1 &&& p.normal.starts text) := by
    intro i start
    rw [Nat.testBit_and, Bool.and_eq_true] at start
    exact Normal.within_starts p.normal text i start.2
  rw [matchesWhole, follows_normal ordered plain text _ within, ← leads_whole]
  constructor
  · rintro ⟨i, start, leads⟩
    rw [Nat.testBit_and, Bool.and_eq_true, Nat.testBit_one_eq_true_iff_self_eq_zero] at start
    rwa [start.1] at leads
  · intro leads
    refine ⟨0, ?_, leads⟩
    rw [← same] at leads
    rw [Nat.testBit_and, Normal.testBit_starts sane leads]
    rfl

theorem matchesPart_iff (text : List Char) :
    p.matchesPart text ↔ ∃ part, part <:+: text ∧ part ∈ p.language := by
  obtain ⟨same, sane⟩ := normal_spec ordered plain
  have follows := follows_normal ordered plain text _ (Normal.within_starts p.normal text)
  rw [← exists_leads, matchesPart, decide_eq_true_eq]
  constructor
  · intro some
    by_contra none
    refine some (Nat.eq_of_testBit_eq fun j => ?_)
    rw [Nat.zero_testBit, ← Bool.not_eq_true, follows]
    rintro ⟨i, -, leads⟩
    exact none ⟨i, j, leads⟩
  · rintro ⟨i, j, leads⟩ none
    have start := leads
    rw [← same] at start
    have stop := (follows j).mpr ⟨i, Normal.testBit_starts sane start, leads⟩
    rw [none, Nat.zero_testBit] at stop
    contradiction

end

/-- The standard engine finds the language of every pattern of the grammar whose classes leave out no two
characters one by one. -/
theorem standard_decides {d : Char} {p : Pattern} {s : List Char} (derived : Derives .regexp p s)
    (ordered : p.InOrder) (plain : p.Plain d) : Engine.standard.Decides p where
  whole denotes text := by
    rw [derived.read_text ordered] at denotes
    cases denotes
    rw [regex_language]
    exact matchesWhole_iff ordered plain text
  part denotes text := by
    rw [derived.read_text ordered] at denotes
    cases denotes
    simp only [regex_language]
    exact matchesPart_iff ordered plain text

end Pattern

end JsonPath
