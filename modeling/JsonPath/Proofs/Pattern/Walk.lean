import JsonPath.Pattern.Walk
import JsonPath.Proofs.Pattern.Language

namespace JsonPath

/-- A part of the text that belongs to the language leads from place `i` to place `j`. -/
def Leads (text : List Char) (l : Language Char) (i j : Nat) : Prop :=
  ∃ before part after, text = before ++ part ++ after ∧ before.length = i ∧
    i + part.length = j ∧ part ∈ l

section

variable {text : List Char} {l m : Language Char} {i j : Nat}

theorem Leads.le_length (leads : Leads text l i j) : j ≤ text.length := by
  obtain ⟨before, part, after, rfl, rfl, rfl, -⟩ := leads
  simp only [List.length_append]
  omega

theorem leads_congr (same : ∀ w : List Char, w.length ≤ text.length → (w ∈ l ↔ w ∈ m)) :
    Leads text l i j ↔ Leads text m i j := by
  have shorter {before part after : List Char} (whole : text = before ++ part ++ after) :
      part.length ≤ text.length := by
    rw [whole, List.length_append, List.length_append]
    omega
  constructor
  · rintro ⟨before, part, after, whole, start, stop, member⟩
    exact ⟨before, part, after, whole, start, stop, (same part (shorter whole)).mp member⟩
  · rintro ⟨before, part, after, whole, start, stop, member⟩
    exact ⟨before, part, after, whole, start, stop, (same part (shorter whole)).mpr member⟩

theorem leads_whole : Leads text l 0 text.length ↔ text ∈ l := by
  constructor
  · rintro ⟨before, part, after, rfl, start, stop, member⟩
    rw [List.length_eq_zero_iff] at start
    subst start
    have none : after = [] := by
      rw [← List.length_eq_zero_iff]
      simp only [List.length_append, List.length_nil] at stop
      omega
    rwa [none, List.nil_append, List.append_nil]
  · intro member
    exact ⟨[], text, [], by simp, rfl, Nat.zero_add _, member⟩

theorem exists_leads : (∃ i j, Leads text l i j) ↔ ∃ part, part <:+: text ∧ part ∈ l := by
  constructor
  · rintro ⟨i, j, before, part, after, rfl, -, -, member⟩
    exact ⟨part, ⟨before, after, rfl⟩, member⟩
  · rintro ⟨part, ⟨before, after, rfl⟩, member⟩
    exact ⟨_, _, before, part, after, rfl, rfl, rfl, member⟩

theorem leads_one : Leads text 1 i j ↔ i = j ∧ j ≤ text.length := by
  constructor
  · intro leads
    refine ⟨?_, leads.le_length⟩
    obtain ⟨before, part, after, rfl, rfl, rfl, member⟩ := leads
    rw [Language.mem_one] at member
    rw [member, List.length_nil, Nat.add_zero]
  · rintro ⟨rfl, inside⟩
    exact ⟨text.take i, [], text.drop i, by simp, List.length_take_of_le inside, by simp, rfl⟩

theorem leads_letter {holds : Char → Prop} :
    Leads text (Letter holds) i j ↔ ∃ c, text[i]? = some c ∧ holds c ∧ j = i + 1 := by
  constructor
  · rintro ⟨before, part, after, rfl, rfl, rfl, c, passes, rfl⟩
    exact ⟨c, by simp, passes, rfl⟩
  · rintro ⟨c, here, passes, rfl⟩
    obtain ⟨inside, rfl⟩ := List.getElem?_eq_some_iff.mp here
    refine ⟨text.take i, [text[i]], text.drop (i + 1), ?_, ?_, rfl, _, passes, rfl⟩
    · rw [List.append_assoc, List.singleton_append, ← List.drop_eq_getElem_cons inside,
        List.take_append_drop]
    · exact List.length_take_of_le (Nat.le_of_lt inside)

theorem leads_add : Leads text (l + m) i j ↔ Leads text l i j ∨ Leads text m i j := by
  constructor
  · rintro ⟨before, part, after, whole, start, stop, member⟩
    rcases (Language.mem_add l m part).mp member with member | member
    · exact .inl ⟨before, part, after, whole, start, stop, member⟩
    · exact .inr ⟨before, part, after, whole, start, stop, member⟩
  · rintro (⟨before, part, after, whole, start, stop, member⟩ |
      ⟨before, part, after, whole, start, stop, member⟩)
    · exact ⟨before, part, after, whole, start, stop, .inl member⟩
    · exact ⟨before, part, after, whole, start, stop, .inr member⟩

theorem leads_mul : Leads text (l * m) i j ↔ ∃ k, Leads text l i k ∧ Leads text m k j := by
  constructor
  · rintro ⟨before, _, after, rfl, rfl, rfl, u, first, v, second, rfl⟩
    refine ⟨before.length + u.length, ⟨before, u, v ++ after, by simp, rfl, rfl, first⟩, ?_⟩
    exact ⟨before ++ u, v, after, by simp, by simp, by simp [Nat.add_assoc], second⟩
  · rintro ⟨k, ⟨before, u, after, whole, rfl, rfl, first⟩, ⟨before', v, after', whole', start, rfl, second⟩⟩
    have lengths : (before ++ u).length = before'.length := by rw [List.length_append, start]
    rw [whole, List.append_assoc before'] at whole'
    obtain ⟨rfl, rfl⟩ := List.append_inj whole' lengths
    exact ⟨before, u ++ v, after', by rw [whole]; simp, rfl, by simp [Nat.add_assoc],
      Language.append_mem_mul first second⟩

end

section

variable {l : Language Char} {w : List Char} {n : Nat}

theorem le_length_of_mem_pow (nonempty : [] ∉ l) (member : w ∈ l ^ n) : n ≤ w.length := by
  induction n generalizing w with
  | zero => exact Nat.zero_le _
  | succ n ih =>
    rw [pow_succ] at member
    obtain ⟨u, first, v, second, rfl⟩ := member
    have positive : v ≠ [] := by
      rintro rfl
      exact nonempty second
    have few := ih first
    have some := List.length_pos_iff.mpr positive
    rw [List.length_append]
    omega

/-- Where a part can be empty, no more parts are needed than the text has characters, and any more can be
had. -/
theorem mem_pow_of_mem_pow (empty : [] ∈ l) (member : w ∈ l ^ n) :
    ∃ k ≤ n, k ≤ w.length ∧ ∀ m, k ≤ m → w ∈ l ^ m := by
  induction n generalizing w with
  | zero =>
    rw [pow_zero, Language.mem_one] at member
    subst member
    exact ⟨0, Nat.le_refl 0, Nat.le_refl 0, fun m _ => Language.mem_pow.mpr
      ⟨List.replicate m [], by simp, by simp, fun y inside => by rwa [(List.mem_replicate.mp inside).2]⟩⟩
  | succ n ih =>
    rw [pow_succ] at member
    obtain ⟨u, first, v, second, rfl⟩ := member
    obtain ⟨k, few, short, more⟩ := ih first
    by_cases none : v = []
    · subst none
      simp only [List.append_nil]
      exact ⟨k, Nat.le_succ_of_le few, short, more⟩
    · have some := List.length_pos_iff.mpr none
      refine ⟨k + 1, Nat.succ_le_succ few, by rw [List.length_append]; omega, fun m enough => ?_⟩
      obtain ⟨m, rfl⟩ : ∃ m', m = m' + 1 := ⟨m - 1, by omega⟩
      rw [pow_succ]
      exact Language.append_mem_mul (more m (by omega)) second

def UpTo (l : Language Char) (n : Nat) : Language Char := {w | ∃ k ≤ n, w ∈ l ^ k}

def additional (length low : Nat) : Option Nat → Nat
  | none => length + 1
  | some high => min (high - low) (length + 1)

theorem mem_repeats_iff {low : Nat} {high? : Option Nat} (ordered : ∀ high ∈ high?, low ≤ high)
    {length : Nat} (short : w.length ≤ length) : w ∈ Repeats l low high? ↔
      ∃ k ≤ additional length low high?, w ∈ l ^ (min low (length + 1) + k) := by
  by_cases empty : [] ∈ l
  · constructor
    · rintro ⟨n, least, most, member⟩
      obtain ⟨k, few, small, more⟩ := mem_pow_of_mem_pow empty member
      refine ⟨k - min low (length + 1), ?_, more _ (by omega)⟩
      cases high? with
      | none => simp only [additional]; omega
      | some high =>
        have most := most high rfl
        simp only [additional]
        omega
    · rintro ⟨d, within, member⟩
      obtain ⟨k, few, small, more⟩ := mem_pow_of_mem_pow empty member
      refine ⟨max low k, Nat.le_max_left _ _, fun high same => ?_, more _ (Nat.le_max_right _ _)⟩
      cases same
      have inOrder := ordered high rfl
      simp only [additional] at within
      omega
  · constructor
    · rintro ⟨n, least, most, member⟩
      have few := le_length_of_mem_pow empty member
      refine ⟨n - min low (length + 1), ?_, ?_⟩
      · cases high? with
        | none => simp only [additional]; omega
        | some high =>
          have most := most high rfl
          simp only [additional]
          omega
      · rwa [show min low (length + 1) + (n - min low (length + 1)) = n by omega]
    · rintro ⟨d, within, member⟩
      have few := le_length_of_mem_pow empty member
      refine ⟨_, by omega, fun high same => ?_, member⟩
      cases same
      have inOrder := ordered high rfl
      simp only [additional] at within
      omega

end

namespace Walk

theorem testBit_marks (p : Char → Bool) (text : List Char) (i : Nat) :
    (marks p text).testBit i ↔ ∃ c, text[i]? = some c ∧ p c := by
  induction text generalizing i with
  | nil => simp [marks]
  | cons d text ih =>
    have same : marks p (d :: text) = 2 * marks p text + (p d).toNat := rfl
    rw [same]
    cases i with
    | zero =>
      cases here : p d <;> simp [here, Nat.testBit_zero, Nat.add_mod]
    | succ i =>
      have half : (2 * marks p text + (p d).toNat) / 2 = marks p text := by
        have small := Bool.toNat_le (p d)
        omega
      rw [Nat.testBit_succ, half]
      simpa using ih i

def Within (length s : Nat) : Prop := ∀ i, s.testBit i → i ≤ length

def Follows (text : List Char) (move : Nat → Nat) (l : Language Char) : Prop :=
  ∀ s, Within text.length s → ∀ j, (move s).testBit j ↔ ∃ i, s.testBit i ∧ Leads text l i j

section

variable {text : List Char} {move next : Nat → Nat} {l m : Language Char}

theorem Follows.within (follows : Follows text move l) {s : Nat} (within : Within text.length s) :
    Within text.length (move s) := by
  intro j reached
  obtain ⟨i, -, leads⟩ := (follows s within j).mp reached
  exact leads.le_length

theorem follows_stay : Follows text (fun s => s) 1 := by
  intro s within j
  constructor
  · intro start
    exact ⟨j, start, leads_one.mpr ⟨rfl, within j start⟩⟩
  · rintro ⟨i, start, leads⟩
    obtain ⟨rfl, -⟩ := leads_one.mp leads
    exact start

theorem follows_step {p : Char → Bool} :
    Follows text (fun s => (s &&& marks p text) <<< 1) (Letter fun c => p c) := by
  intro s within j
  simp only [Nat.testBit_shiftLeft, Nat.testBit_and, Bool.and_eq_true, decide_eq_true_eq, testBit_marks]
  constructor
  · rintro ⟨positive, start, c, here, passes⟩
    exact ⟨j - 1, start, leads_letter.mpr ⟨c, here, passes, by omega⟩⟩
  · rintro ⟨i, start, leads⟩
    obtain ⟨c, here, passes, rfl⟩ := leads_letter.mp leads
    exact ⟨Nat.le_add_left 1 i, start, c, here, passes⟩

theorem Follows.sequence (first : Follows text move l) (second : Follows text next m) :
    Follows text (fun s => next (move s)) (l * m) := by
  intro s within j
  rw [second (move s) (first.within within) j]
  constructor
  · rintro ⟨k, reached, leads⟩
    obtain ⟨i, start, leads'⟩ := (first s within k).mp reached
    exact ⟨i, start, leads_mul.mpr ⟨k, leads', leads⟩⟩
  · rintro ⟨i, start, leads⟩
    obtain ⟨k, leads, leads'⟩ := leads_mul.mp leads
    exact ⟨k, (first s within k).mpr ⟨i, start, leads⟩, leads'⟩

theorem Follows.alternatives (first : Follows text move l) (second : Follows text next m) :
    Follows text (fun s => move s ||| next s) (l + m) := by
  intro s within j
  simp only [Nat.testBit_or, Bool.or_eq_true, first s within j, second s within j, leads_add]
  constructor
  · rintro (⟨i, start, leads⟩ | ⟨i, start, leads⟩)
    · exact ⟨i, start, .inl leads⟩
    · exact ⟨i, start, .inr leads⟩
  · rintro ⟨i, start, leads | leads⟩
    · exact .inl ⟨i, start, leads⟩
    · exact .inr ⟨i, start, leads⟩

theorem Follows.congr (follows : Follows text move l)
    (same : ∀ w : List Char, w.length ≤ text.length → (w ∈ l ↔ w ∈ m)) : Follows text move m := by
  intro s within j
  rw [follows s within j]
  exact exists_congr fun i => and_congr_right fun _ => leads_congr same

/-- Moving on from a set that stays as it is leads nowhere else, so the early stop makes no difference. -/
theorem iterate_succ (move : Nat → Nat) (n s : Nat) :
    iterate move (n + 1) s = iterate move n (move s) := by
  rw [iterate]
  split
  · next fixed =>
    rw [fixed]
    cases n with
    | zero => rfl
    | succ n => rw [iterate, if_pos fixed]
  · rfl

theorem spread_succ (move : Nat → Nat) (n s : Nat) :
    spread move (n + 1) s = spread move n (s ||| move s) := by
  rw [spread]
  split
  · next fixed =>
    rw [fixed]
    cases n with
    | zero => rfl
    | succ n => rw [spread, if_pos fixed]
  · rfl

theorem Follows.iterate (follows : Follows text move l) (n : Nat) :
    Follows text (Walk.iterate move n) (l ^ n) := by
  induction n with
  | zero => exact follows_stay
  | succ n ih =>
    rw [pow_succ']
    simp only [funext (iterate_succ move n)]
    exact follows.sequence ih

theorem Follows.spread (follows : Follows text move l) (n : Nat) :
    Follows text (Walk.spread move n) (UpTo l n) := by
  induction n with
  | zero =>
    apply follows_stay.congr
    intro w _
    constructor
    · intro member
      exact ⟨0, Nat.le_refl 0, member⟩
    · rintro ⟨k, none, member⟩
      rwa [Nat.le_zero.mp none] at member
  | succ n ih =>
    simp only [funext (spread_succ move n)]
    have once := (follows_stay.alternatives follows).sequence ih
    apply once.congr
    intro w _
    rw [add_mul, one_mul, Language.mem_add]
    constructor
    · rintro (⟨k, few, member⟩ | ⟨u, first, v, ⟨k, few, second⟩, rfl⟩)
      · exact ⟨k, Nat.le_succ_of_le few, member⟩
      · refine ⟨k + 1, Nat.succ_le_succ few, ?_⟩
        rw [pow_succ']
        exact Language.append_mem_mul first second
    · rintro ⟨k, few, member⟩
      cases k with
      | zero => exact .inl ⟨0, Nat.zero_le n, member⟩
      | succ k =>
        rw [pow_succ'] at member
        obtain ⟨u, first, v, second, rfl⟩ := member
        exact .inr ⟨u, first, v, ⟨k, Nat.le_of_succ_le_succ few, second⟩, rfl⟩

end

end Walk

namespace Normal

def language : Normal → Language Char
  | empty => 1
  | any => Letter fun _ => True
  | test t => Letter fun c => t.holds c
  | anyOf ts => Letter fun c => CharTest.anyHolds ts c
  | sequence n ns => n.language * ns.language
  | branches n ns => n.language + ns.language
  | repeated n low high? => Repeats n.language low high?

def Each (tests : CharTest → Prop) (bounds : Nat → Option Nat → Prop) : Normal → Prop
  | test t => tests t
  | anyOf ts => ∀ t ∈ ts, tests t
  | sequence n ns => n.Each tests bounds ∧ ns.Each tests bounds
  | branches n ns => n.Each tests bounds ∧ ns.Each tests bounds
  | repeated n low high? => n.Each tests bounds ∧ bounds low high?
  | _ => True

theorem follows_walk {tests : CharTest → Prop} (text : List Char) (n : Normal)
    (ordered : n.Each tests fun low high? => ∀ high ∈ high?, low ≤ high) :
    Walk.Follows text ((n.walk text).ends text.length) n.language := by
  induction n with
  | empty => exact Walk.follows_stay
  | any => exact Walk.follows_step.congr fun w _ => by simp [language]
  | test t => exact Walk.follows_step
  | anyOf ts => exact Walk.follows_step
  | sequence n ns ih ih' => exact (ih ordered.1).sequence (ih' ordered.2)
  | branches n ns ih ih' => exact (ih ordered.1).alternatives (ih' ordered.2)
  | repeated n low high? ih =>
    have body := ih ordered.1
    have repeats := (body.iterate (min low (text.length + 1))).sequence
      (body.spread (additional text.length low high?))
    have same : ((repeated n low high?).walk text).ends text.length = fun s =>
        Walk.spread ((n.walk text).ends text.length) (additional text.length low high?)
          (Walk.iterate ((n.walk text).ends text.length) (min low (text.length + 1)) s) := by
      cases high? <;> rfl
    rw [same]
    apply repeats.congr
    intro w short
    rw [language, mem_repeats_iff ordered.2 short]
    constructor
    · rintro ⟨u, first, v, ⟨k, few, second⟩, rfl⟩
      exact ⟨k, few, by rw [pow_add]; exact Language.append_mem_mul first second⟩
    · rintro ⟨k, few, member⟩
      rw [pow_add] at member
      obtain ⟨u, first, v, second, rfl⟩ := member
      exact ⟨u, first, v, ⟨k, few, second⟩, rfl⟩

end Normal

end JsonPath
