import JsonPath.Proofs.Evaluation.Congruence
import JsonPath.Proofs.Evaluation.Exactness

namespace JsonPath

namespace Datum

/-- Two numbers are ordered by what they are, two strings by their code points, and nothing else. -/
inductive Less : Option Datum → Option Datum → Prop
  | number {x y : ExtendedRat} (below : x < y) :
      Less (some (.number (some x))) (some (.number (some y)))
  | string {s t : String} (below : s < t) : Less (some (.string s)) (some (.string t))

namespace Less

variable {x y z : Option Datum}

theorem cases_iff : Less x y ↔
    (∃ m n : ExtendedRat, x = some (.number (some m)) ∧ y = some (.number (some n)) ∧ m < n) ∨
      ∃ s t : String, x = some (.string s) ∧ y = some (.string t) ∧ s < t := by
  constructor
  · rintro (below | below)
    · exact .inl ⟨_, _, rfl, rfl, below⟩
    · exact .inr ⟨_, _, rfl, rfl, below⟩
  · rintro (⟨m, n, rfl, rfl, below⟩ | ⟨s, t, rfl, rfl, below⟩)
    · exact .number below
    · exact .string below

theorem irrefl (x : Option Datum) : ¬ Less x x := by
  rintro (below | below)
  · exact lt_irrefl _ below
  · exact String.lt_irrefl _ below

theorem trans (first : Less x y) (second : Less y z) : Less x z := by
  cases first with
  | number below =>
    cases second with
    | number below' => exact .number (below.trans below')
  | string below =>
    cases second with
    | string below' => exact .string (String.lt_trans below below')

theorem asymm (below : Less x y) : ¬ Less y x := fun above => irrefl x (below.trans above)

end Less

end Datum

namespace Denoted

def kind? : Denoted → Option Kind
  | nothing => none
  | value v _ => some v.kind

def Ordered (d e : Denoted) : Prop :=
  d.kind? = e.kind? ∧ (d.kind? = some .number ∨ d.kind? = some .string)

section

variable {d e : Denoted}

theorem less_iff : Eval.less d e = true ↔ Datum.Less d.datum? e.datum? := by
  rw [Datum.Less.cases_iff]
  cases d with
  | nothing => simp [Eval.less, datum?]
  | value v origin =>
    cases e with
    | nothing => simp [Eval.less, datum?]
    | value w origin' =>
      cases v <;> cases w <;> simp [Eval.less, datum?, Value.datum, Number.less_iff]

theorem ordered_of_less (below : Datum.Less d.datum? e.datum?) : d.Ordered e := by
  rw [← less_iff] at below
  cases d with
  | nothing => contradiction
  | value v origin =>
    cases e with
    | nothing => simp [Eval.less] at below
    | value w origin' => cases v <;> cases w <;> simp_all [Eval.less, Ordered, kind?, Value.kind]

theorem Ordered.symm (ordered : d.Ordered e) : e.Ordered d := by
  obtain ⟨same, either⟩ := ordered
  exact ⟨same.symm, same ▸ either⟩

theorem Ordered.cases (ordered : d.Ordered e) :
    (∃ m n origin origin', d = value (.number m) origin ∧ e = value (.number n) origin') ∨
      ∃ s t origin origin', d = value (.string s) origin ∧ e = value (.string t) origin' := by
  cases d with
  | nothing => simp [Ordered, kind?] at ordered
  | value v origin =>
    cases e with
    | nothing => simp [Ordered, kind?] at ordered
    | value w origin' => cases v <;> cases w <;> simp_all [Ordered, kind?, Value.kind]

theorem Ordered.trichotomy {document : Value} (ordered : d.Ordered e) (left : d.IsData document)
    (right : e.IsData document) :
    Datum.Less d.datum? e.datum? ∨ d.datum? = e.datum? ∨ Datum.Less e.datum? d.datum? := by
  rcases ordered.cases with ⟨m, n, origin, origin', rfl, rfl⟩ | ⟨s, t, origin, origin', rfl, rfl⟩
  · -- Only NaN is no point of the number line.
    have point {k : Number} (isNumber : k ≠ .double .nan) : ∃ x, k.quantity? = some x := by
      obtain ⟨place, here⟩ := Option.ne_none_iff_exists'.mp (mt Number.place?_eq_none_iff.mp isNumber)
      exact ⟨place.quantity, by rw [Number.quantity?_eq, here, Option.map_some]⟩
    obtain ⟨x, here⟩ := point left.1.isNumber
    obtain ⟨y, there⟩ := point right.1.isNumber
    simp only [datum?, Value.datum, here, there]
    rcases lt_trichotomy x y with below | same | above
    · exact .inl (.number below)
    · exact .inr (.inl (by rw [same]))
    · exact .inr (.inr (.number above))
  · simp only [datum?, Value.datum]
    by_cases below : s < t
    · exact .inl (.string below)
    · by_cases above : t < s
      · exact .inr (.inr (.string above))
      · have same := String.le_antisymm (String.not_lt.mp above) (String.not_lt.mp below)
        exact .inr (.inl (by rw [same]))

end

end Denoted

namespace Comparison

def six : List Comparison := [eq, ne, lt, le, gt, ge]

def Holds : Comparison → Option Datum → Option Datum → Prop
  | eq, x, y => x = y
  | ne, x, y => x ≠ y
  | lt, x, y => Datum.Less x y
  | le, x, y => Datum.Less x y ∨ x = y
  | gt, x, y => Datum.Less y x
  | ge, x, y => Datum.Less y x ∨ x = y
  | other _, _, _ => False

end Comparison

namespace Eval

theorem returns_lessOrEqual {less : Bool} {m : Eval Bool} {P Q : Prop} (below : less = true ↔ P)
    (same : Returns Excessive m fun b => b = true ↔ Q) :
    Returns Excessive (if less then return true else m) fun b => b = true ↔ P ∨ Q := by
  cases less with
  | true => exact .pure ⟨fun _ => .inl (below.mp rfl), fun _ => rfl⟩
  | false =>
    refine same.weaken fun b equal => ?_
    rw [equal, or_iff_right (mt below.mpr Bool.false_ne_true)]

theorem compare_returns {document : Value} {d e : Denoted} (options : Options)
    {operator : Comparison} (isSix : operator ∈ Comparison.six) (left : d.IsData document)
    (right : e.IsData document) :
    Returns Excessive (compare options operator d e) fun b =>
      b = true ↔ operator.Holds d.datum? e.datum? := by
  have equality := (equal_isMathematical document).answers options left right
  have below := @Denoted.less_iff
  cases operator with
  | eq => exact equality
  | ne =>
    refine equality.bind fun b same => .pure ?_
    rw [Comparison.Holds, ne_eq, ← same, Bool.not_eq_true, Bool.not_eq_true']
  | lt => exact .pure below
  | le => exact returns_lessOrEqual below equality
  | gt => exact .pure below
  | ge => exact returns_lessOrEqual below equality
  | other symbol => simp [Comparison.six] at isSix

def Answers (operator : Comparison) (d e : Denoted) (b : Bool) : Prop :=
  ∃ options p p', compare options operator d e p = .ok b p'

theorem Answers.iff_holds {document : Value} {operator : Comparison} {d e : Denoted} {b : Bool}
    (answers : Answers operator d e b) (left : d.IsData document) (right : e.IsData document) :
    b = true ↔ operator.Holds d.datum? e.datum? := by
  obtain ⟨options, p, p', run⟩ := answers
  have isSix : operator ∈ Comparison.six := by
    cases operator with
    | other symbol => contradiction
    | _ => simp [Comparison.six]
  exact (compare_returns options isSix left right).of_ok run

/-- With so many visits left and so deep a limit, a computation returns and charges no more visits. -/
def Affordable (visits depth : Nat) {α : Type} (m : Options → Eval α) : Prop :=
  ∀ (options : Options) (p : Progress), (p.visited + visits : Nat) ≤ options.maxNodesVisited →
    depth ≤ options.maxDepth → ∃ a p', m options p = .ok a p' ∧ p'.visited ≤ p.visited + visits

namespace Affordable

variable {α β : Type} {m : Options → Eval α} {visits visits' depth depth' : Nat}

theorem pure {a : α} : Affordable visits depth fun _ => Pure.pure a :=
  fun _ p _ _ => ⟨a, p, rfl, Nat.le_add_right _ _⟩

theorem weaken (affordable : Affordable visits depth m) (more : visits ≤ visits')
    (deeper : depth ≤ depth') : Affordable visits' depth' m := by
  intro options p enough deep
  obtain ⟨a, p', run, charged⟩ := affordable options p (by omega) (by omega)
  exact ⟨a, p', run, by omega⟩

theorem bind {f : Options → α → Eval β} (first : Affordable visits depth m)
    (next : ∀ a, Affordable visits' depth fun options => f options a) :
    Affordable (visits + visits') depth fun options => m options >>= f options := by
  intro options p enough deep
  obtain ⟨a, middle, here, charged⟩ := first options p (by omega) deep
  obtain ⟨b, p', there, charged'⟩ := next a options middle (by omega) deep
  exact ⟨b, p', EStateM.bind_eq_ok.mpr ⟨a, middle, here, there⟩, by omega⟩

theorem chargeLevels {depths : List Nat} (shallow : ∀ d ∈ depths, d ≤ depth) :
    Affordable depths.length depth fun options => Eval.chargeLevels options depths := by
  induction depths with
  | nil => exact .pure
  | cons d depths ih =>
    obtain ⟨here, more⟩ := List.forall_mem_cons.mp shallow
    intro options p enough deep
    rw [List.length_cons] at enough ⊢
    have spent : Eval.visit options 1 p = .ok () { p with visited := p.visited + 1 } :=
      visit_eq_ok.mpr ⟨by omega, rfl⟩
    have inside (q : Progress) : Eval.checkDepth options d q = .ok () q :=
      checkDepth_eq_ok.mpr ⟨by omega, rfl⟩
    obtain ⟨u, p', run, charged⟩ := ih more options { p with visited := p.visited + 1 }
      (by simp only; omega) deep
    simp only at charged
    exact ⟨u, p', EStateM.bind_eq_ok.mpr ⟨(), _, spent, EStateM.bind_eq_ok.mpr ⟨(), _, inside _, run⟩⟩,
      by omega⟩

theorem equal (d e : Denoted) : ∃ n, Affordable n n fun options => Eval.equal options d e := by
  have deepest : ∀ k ∈ d.levels e, k ≤ (d.levels e).sum := fun k member => List.le_sum_of_mem member
  refine ⟨(d.levels e).length + (d.levels e).sum, ?_⟩
  simp only [equal_eq]
  refine (bind (chargeLevels deepest) fun _ => (.pure : Affordable 0 _ _)).weaken ?_ ?_
  · omega
  · omega

theorem compare {operator : Comparison} (isSix : operator ∈ Comparison.six) (d e : Denoted) :
    ∃ n, Affordable n n fun options => Eval.compare options operator d e := by
  obtain ⟨n, equality⟩ := equal d e
  refine ⟨n, ?_⟩
  have orElse (b : Bool) :
      Affordable n n fun options => if b then return true else Eval.equal options d e := by
    cases b with
    | true => exact .pure
    | false => exact equality
  cases operator with
  | eq => exact equality
  | ne => exact equality.bind (f := fun _ b => Pure.pure !b) fun b => (.pure : Affordable 0 n _)
  | lt => exact .pure
  | le => exact orElse (less d e)
  | gt => exact .pure
  | ge => exact orElse (less e d)
  | other symbol => simp [Comparison.six] at isSix

end Affordable

/-- The six operators cohere on all sides that a document and literals give. -/
structure ComparisonsCohere (document : Value) : Prop where
  /-- Only a limit keeps a comparison from an answer, and the answer is what the operator says. -/
  answers : ∀ options {operator : Comparison} {d e : Denoted}, operator ∈ Comparison.six →
    d.IsData document → e.IsData document →
    Returns Excessive (compare options operator d e) fun b =>
      b = true ↔ operator.Holds d.datum? e.datum?
  /-- Under limits that are wide enough every comparison has an answer. -/
  affordable : ∀ {operator : Comparison} (d e : Denoted), operator ∈ Comparison.six →
    ∃ n, Affordable n n fun options => compare options operator d e
  ne : ∀ {d e : Denoted} {b b' : Bool}, d.IsData document → e.IsData document →
    Answers .ne d e b → Answers .eq d e b' → b = !b'
  gt : ∀ {d e : Denoted} {b b' : Bool}, d.IsData document → e.IsData document →
    Answers .gt d e b → Answers .lt e d b' → b = b'
  le : ∀ {d e : Denoted} {b less same : Bool}, d.IsData document → e.IsData document →
    Answers .le d e b → Answers .lt d e less → Answers .eq d e same → b = (less || same)
  ge : ∀ {d e : Denoted} {b b' : Bool}, d.IsData document → e.IsData document →
    Answers .ge d e b → Answers .le e d b' → b = b'
  trichotomy : ∀ {d e : Denoted} {less same greater : Bool}, d.IsData document → e.IsData document →
    d.Ordered e → Answers .lt d e less → Answers .eq d e same → Answers .lt e d greater →
    [less, same, greater].count true = 1
  irreflexive : ∀ {d : Denoted} {b : Bool}, d.IsData document → Answers .lt d d b → b = false
  transitive : ∀ {c d e : Denoted} {b : Bool}, c.IsData document → d.IsData document →
    e.IsData document → Answers .lt c d true → Answers .lt d e true → Answers .lt c e b → b = true
  /-- Either side can stand for any other that is equal to it. -/
  respects : ∀ {d d' e e' : Denoted} {b b' : Bool}, d.IsData document → d'.IsData document →
    e.IsData document → e'.IsData document → Answers .eq d d' true → Answers .eq e e' true →
    Answers .lt d e b → Answers .lt d' e' b' → b = b'
  unordered : ∀ {d e : Denoted} {less greater atMost atLeast same : Bool}, d.IsData document →
    e.IsData document → ¬ d.Ordered e → Answers .lt d e less → Answers .gt d e greater →
    Answers .le d e atMost → Answers .ge d e atLeast → Answers .eq d e same →
    less = false ∧ greater = false ∧ atMost = same ∧ atLeast = same

theorem comparisons_cohere (document : Value) : ComparisonsCohere document where
  answers options _ _ _ isSix left right := compare_returns options isSix left right
  affordable d e isSix := Affordable.compare isSix d e
  ne left right differ same := by
    rw [Bool.eq_iff_iff, differ.iff_holds left right, Bool.not_eq_true', ← Bool.not_eq_true,
      same.iff_holds left right]
    rfl
  gt left right greater less := by
    rw [Bool.eq_iff_iff, greater.iff_holds left right, less.iff_holds right left]
    rfl
  le left right atMost less same := by
    rw [Bool.eq_iff_iff, Bool.or_eq_true, atMost.iff_holds left right, less.iff_holds left right,
      same.iff_holds left right]
    rfl
  ge left right atLeast atMost := by
    rw [Bool.eq_iff_iff, atLeast.iff_holds left right, atMost.iff_holds right left]
    exact or_congr_right eq_comm
  trichotomy {d e _ _ _} left right ordered less same greater := by
    have lessIff := less.iff_holds left right
    have sameIff := same.iff_holds left right
    have greaterIff := greater.iff_holds right left
    simp only [Comparison.Holds] at lessIff sameIff greaterIff
    rcases ordered.trichotomy left right with below | equal | above
    · have different : d.datum? ≠ e.datum? := fun equal => Datum.Less.irrefl _ (equal ▸ below)
      simp_all [below.asymm]
    · have irrefl := Datum.Less.irrefl
      simp_all
    · have different : d.datum? ≠ e.datum? := fun equal => Datum.Less.irrefl _ (equal ▸ above)
      simp_all [above.asymm]
  irreflexive data less := by
    rw [← Bool.not_eq_true, less.iff_holds data data]
    exact Datum.Less.irrefl _
  transitive first second third less less' less'' := by
    have below := (less.iff_holds first second).mp rfl
    have below' := (less'.iff_holds second third).mp rfl
    exact (less''.iff_holds first third).mpr (below.trans below')
  respects left left' right right' sameLeft sameRight less less' := by
    have equal := (sameLeft.iff_holds left left').mp rfl
    have equal' := (sameRight.iff_holds right right').mp rfl
    simp only [Comparison.Holds] at equal equal'
    rw [Bool.eq_iff_iff, less.iff_holds left right, less'.iff_holds left' right', equal, equal']
  unordered left right unordered less greater atMost atLeast same := by
    have notLess := mt Denoted.ordered_of_less unordered
    have notGreater := mt (fun above => (Denoted.ordered_of_less above).symm) unordered
    refine ⟨?_, ?_, ?_, ?_⟩
    · rw [← Bool.not_eq_true, less.iff_holds left right]
      exact notLess
    · rw [← Bool.not_eq_true, greater.iff_holds left right]
      exact notGreater
    · rw [Bool.eq_iff_iff, atMost.iff_holds left right, same.iff_holds left right]
      exact or_iff_right notLess
    · rw [Bool.eq_iff_iff, atLeast.iff_holds left right, same.iff_holds left right]
      exact or_iff_right notGreater

/-- An integer that no binary64 is, and the binary64 next to it. -/
theorem comparisons_cohere_mixed :
    let left : Value := .int (2 ^ 53 + 1)
    let right : Value := .number (.double (.finite false 1076 0))
    let document : Value := .array [left, right]
    let d : Denoted := .value left (some [.index 0])
    let e : Denoted := .value right (some [.index 1])
    d.IsData document ∧ e.IsData document ∧ d.Ordered e ∧ Answers .lt d e false ∧
      Answers .eq d e false ∧ Answers .lt e d true ∧ [false, false, true].count true = 1 := by
  intro left right document d e
  have leftSide : d.IsData document :=
    ⟨.scalar rfl (by simp [left, Value.int, Value.IsNumber]), fun l here => by cases here; rfl⟩
  have rightSide : e.IsData document :=
    ⟨.scalar rfl (by simp [right, Value.IsNumber]), fun l here => by cases here; rfl⟩
  have ordered : d.Ordered e := ⟨rfl, .inl rfl⟩
  have notBelow : Eval.less d e = false := by decide +kernel
  have above : Eval.less e d = true := by decide +kernel
  have less : Answers .lt d e false := ⟨{}, {}, {}, by rw [compare, notBelow]; rfl⟩
  have greater : Answers .lt e d true := ⟨{}, {}, {}, by rw [compare, above]; rfl⟩
  have different : Answers .eq d e false := by
    have affordable : ∃ n, Affordable n n fun options => compare options .eq d e :=
      (comparisons_cohere document).affordable d e (by decide)
    obtain ⟨n, affordable⟩ := affordable
    obtain ⟨same, p, run, -⟩ :=
      affordable { maxNodesVisited := n, maxDepth := n } {} (by simp) (Int.le_refl _)
    have answers : Answers .eq d e same := ⟨_, _, _, run⟩
    have apart : same ≠ true := by
      rw [ne_eq, answers.iff_holds leftSide rightSide]
      intro equal
      have greater' := (greater.iff_holds rightSide leftSide).mp rfl
      exact Datum.Less.irrefl _ (equal ▸ greater')
    rwa [Bool.eq_false_iff.mpr apart] at answers
  exact ⟨leftSide, rightSide, ordered, less, different, greater,
    (comparisons_cohere document).trichotomy leftSide rightSide ordered less different greater⟩

end Eval

end JsonPath
