import JsonPath.Node
import JsonPath.Proofs.Slice.Bounds
import Mathlib.Algebra.Order.Ring.Int
import Mathlib.Data.List.Chain
import Mathlib.Tactic.Ring

namespace JsonPath

namespace Slice

/-- A loop that selects the index it stands at and adds `step` to it, for as long as `more` holds. -/
inductive Loop (more : Int → Prop) (step : Int) : Int → List Int → Prop
  | done {i : Int} : ¬ more i → Loop more step i []
  | select {i : Int} {is : List Int} : more i → Loop more step (i + step) is → Loop more step i (i :: is)

namespace Loop

variable {more : Int → Prop} {step i : Int} {is js : List Int}

theorem unique (loop : Loop more step i is) (loop' : Loop more step i js) : is = js := by
  induction loop generalizing js with
  | done stops =>
    cases loop' with
    | done => rfl
    | select goesOn => contradiction
  | select goesOn _ ih =>
    cases loop' with
    | done stops => contradiction
    | select _ loop' => rw [ih loop']

theorem isChain (loop : Loop more step i is) : is.IsChain fun a b => b = a + step := by
  induction loop with
  | done => exact .nil
  | select _ loop ih =>
    cases loop with
    | done => exact .singleton _
    | select => exact .cons_cons rfl ih

end Loop

def normalized (length i : Int) : Int := if 0 ≤ i then i else length + i

/-- Where the indices of a slice lie. One of the bounds is excluded, by direction. -/
structure Bounds where
  lower : Int
  upper : Int

def bounds (length : Int) (start stop : Option Int) (step : Int) : Bounds :=
  if 0 ≤ step then
    { lower := min (max (normalized length (start.getD 0)) 0) length
      upper := min (max (normalized length (stop.getD length)) 0) length }
  else
    { lower := min (max (normalized length (stop.getD (-length - 1))) (-1)) (length - 1)
      upper := min (max (normalized length (start.getD (length - 1))) (-1)) (length - 1) }

/-- The loop that defines a slice: upwards from the lower bound, or downwards from the upper one. -/
def Selects (b : Bounds) (step : Int) (is : List Int) : Prop :=
  if 0 < step then Loop (· < b.upper) step b.lower is
  else if step < 0 then Loop (b.lower < ·) step b.upper is
  else is = []

end Slice

namespace Progression

variable {first stop step i : Int} {n : Nat}

theorem toList_succ (first step : Int) (count : Nat) :
    (⟨first, step, count + 1⟩ : Progression).toList =
      first :: (⟨first + step, step, count⟩ : Progression).toList := by
  have next (n : Nat) : nth ⟨first, step, count + 1⟩ (n + 1) = nth ⟨first + step, step, count⟩ n := by
    simp only [nth, Nat.cast_succ]
    ring
  simp only [toList, List.range_succ_eq_map, List.map_cons, List.map_map]
  congr 1
  · simp [nth]
  · exact List.map_congr_left fun n _ => next n

theorem loop_toList {more : Int → Prop} (p : Progression)
    (inside : ∀ n, n < p.count ↔ more (p.nth n)) : Slice.Loop more p.step p.first p.toList := by
  obtain ⟨first, step, count⟩ := p
  induction count generalizing first with
  | zero =>
    have stops := inside 0
    exact .done fun goesOn => by simp [nth, goesOn] at stops
  | succ count ih =>
    have goesOn : more first := by simpa [nth] using inside 0
    rw [toList_succ]
    refine .select goesOn (ih (first + step) fun n => ?_)
    have next : nth ⟨first + step, step, count⟩ n = nth ⟨first, step, count + 1⟩ (n + 1) := by
      simp only [nth, Nat.cast_succ]
      ring
    rw [next, ← inside]
    exact Nat.succ_lt_succ_iff.symm

theorem lt_count_upwards (positive : 0 < step) :
    n < (upwards first stop step).count ↔ (upwards first stop step).nth n < stop := by
  have whole : (n : Int) < (stop - first + step - 1) / step ↔
      ((n : Int) + 1) * step ≤ stop - first + step - 1 := Int.le_ediv_iff_mul_le positive
  have expand : ((n : Int) + 1) * step = n * step + step := by ring
  simp only [upwards, nth, Int.lt_toNat, whole]
  omega

/-- Mirrored at zero, a progression downwards is one upwards. -/
theorem count_downwards (first stop step : Int) :
    (downwards first stop step).count = (upwards (-first) (-stop) (-step)).count := by
  simp only [downwards, upwards]
  congr 2
  ring

theorem nth_downwards (first stop step : Int) (n : Nat) :
    (downwards first stop step).nth n = -(upwards (-first) (-stop) (-step)).nth n := by
  simp only [downwards, upwards, nth]
  ring

theorem lt_count_downwards (negative : step < 0) :
    n < (downwards first stop step).count ↔ stop < (downwards first stop step).nth n := by
  rw [count_downwards, nth_downwards, lt_count_upwards (Int.neg_pos_of_neg negative)]
  omega

theorem loop_upwards (positive : 0 < step) :
    Slice.Loop (· < stop) step first (upwards first stop step).toList :=
  loop_toList (upwards first stop step) fun _ => lt_count_upwards positive

theorem loop_downwards (negative : step < 0) :
    Slice.Loop (stop < ·) step first (downwards first stop step).toList :=
  loop_toList (downwards first stop step) fun _ => lt_count_downwards negative

theorem mem_upwards_iff (positive : 0 < step) :
    i ∈ (upwards first stop step).toList ↔ first ≤ i ∧ i < stop ∧ step ∣ i - first := by
  constructor
  · intro member
    obtain ⟨low, high⟩ := Slice.upwards_bounds positive member
    obtain ⟨n, -, rfl⟩ := List.mem_map.mp member
    exact ⟨low, high, n, by simp only [upwards, nth]; ring⟩
  · rintro ⟨low, high, k, distance⟩
    have nonnegative : 0 ≤ k := nonneg_of_mul_nonneg_right (by omega) positive
    obtain ⟨n, rfl⟩ := Int.eq_ofNat_of_zero_le nonnegative
    have place : (upwards first stop step).nth n = i := by
      simp only [upwards, nth]
      rw [Int.mul_comm]
      omega
    refine List.mem_map.mpr ⟨n, List.mem_range.mpr ?_, place⟩
    rw [lt_count_upwards positive, place]
    exact high

theorem mem_downwards_iff_neg_mem :
    i ∈ (downwards first stop step).toList ↔ -i ∈ (upwards (-first) (-stop) (-step)).toList := by
  simp only [toList, List.mem_map, count_downwards, nth_downwards, neg_eq_iff_eq_neg]

theorem mem_downwards_iff (negative : step < 0) :
    i ∈ (downwards first stop step).toList ↔ stop < i ∧ i ≤ first ∧ step ∣ i - first := by
  have mirrored : -i - -first = -(i - first) := by ring
  rw [mem_downwards_iff_neg_mem, mem_upwards_iff (Int.neg_pos_of_neg negative), mirrored,
    Int.neg_dvd, Int.dvd_neg]
  constructor
  · rintro ⟨low, high, multiple⟩
    exact ⟨by omega, by omega, multiple⟩
  · rintro ⟨low, high, multiple⟩
    exact ⟨by omega, by omega, multiple⟩

end Progression

namespace Slice

variable {length : Nat} {start stop step : Option Int}

theorem fromEnd_eq_normalized (length i : Int) : fromEnd length i = normalized length i := by
  unfold fromEnd normalized
  omega

theorem indices_zero (zero : step.getD 1 = 0) : indices length start stop step = .empty := by
  simp [indices, zero]

theorem indices_upwards (positive : 0 < step.getD 1) :
    indices length start stop step =
      .upwards (bounds length start stop (step.getD 1)).lower
        (bounds length start stop (step.getD 1)).upper (step.getD 1) := by
  have nonzero : step.getD 1 ≠ 0 := by omega
  have direction : 0 ≤ step.getD 1 := by omega
  simp [indices, bounds, clamp, fromEnd_eq_normalized, nonzero, positive, direction]

theorem indices_downwards (negative : step.getD 1 < 0) :
    indices length start stop step =
      .downwards (bounds length start stop (step.getD 1)).upper
        (bounds length start stop (step.getD 1)).lower (step.getD 1) := by
  have nonzero : step.getD 1 ≠ 0 := by omega
  have direction : ¬ 0 < step.getD 1 := by omega
  have direction' : ¬ 0 ≤ step.getD 1 := by omega
  simp [indices, bounds, clamp, fromEnd_eq_normalized, nonzero, direction, direction']

theorem selects_indices (length : Nat) (start stop step : Option Int) :
    Selects (bounds length start stop (step.getD 1)) (step.getD 1)
      (indices length start stop step).toList := by
  unfold Selects
  split
  · next positive =>
    rw [indices_upwards positive]
    exact Progression.loop_upwards positive
  · split
    · next negative =>
      rw [indices_downwards negative]
      exact Progression.loop_downwards negative
    · next zero =>
      rw [indices_zero (by omega)]
      rfl

theorem Selects.unique {b : Bounds} {step : Int} {is js : List Int} (selects : Selects b step is)
    (selects' : Selects b step js) : is = js := by
  unfold Selects at selects selects'
  split at selects
  · next positive =>
    rw [if_pos positive] at selects'
    exact selects.unique selects'
  · next notPositive =>
    rw [if_neg notPositive] at selects'
    split at selects
    · next negative =>
      rw [if_pos negative] at selects'
      exact selects.unique selects'
    · next zero =>
      rw [if_neg zero] at selects'
      rw [selects, selects']

theorem Selects.isChain {b : Bounds} {step : Int} {is : List Int} (selects : Selects b step is) :
    is.IsChain fun a b => b = a + step := by
  unfold Selects at selects
  split at selects
  · exact selects.isChain
  · split at selects
    · exact selects.isChain
    · rw [selects]
      exact .nil

/-- What the indices of a slice are, by its bounds in an array of a length and its step. -/
structure FollowsLoop (length : Nat) (b : Bounds) (step : Int) (is : List Int) : Prop where
  loop : ∀ js, Selects b step js ↔ js = is
  inside : ∀ i ∈ is, 0 ≤ i ∧ i < length
  gaps : is.IsChain fun i j => j = i + step
  increasing : 0 < step → is.Pairwise (· < ·)
  decreasing : step < 0 → is.Pairwise (· > ·)
  none : step = 0 → is = []
  upwards : 0 < step → ∀ i, i ∈ is ↔ b.lower ≤ i ∧ i < b.upper ∧ step ∣ i - b.lower
  downwards : step < 0 → ∀ i, i ∈ is ↔ b.lower < i ∧ i ≤ b.upper ∧ step ∣ i - b.upper

theorem followsLoop (length : Nat) (start stop step : Option Int) :
    FollowsLoop length (bounds length start stop (step.getD 1)) (step.getD 1)
      (indices length start stop step).toList where
  loop js := by
    have selects := selects_indices length start stop step
    constructor
    · intro selects'
      exact selects'.unique selects
    · rintro rfl
      exact selects
  inside i member := indices_bounds member
  gaps := (selects_indices length start stop step).isChain
  increasing positive := by
    have chain := (selects_indices length start stop step).isChain
    refine List.isChain_iff_pairwise.mp (chain.imp fun i j next => ?_)
    omega
  decreasing negative := by
    have chain := (selects_indices length start stop step).isChain
    refine List.isChain_iff_pairwise.mp (chain.imp fun i j next => ?_)
    omega
  none zero := by rw [indices_zero zero]; rfl
  upwards positive i := by
    rw [indices_upwards positive]
    exact Progression.mem_upwards_iff positive
  downwards negative i := by
    rw [indices_downwards negative]
    exact Progression.mem_downwards_iff negative

end Slice

theorem Node.map_location_slice (items : List Value) (location : Location)
    (start stop step : Option Int) :
    (Node.slice ⟨.array items, location⟩ start stop step).map Node.location =
      (Slice.indices items.length start stop step).toList.map fun i => location ++ [.index i] := by
  unfold Node.slice
  rw [List.map_filterMap, ← List.filterMap_eq_map]
  apply List.filterMap_congr
  intro i member
  obtain ⟨low, high⟩ := Slice.indices_bounds member
  have nonnegative : ¬ i < 0 := by omega
  have inRange : i.toNat < items.length := by omega
  simp [nonnegative, inRange]

/-- Slices select exactly the indices that their loops run through. -/
theorem Slice.indices_followLoop (length : Nat) (start stop step : Option Int) :
    Slice.FollowsLoop length (bounds length start stop (step.getD 1)) (step.getD 1)
      (indices length start stop step).toList ∧
    ∀ (items : List Value) (location : Location),
      (Node.slice ⟨.array items, location⟩ start stop step).map Node.location =
        (indices items.length start stop step).toList.map fun i => location ++ [.index i] :=
  ⟨followsLoop length start stop step,
    fun items location => Node.map_location_slice items location start stop step⟩

example : (Slice.indices 5 (some (-2)) none (some (-3))).toList = [3, 0] := by decide

end JsonPath
