import JsonPath.Slice

namespace JsonPath

namespace Slice

theorem clamp_bounds {low high n : Int} (order : low ≤ high) :
    low ≤ clamp low high n ∧ clamp low high n ≤ high := by
  unfold clamp
  omega

theorem upwards_bounds {first stop step i : Int} (positive : 0 < step)
    (member : i ∈ (Progression.upwards first stop step).toList) : first ≤ i ∧ i < stop := by
  simp only [Progression.upwards, Progression.toList, Progression.nth, List.mem_map,
    List.mem_range] at member
  obtain ⟨k, before, rfl⟩ := member
  have next : (k : Int) + 1 ≤ (stop - first + step - 1) / step := by omega
  have reach := (Int.le_ediv_iff_mul_le positive).mp next
  have expand : ((k : Int) + 1) * step = k * step + step := by rw [Int.add_mul, Int.one_mul]
  have back : 0 ≤ (k : Int) * step := Int.mul_nonneg (by omega) (by omega)
  omega

theorem downwards_bounds {first stop step i : Int} (negative : step < 0)
    (member : i ∈ (Progression.downwards first stop step).toList) : stop < i ∧ i ≤ first := by
  simp only [Progression.downwards, Progression.toList, Progression.nth, List.mem_map,
    List.mem_range] at member
  obtain ⟨k, before, rfl⟩ := member
  have next : (k : Int) + 1 ≤ (first - stop - step - 1) / -step := by omega
  have reach := (Int.le_ediv_iff_mul_le (by omega)).mp next
  have expand : ((k : Int) + 1) * -step = -(k * step) - step := by
    rw [Int.add_mul, Int.one_mul, Int.mul_neg]
    omega
  have back : 0 ≤ (k : Int) * -step := Int.mul_nonneg (by omega) (by omega)
  rw [Int.mul_neg] at back
  omega

theorem indices_bounds {length : Nat} {start stop step : Option Int} {i : Int}
    (member : i ∈ (indices length start stop step).toList) : 0 ≤ i ∧ i < length := by
  unfold indices at member
  simp only at member
  split at member
  · simp [Progression.empty, Progression.toList] at member
  · split at member
    · next positive =>
      have low := @clamp_bounds 0 length (fromEnd length (start.getD 0)) (by omega)
      have high := @clamp_bounds 0 length (fromEnd length (stop.getD length)) (by omega)
      have inside := upwards_bounds positive member
      omega
    · have high := @clamp_bounds (-1) (length - 1) (fromEnd length (start.getD (length - 1))) (by omega)
      have low := @clamp_bounds (-1) (length - 1) (fromEnd length (stop.getD (-length - 1))) (by omega)
      have inside := downwards_bounds (by omega) member
      omega

end Slice

end JsonPath
