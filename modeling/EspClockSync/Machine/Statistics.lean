import Mathlib

/-!
# Statistics of lists

Means and spreads of a list of numbers, over any ordered field. A variance is the mean of
the squares less the square of the mean; computed in integers with truncated quotients it is
off by what the truncation takes from the square of the mean. Values near a line have
moments near those of the line, also around a rounded center.
-/

namespace Machine

/-! ## Variance -/

section Variance

variable {K : Type} [Field K] [LinearOrder K] [IsStrictOrderedRing K]

/-- The mean of the squared deviations from the mean. -/
def populationVariance (values : List K) : K :=
  (values.map fun value => (value - values.sum / values.length) ^ 2).sum / values.length

/-- A spread is no less than zero. -/
theorem populationVariance_nonneg (values : List K) : 0 ≤ populationVariance values := by
  apply div_nonneg
  · apply List.sum_nonneg
    intro square member
    obtain ⟨value, _, rfl⟩ := List.mem_map.mp member
    exact sq_nonneg _
  · exact Nat.cast_nonneg _

/-- The squared deviations from any center, expanded. -/
theorem sum_sq_sub (values : List K) (center : K) :
    (values.map fun value => (value - center) ^ 2).sum =
      (values.map (· ^ 2)).sum - 2 * center * values.sum + values.length * center ^ 2 := by
  induction values with
  | nil => simp
  | cons value values ih =>
    simp only [List.map_cons, List.sum_cons, List.length_cons, ih, Nat.cast_add, Nat.cast_one]
    ring

/-- The variance in one pass. -/
theorem populationVariance_eq {values : List K} (nonempty : values ≠ []) :
    populationVariance values =
      (values.map (· ^ 2)).sum / values.length - (values.sum / values.length) ^ 2 := by
  have count : (values.length : K) ≠ 0 := by
    have positive := List.length_pos_iff.mpr nonempty
    exact_mod_cast positive.ne'
  unfold populationVariance
  rw [sum_sq_sub]
  field_simp
  ring

end Variance

/-! ## Variance in integers -/

/-- The variance from a count, a sum and a sum of squares, with truncated quotients. -/
def truncatedVariance (count sum squares : Int) : Int :=
  squares.tdiv count - sum.tdiv count * sum.tdiv count

/-- How far the truncated variance exceeds the exact one, in units of the squared count. -/
def varianceExcess (count sum squares : Int) : Int :=
  sum ^ 2 - (sum.tdiv count * count) ^ 2 - squares.tmod count * count

/-- A truncated quotient has a square no larger than the exact one. -/
theorem tdiv_mul_sq_le (dividend divisor : Int) :
    (dividend.tdiv divisor * divisor) ^ 2 ≤ dividend ^ 2 := by
  apply sq_le_sq.mpr
  rw [← Int.natCast_natAbs, ← Int.natCast_natAbs, Int.natAbs_mul, Int.natAbs_tdiv]
  exact_mod_cast Nat.div_mul_le_self dividend.natAbs divisor.natAbs

/-- Truncation lowers a variance by less than one. -/
theorem neg_sq_lt_varianceExcess {count : Int} (positive : 0 < count) (sum squares : Int) :
    -count ^ 2 < varianceExcess count sum squares := by
  have whole := tdiv_mul_sq_le sum count
  have rest := Int.tmod_lt_of_pos squares positive
  have fraction : squares.tmod count * count < count * count :=
    mul_lt_mul_of_pos_right rest positive
  unfold varianceExcess
  linarith [sq count]

/-- The excess is the difference of both variances over the squared count. -/
theorem truncatedVariance_sub {count : Int} (positive : 0 < count) (sum squares : Int) :
    (truncatedVariance count sum squares : ℚ) - (squares / count - (sum / count : ℚ) ^ 2) =
      varianceExcess count sum squares / count ^ 2 := by
  have divides : (count : ℚ) ≠ 0 := by exact_mod_cast positive.ne'
  have whole : (squares : ℚ) = squares.tdiv count * count + squares.tmod count := by
    exact_mod_cast (Int.tdiv_mul_add_tmod squares count).symm
  unfold truncatedVariance varianceExcess
  push_cast
  rw [whole]
  field_simp
  ring

/-- A truncated variance is within one of the exact one exactly when its excess is at most
the squared count. -/
theorem abs_truncatedVariance_sub_le_one_iff {count : Int} (positive : 0 < count)
    (sum squares : Int) :
    |(truncatedVariance count sum squares : ℚ) - (squares / count - (sum / count : ℚ) ^ 2)| ≤ 1 ↔
      varianceExcess count sum squares ≤ count ^ 2 := by
  have divides : (0 : ℚ) < (count : ℚ) ^ 2 := by
    have rational : (0 : ℚ) < count := by exact_mod_cast positive
    exact pow_pos rational 2
  have above := neg_sq_lt_varianceExcess positive sum squares
  rw [truncatedVariance_sub positive, abs_le, div_le_one divides, le_div_iff₀ divides]
  constructor
  · intro within
    exact_mod_cast within.2
  · intro small
    constructor
    · rw [neg_one_mul]
      exact_mod_cast above.le
    · exact_mod_cast small

/-- The variance of integers in one pass. -/
theorem populationVariance_intCast {values : List Int} (nonempty : values ≠ []) :
    populationVariance (values.map (Int.cast : Int → ℚ)) =
      ((values.map (· ^ 2)).sum : Int) / (values.length : Int) -
        ((values.sum : Int) / (values.length : Int) : ℚ) ^ 2 := by
  have mapped : values.map (Int.cast : Int → ℚ) ≠ [] := by simpa using nonempty
  rw [populationVariance_eq mapped, Int.cast_list_sum, Int.cast_list_sum, List.map_map,
    List.map_map, List.length_map]
  simp [Function.comp_def]

/-- The truncated variance of integers is no less than zero. -/
theorem truncatedVariance_nonneg {values : List Int} (nonempty : values ≠ []) :
    0 ≤ truncatedVariance values.length values.sum (values.map (· ^ 2)).sum := by
  have count : (0 : Int) < values.length := by
    have positive := List.length_pos_iff.mpr nonempty
    omega
  have divides : (0 : ℚ) < ((values.length : Int) : ℚ) ^ 2 := by
    have rational : (0 : ℚ) < (values.length : Int) := by exact_mod_cast count
    exact pow_pos rational 2
  have spread := populationVariance_nonneg (values.map (Int.cast : Int → ℚ))
  have difference := truncatedVariance_sub count values.sum (values.map (· ^ 2)).sum
  have above := neg_sq_lt_varianceExcess count values.sum (values.map (· ^ 2)).sum
  have excess : (-1 : ℚ) < varianceExcess values.length values.sum (values.map (· ^ 2)).sum /
      ((values.length : Int) : ℚ) ^ 2 := by
    rw [lt_div_iff₀ divides, neg_one_mul]
    exact_mod_cast above
  rw [populationVariance_intCast nonempty] at spread
  have lower : (-1 : ℚ) < truncatedVariance values.length values.sum (values.map (· ^ 2)).sum := by
    linarith
  have whole : -1 < truncatedVariance values.length values.sum (values.map (· ^ 2)).sum := by
    exact_mod_cast lower
  omega

/-! ## Values near a line -/

/-- A sum of integers, cast term by term. -/
theorem intCast_sum_map {K α : Type} [Field K] (values : List α) (f : α → Int) :
    (((values.map f).sum : Int) : K) = (values.map fun value => (f value : K)).sum := by
  rw [Int.cast_list_sum, List.map_map]
  rfl

section Line

variable {K α : Type} [Field K] [LinearOrder K] [IsStrictOrderedRing K]
variable {values : List α} {u v : α → K} {level slope noise : K}

/-- Values near a line have weighted sums near those of the line. -/
theorem abs_weighted_sub_le (near : ∀ s ∈ values, |v s - (level + slope * u s)| ≤ noise)
    (weight : α → K) :
    |(values.map fun s => weight s * v s).sum -
      (level * (values.map weight).sum + slope * (values.map fun s => weight s * u s).sum)| ≤
        noise * (values.map fun s => |weight s|).sum := by
  induction values with
  | nil => simp
  | cons s values ih =>
    have rest := ih fun t member => near t (List.mem_cons_of_mem s member)
    have here : |weight s * (v s - (level + slope * u s))| ≤ noise * |weight s| := by
      rw [abs_mul, mul_comm noise]
      exact mul_le_mul_of_nonneg_left (near s List.mem_cons_self) (abs_nonneg _)
    have split : weight s * v s + (values.map fun s => weight s * v s).sum -
        (level * (weight s + (values.map weight).sum) +
          slope * (weight s * u s + (values.map fun s => weight s * u s).sum)) =
        weight s * (v s - (level + slope * u s)) +
          ((values.map fun s => weight s * v s).sum - (level * (values.map weight).sum +
            slope * (values.map fun s => weight s * u s).sum)) := by ring
    simp only [List.map_cons, List.sum_cons]
    rw [split, mul_add]
    exact (abs_add_le _ _).trans (add_le_add here rest)

/-- Around a rough center of the values the line has a small level. -/
theorem abs_level_le (near : ∀ s ∈ values, |v s - (level + slope * u s)| ≤ noise)
    (nonempty : values ≠ []) (flat : |slope| ≤ 1 / 2)
    (centeredX : |(values.map u).sum| ≤ values.length)
    (centeredY : |(values.map v).sum| ≤ values.length) : |level| ≤ noise + 3 / 2 := by
  have count : (0 : K) < values.length := by
    have positive := List.length_pos_iff.mpr nonempty
    exact_mod_cast positive
  have sums := abs_weighted_sub_le near fun _ => 1
  have tilt : |slope * (values.map u).sum| ≤ 1 / 2 * values.length := by
    rw [abs_mul]
    exact mul_le_mul flat centeredX (abs_nonneg _) (by norm_num)
  simp only [one_mul, abs_one, List.map_const', List.sum_replicate, nsmul_eq_mul, mul_one] at sums
  have scaled : |level| * values.length ≤ (noise + 3 / 2) * values.length := by
    have residual := abs_le.mp sums
    have tilted := abs_le.mp tilt
    have sumY := abs_le.mp centeredY
    rw [← abs_of_pos count, ← abs_mul, abs_of_pos count]
    exact abs_le.mpr ⟨by linarith, by linarith⟩
  exact le_of_mul_le_mul_right scaled count

/-- Around a rough center of the values the mixed moment is near the slope times the
squared one. -/
theorem abs_moment_sub_le (near : ∀ s ∈ values, |v s - (level + slope * u s)| ≤ noise)
    (nonempty : values ≠ []) (flat : |slope| ≤ 1 / 2)
    (centeredX : |(values.map u).sum| ≤ values.length)
    (centeredY : |(values.map v).sum| ≤ values.length) :
    |(values.map fun s => u s * v s).sum - slope * (values.map fun s => u s * u s).sum| ≤
      (noise + 2) * ((values.map fun s => |u s|).sum + values.length) := by
  have small := abs_level_le near nonempty flat centeredX centeredY
  have moments := abs_weighted_sub_le near u
  have size : 0 ≤ (values.map fun s => |u s|).sum := by
    apply List.sum_nonneg
    intro distance member
    obtain ⟨s, _, rfl⟩ := List.mem_map.mp member
    exact abs_nonneg _
  have shifted : |level * (values.map u).sum| ≤ (noise + 3 / 2) * values.length := by
    rw [abs_mul]
    exact mul_le_mul small centeredX (abs_nonneg _) ((abs_nonneg _).trans small)
  have count : (0 : K) ≤ values.length := Nat.cast_nonneg _
  have residual := abs_le.mp moments
  have level' := abs_le.mp shifted
  exact abs_le.mpr ⟨by linarith, by linarith⟩

end Line

/-! ## Order statistics -/

section Order

variable {α β : Type} [LinearOrder β] {key : α → β}

/-- No more entries of a sorted list are smaller than one than stand before it. -/
theorem countP_lt_of_sorted {sorted : List α}
    (order : sorted.Pairwise fun earlier later => key earlier ≤ key later) {i : Nat}
    (inside : i < sorted.length) :
    sorted.countP (fun entry => decide (key entry < key sorted[i])) ≤ i := by
  have behind : (sorted.drop i).countP (fun entry => decide (key entry < key sorted[i])) = 0 := by
    rw [List.countP_eq_zero]
    intro entry member
    obtain ⟨j, later, rfl⟩ := List.mem_iff_getElem.mp member
    rw [List.getElem_drop]
    rw [List.length_drop] at later
    have above : key sorted[i] ≤ key sorted[i + j] := by
      rcases Nat.eq_zero_or_pos j with rfl | positive
      · exact le_rfl
      · exact List.pairwise_iff_getElem.mp order i (i + j) inside (by omega) (by omega)
    simpa using above
  calc sorted.countP (fun entry => decide (key entry < key sorted[i]))
    _ = (sorted.take i ++ sorted.drop i).countP fun entry => decide (key entry < key sorted[i]) := by
      rw [List.take_append_drop]
    _ = (sorted.take i).countP fun entry => decide (key entry < key sorted[i]) := by
      rw [List.countP_append, behind, Nat.add_zero]
    _ ≤ (sorted.take i).length := List.countP_le_length
    _ ≤ i := List.length_take_le i sorted

/-- No more are larger than stand behind it. -/
theorem countP_gt_of_sorted {sorted : List α}
    (order : sorted.Pairwise fun earlier later => key earlier ≤ key later) {i : Nat}
    (inside : i < sorted.length) :
    sorted.countP (fun entry => decide (key sorted[i] < key entry)) ≤ sorted.length - 1 - i := by
  have before : (sorted.take (i + 1)).countP (fun entry => decide (key sorted[i] < key entry)) =
      0 := by
    rw [List.countP_eq_zero]
    intro entry member
    obtain ⟨j, earlier, rfl⟩ := List.mem_iff_getElem.mp member
    rw [List.getElem_take]
    rw [List.length_take] at earlier
    have below : key sorted[j] ≤ key sorted[i] := by
      rcases Nat.lt_or_ge j i with less | more
      · exact List.pairwise_iff_getElem.mp order j i (by omega) inside less
      · obtain rfl : j = i := by omega
        exact le_rfl
    simpa using below
  calc sorted.countP (fun entry => decide (key sorted[i] < key entry))
    _ = (sorted.take (i + 1) ++ sorted.drop (i + 1)).countP fun entry =>
        decide (key sorted[i] < key entry) := by rw [List.take_append_drop]
    _ = (sorted.drop (i + 1)).countP fun entry => decide (key sorted[i] < key entry) := by
      rw [List.countP_append, before, Nat.zero_add]
    _ ≤ (sorted.drop (i + 1)).length := List.countP_le_length
    _ = sorted.length - 1 - i := by
      rw [List.length_drop]
      omega

end Order

/-! ## Deviations -/

/-- Few entries reach a threshold where the sum of squares is small. -/
theorem sq_mul_countP_le {α : Type} (values : List α) (f : α → Nat) (threshold : Nat) :
    threshold ^ 2 * values.countP (fun value => decide (threshold ≤ f value)) ≤
      (values.map fun value => f value ^ 2).sum := by
  induction values with
  | nil => simp
  | cons value rest ih =>
    rw [List.countP_cons, List.map_cons, List.sum_cons, Nat.mul_add]
    by_cases reaches : threshold ≤ f value
    · have square : threshold ^ 2 ≤ f value ^ 2 := Nat.pow_le_pow_left reaches 2
      rw [if_pos (decide_eq_true reaches), Nat.mul_one]
      omega
    · rw [if_neg (by simpa using reaches)]
      omega

/-- Fewer than a quarter of the entries exceed twice the rounded root of the mean square. -/
theorem four_mul_countP_lt {α : Type} {values : List α} (nonempty : values ≠ []) (f : α → Nat) :
    4 * values.countP (fun value => decide
      (2 * (Nat.sqrt ((values.map fun value => f value ^ 2).sum / values.length) + 1) ≤ f value)) <
        values.length := by
  have positive := List.length_pos_iff.mpr nonempty
  generalize squares : (values.map fun value => f value ^ 2).sum = total
  have below := Nat.lt_succ_sqrt' (total / values.length)
  have spread : total < (Nat.sqrt (total / values.length) + 1) ^ 2 * values.length :=
    (Nat.div_lt_iff_lt_mul positive).mp below
  have few := sq_mul_countP_le values f (2 * (Nat.sqrt (total / values.length) + 1))
  rw [squares, Nat.mul_pow] at few
  generalize values.countP _ = beyond at few ⊢
  by_contra many
  have scaled := Nat.mul_le_mul_left ((Nat.sqrt (total / values.length) + 1) ^ 2)
    (Nat.le_of_not_lt many)
  linarith

/-- The sums of squares around two centers. -/
theorem sum_sq_sub_sum_sq {R : Type} [CommRing R] (values : List R) (first second : R) :
    (values.map fun value => (value - first) ^ 2).sum -
      (values.map fun value => (value - second) ^ 2).sum =
        (first - second) * (values.length * (first + second) - 2 * values.sum) := by
  induction values with
  | nil => simp
  | cons value rest ih =>
    simp only [List.map_cons, List.sum_cons, List.length_cons, Nat.cast_add, Nat.cast_one]
    linear_combination ih

/-- Around a truncated mean the squares are hardly larger than around any other center. -/
theorem sum_sq_sub_tdiv_le {values : List Int} (nonempty : values ≠ []) (center : Int) :
    (values.map fun value => (value - values.sum.tdiv (values.length : Int)) ^ 2).sum ≤
      (values.map fun value => (value - center) ^ 2).sum + (values.length : Int) := by
  have count : (0 : Int) < values.length := by
    have positive := List.length_pos_iff.mpr nonempty
    omega
  have whole := Int.tdiv_mul_add_tmod values.sum values.length
  have above := Int.tmod_lt_of_pos values.sum count
  have below := Int.lt_tmod_of_pos values.sum count
  have difference := sum_sq_sub_sum_sq values (values.sum.tdiv values.length) center
  generalize values.sum.tdiv (values.length : Int) = mean at difference whole ⊢
  generalize values.sum.tmod (values.length : Int) = remainder at above below whole
  obtain ⟨offset, rfl⟩ : ∃ offset, center = mean - offset := ⟨mean - center, by ring⟩
  have shifted : (mean - (mean - offset)) * (values.length * (mean + (mean - offset)) -
      2 * values.sum) = -(values.length * offset ^ 2) - 2 * remainder * offset := by
    rw [← whole]
    ring
  have parabola : 0 ≤ (values.length : Int) * (|offset| - 1) ^ 2 :=
    mul_nonneg count.le (sq_nonneg _)
  have tilt : -(remainder * offset) ≤ values.length * |offset| := by
    have size : |remainder| ≤ values.length := abs_le.mpr ⟨below.le, above.le⟩
    calc -(remainder * offset)
      _ ≤ |remainder * offset| := neg_le_abs _
      _ = |remainder| * |offset| := abs_mul remainder offset
      _ ≤ values.length * |offset| := mul_le_mul_of_nonneg_right size (abs_nonneg _)
  have expanded : (values.length : Int) * (|offset| - 1) ^ 2 =
      values.length * offset ^ 2 - 2 * (values.length * |offset|) + values.length := by
    rw [← sq_abs offset]
    ring
  linarith

end Machine
