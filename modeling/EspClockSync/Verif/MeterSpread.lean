import EspClockSync.Machine.Statistics
import EspClockSync.Verif.MeterSteps

/-!
# The spread of the skew meter

The meter keeps the sum of its differences and the sum of their squares and takes the
variance from two truncated quotients. What truncation takes from the mean counts twice the
mean in its square: the variance is right for small means and whole ones, and too large by
up to twice the mean otherwise.
-/

namespace EspClockSync

open Machine

namespace Meter

variable {checks : OverflowChecks} {root : U128 → U64}

namespace DirStats

/-- The statistics of these differences. -/
def recordAll (checks : OverflowChecks) (root : U128 → U64) (deltas : List Int) :
    Checked DirStats :=
  deltas.foldlM (record checks root) default

/-- The differences in whole microseconds. -/
def microseconds (deltas : List Int) : List Int := deltas.map deltaUs

/-- `sum_us` after these differences. -/
def sumOf (deltas : List Int) : Int := (microseconds deltas).sum

/-- `sum_sq_us` after these differences. -/
def squaresOf (deltas : List Int) : Int := ((microseconds deltas).map (· ^ 2)).sum

/-- `var.max(0)` after these differences. -/
def varianceOf (deltas : List Int) : Int :=
  max (truncatedVariance deltas.length (sumOf deltas) (squaresOf deltas)) 0

/-- The exact variance of the same microseconds. -/
def exactVarianceOf (deltas : List Int) : ℚ :=
  populationVariance ((microseconds deltas).map (Int.cast : Int → ℚ))

/-- The integer variance of these differences is within one of the exact one, and so is its
root in whole microseconds. -/
def SpreadRight (deltas : List Int) : Prop :=
  |(varianceOf deltas : ℚ) - exactVarianceOf deltas| ≤ 1 ∧
    |((exactRoot (BitVec.ofInt 128 (varianceOf deltas))).toNat : ℝ) -
      √(exactVarianceOf deltas : ℝ)| ≤ 1

/-! ## What one record computes -/

/-- The sums of these differences. -/
structure Sums (stats : DirStats) (deltas : List Int) : Prop where
  /-- Their number. -/
  count : stats.n.toNat = deltas.length
  /-- Their sum. -/
  sum : stats.sumUs = sumOf deltas
  /-- The sum of their squares. -/
  squares : stats.sumSqUs = squaresOf deltas

/-- One more difference. -/
theorem sumOf_concat (deltas : List Int) (delta : Int) :
    sumOf (deltas ++ [delta]) = sumOf deltas + deltaUs delta := by
  simp [sumOf, microseconds]

/-- One more square. -/
theorem squaresOf_concat (deltas : List Int) (delta : Int) :
    squaresOf (deltas ++ [delta]) = squaresOf deltas + deltaUs delta * deltaUs delta := by
  simp [squaresOf, microseconds, sq]

/-- Few enough differences, each below `2 ^ 60` nanoseconds. -/
structure Small (deltas : List Int) : Prop where
  /-- Their number. -/
  short : deltas.length ≤ 2 ^ 10
  /-- Their size. -/
  each : ∀ delta ∈ deltas, |delta| < 2 ^ 60

/-- A difference below `2 ^ 60` nanoseconds is below `2 ^ 51` microseconds. -/
theorem abs_deltaUs_le {delta : Int} (small : |delta| < 2 ^ 60) : |deltaUs delta| ≤ 2 ^ 51 := by
  have quotient := abs_tdiv_le (show (0 : Int) < 1000 by decide) small.le
  have within := abs_le.mp quotient
  have fits : I64Fits (delta.tdiv 1000) := ⟨by omega, by omega⟩
  unfold deltaUs
  rw [wrapI64_of_fits fits]
  exact quotient.trans (by decide)

/-- The sums of small differences are far inside their types. -/
theorem Small.sums_le {deltas : List Int} (small : Small deltas) :
    |sumOf deltas| ≤ deltas.length * 2 ^ 51 ∧
      0 ≤ squaresOf deltas ∧ squaresOf deltas ≤ deltas.length * 2 ^ 102 := by
  have range : ∀ delta ∈ deltas, -2 ^ 51 ≤ deltaUs delta ∧ deltaUs delta ≤ 2 ^ 51 :=
    fun delta member => abs_le.mp (abs_deltaUs_le (small.each delta member))
  have squares : ∀ delta ∈ deltas, 0 ≤ deltaUs delta ^ 2 ∧ deltaUs delta ^ 2 ≤ (2 ^ 51) ^ 2 :=
    fun delta member => ⟨sq_nonneg _, sq_le_sq' (range delta member).1 (range delta member).2⟩
  have total := sum_between range
  have squared := sum_between squares
  unfold sumOf squaresOf microseconds
  rw [mul_zero] at squared
  rw [List.map_map]
  exact ⟨abs_le.mpr ⟨by linarith [total.1], total.2⟩, squared.1,
    squared.2.trans_eq (by norm_num)⟩

/-- So are their means. -/
theorem Small.means_le {deltas : List Int} (small : Small deltas) (nonempty : deltas ≠ []) :
    |(sumOf deltas).tdiv deltas.length| ≤ 2 ^ 51 ∧
      0 ≤ (squaresOf deltas).tdiv deltas.length ∧
      (squaresOf deltas).tdiv deltas.length ≤ 2 ^ 102 := by
  have sums := small.sums_le
  have total := abs_le.mp sums.1
  have count := int_length_pos nonempty
  have above : deltas.length * -2 ^ 51 ≤ sumOf deltas := by linarith [total.1]
  have nonneg : deltas.length * 0 ≤ squaresOf deltas := by linarith [sums.2.1]
  exact ⟨abs_le.mpr (tdiv_between count above total.2), tdiv_between count nonneg sums.2.2⟩

/-- The statistics after one more difference, from the new count and sums. -/
def taking (stats : DirStats) (root : U128 → U64) (delta : Int) (n : Nat) (sum squares : Int) :
    DirStats where
  n := BitVec.ofNat 64 n
  sumUs := sum
  sumSqUs := squares
  maxAbsUs :=
    if stats.maxAbsUs.toNat < (unsignedAbs (deltaUs delta)).toNat then unsignedAbs (deltaUs delta)
    else stats.maxAbsUs
  recentAbsUs := pushRecent stats.recentAbsUs (unsignedAbs (deltaUs delta))
  p99AbsUs := percentile99 (pushRecent stats.recentAbsUs (unsignedAbs (deltaUs delta)))
  meanUs := sum.tdiv n
  stddevUs := root (BitVec.ofInt 128 (max (truncatedVariance n sum squares) 0))

/-- A record whose operations stay in range. -/
theorem record_eq_taking {stats : DirStats} {delta : Int} {n : Nat} {sum squares : Int}
    (counted : stats.n.toNat + 1 = n) (summed : stats.sumUs + deltaUs delta = sum)
    (squared : stats.sumSqUs + deltaUs delta * deltaUs delta = squares) (short : n < 2 ^ 63)
    (sumFits : I64Fits sum) (squaresFit : I128Fits squares)
    (varianceFits : I128Fits (truncatedVariance n sum squares)) (root : U128 → U64)
    (checks : OverflowChecks) :
    stats.record checks root delta = .ok (stats.taking root delta n sum squares) := by
  have divisor : wrapI64 (n : Int) = n := wrapI64_of_fits ⟨by omega, by omega⟩
  have mean : divI64 sum n = .ok (sum.tdiv n) := divI64_pos sum (by omega)
  unfold truncatedVariance at varianceFits
  unfold DirStats.record
  dsimp only
  rw [counted, checks.unsigned_ok (by omega), ok_bind, summed, checks.i64_ok sumFits, ok_bind,
    squared, checks.i128_ok squaresFit, ok_bind, divisor, mean, ok_bind,
    divI128_pos _ (by omega), ok_bind, checks.i128_ok varianceFits, ok_bind]
  rfl

/-- **Step.** One more small difference is recorded without overflow, with the variance of all. -/
theorem Sums.record {stats : DirStats} {deltas : List Int} {delta : Int} (held : stats.Sums deltas)
    (small : Small (deltas ++ [delta])) (root : U128 → U64) :
    ∃ after : DirStats, (∀ checks, stats.record checks root delta = .ok after) ∧
      after.Sums (deltas ++ [delta]) ∧
      after.stddevUs = root (BitVec.ofInt 128 (varianceOf (deltas ++ [delta]))) := by
  have short := small.short
  have sums := small.sums_le
  have means := small.means_le (by simp)
  have total := abs_le.mp sums.1
  have length_eq : (deltas ++ [delta]).length = deltas.length + 1 := by simp
  have counted : stats.n.toNat + 1 = (deltas ++ [delta]).length := by rw [held.count, length_eq]
  have summed : stats.sumUs + deltaUs delta = sumOf (deltas ++ [delta]) := by
    rw [sumOf_concat, held.sum]
  have squared : stats.sumSqUs + deltaUs delta * deltaUs delta = squaresOf (deltas ++ [delta]) := by
    rw [squaresOf_concat, held.squares]
  have sumFits : I64Fits (sumOf (deltas ++ [delta])) := ⟨by omega, by omega⟩
  have squaresFit : I128Fits (squaresOf (deltas ++ [delta])) := ⟨by omega, by omega⟩
  have varianceFits : I128Fits (truncatedVariance (deltas ++ [delta]).length
      (sumOf (deltas ++ [delta])) (squaresOf (deltas ++ [delta]))) := by
    have mean := abs_le.mp means.1
    have product := sq_le_sq' mean.1 mean.2
    have positive := mul_self_nonneg ((sumOf (deltas ++ [delta])).tdiv (deltas ++ [delta]).length)
    rw [sq] at product
    unfold truncatedVariance
    constructor
    · linarith [means.2.1]
    · linarith [means.2.2]
  refine ⟨_, record_eq_taking counted summed squared (by omega) sumFits squaresFit varianceFits root,
    ⟨?_, rfl, rfl⟩, rfl⟩
  change (BitVec.ofNat 64 _).toNat = _
  rw [BitVec.toNat_ofNat, Nat.mod_eq_of_lt (by omega)]

/-- **Run.** Small differences are recorded without overflow, and the reported deviation is
the root of their variance. -/
theorem Sums.recordAll {deltas : List Int} (small : Small deltas) (root : U128 → U64) :
    ∃ stats : DirStats, (∀ checks, recordAll checks root deltas = .ok stats) ∧ stats.Sums deltas ∧
      (deltas ≠ [] → stats.stddevUs = root (BitVec.ofInt 128 (varianceOf deltas))) := by
  induction deltas using List.reverseRecOn with
  | nil => exact ⟨default, fun checks => rfl, ⟨rfl, rfl, rfl⟩, fun nonempty => absurd rfl nonempty⟩
  | append_singleton deltas delta ih =>
    have shorter := small.short
    rw [List.length_append, List.length_singleton] at shorter
    have kept : Small deltas :=
      ⟨by omega, fun delta member => small.each delta (List.mem_append_left _ member)⟩
    obtain ⟨before, earlier, held, _⟩ := ih kept
    obtain ⟨after, recorded, sums, deviation⟩ := held.record small root
    refine ⟨after, fun checks => ?_, sums, fun _ => deviation⟩
    have before_eq := earlier checks
    unfold DirStats.recordAll at before_eq ⊢
    rw [foldlM_concat, before_eq, ok_bind]
    exact recorded checks

/-! ## When the spread is right -/

/-- The variance of recorded differences is the truncated one; the clamp never acts. -/
theorem varianceOf_eq {deltas : List Int} (nonempty : deltas ≠ []) :
    varianceOf deltas = truncatedVariance deltas.length (sumOf deltas) (squaresOf deltas) ∧
      0 ≤ varianceOf deltas := by
  have mapped : microseconds deltas ≠ [] := by simpa [microseconds] using nonempty
  have nonneg := truncatedVariance_nonneg mapped
  have length_eq : (microseconds deltas).length = deltas.length := List.length_map _
  rw [length_eq] at nonneg
  unfold varianceOf
  exact ⟨max_eq_left nonneg, le_max_right _ _⟩

/-- The exact variance in one pass. -/
theorem exactVarianceOf_eq {deltas : List Int} (nonempty : deltas ≠ []) :
    exactVarianceOf deltas = squaresOf deltas / (deltas.length : Int) -
      (sumOf deltas / (deltas.length : Int) : ℚ) ^ 2 := by
  have mapped : microseconds deltas ≠ [] := by simpa [microseconds] using nonempty
  have length_eq : (microseconds deltas).length = deltas.length := List.length_map _
  unfold exactVarianceOf
  rw [populationVariance_intCast mapped, length_eq]
  rfl

/-- A whole root of an integer is within one of the root of every value within one of it. -/
theorem abs_natSqrt_sub_sqrt_le {variance : Nat} {exactVariance : ℝ} (nonneg : 0 ≤ exactVariance)
    (near : |(variance : ℝ) - exactVariance| ≤ 1) :
    |(Nat.sqrt variance : ℝ) - √exactVariance| ≤ 1 := by
  have within := abs_le.mp near
  have below : ((Nat.sqrt variance : ℕ) : ℝ) ^ 2 ≤ variance := by
    exact_mod_cast Nat.sqrt_le' variance
  have above : (variance : ℝ) + 1 ≤ ((Nat.sqrt variance : ℕ) + 1 : ℝ) ^ 2 := by
    exact_mod_cast Nat.succ_le_succ_sqrt' variance
  have root := Real.sq_sqrt nonneg
  have positive := Real.sqrt_nonneg exactVariance
  apply abs_le.mpr
  constructor
  · have upper : √exactVariance ≤ Nat.sqrt variance + 1 :=
      Real.sqrt_le_iff.mpr ⟨by positivity, by linarith⟩
    linarith
  · have lower : (Nat.sqrt variance : ℝ) ≤ √exactVariance + 1 := by
      apply le_of_sq_le_sq _ (by linarith)
      linarith [add_sq (√exactVariance) 1]
    linarith

/-- The root of a variance of this size is stored whole. -/
theorem exactRoot_ofInt {whole : Nat} (small : (whole : Int) ≤ 2 ^ 102) :
    (exactRoot (BitVec.ofInt 128 (whole : Int))).toNat = Nat.sqrt whole := by
  have stored : (BitVec.ofInt 128 (whole : Int)).toNat = whole := by
    rw [BitVec.toNat_ofInt]
    omega
  have smallRoot : Nat.sqrt whole < 2 ^ 52 := by
    rw [Nat.sqrt_lt']
    omega
  unfold exactRoot
  rw [stored, BitVec.toNat_ofNat, Nat.mod_eq_of_lt (by omega)]

/-- The spread is right exactly when the square of the mean loses at most one, and the
fraction that the mean of the squares loses, to truncation. -/
theorem spreadRight_iff {deltas : List Int} (small : Small deltas) (nonempty : deltas ≠ []) :
    SpreadRight deltas ↔
      sumOf deltas ^ 2 - ((sumOf deltas).tdiv deltas.length * deltas.length) ^ 2 ≤
        (deltas.length : Int) ^ 2 + (squaresOf deltas).tmod deltas.length * deltas.length := by
  have count := int_length_pos nonempty
  have variance := varianceOf_eq nonempty
  have variance_le : varianceOf deltas ≤ 2 ^ 102 := by
    have means := small.means_le nonempty
    have positive := mul_self_nonneg ((sumOf deltas).tdiv deltas.length)
    rw [variance.1]
    unfold truncatedVariance
    linarith [means.2.2]
  have spread := abs_truncatedVariance_sub_le_one_iff count (sumOf deltas) (squaresOf deltas)
  rw [← variance.1, ← exactVarianceOf_eq nonempty] at spread
  have excess : varianceExcess deltas.length (sumOf deltas) (squaresOf deltas) ≤
      (deltas.length : Int) ^ 2 ↔
      sumOf deltas ^ 2 - ((sumOf deltas).tdiv deltas.length * deltas.length) ^ 2 ≤
        (deltas.length : Int) ^ 2 + (squaresOf deltas).tmod deltas.length * deltas.length := by
    unfold varianceExcess
    constructor
    · intro bounded
      linarith
    · intro bounded
      linarith
  rw [← excess, ← spread]
  unfold SpreadRight
  constructor
  · exact fun right => right.1
  · intro near
    refine ⟨near, ?_⟩
    obtain ⟨whole, whole_eq⟩ := Int.eq_ofNat_of_zero_le variance.2
    rw [whole_eq] at near variance_le ⊢
    rw [exactRoot_ofInt variance_le]
    have real : |(whole : ℝ) - (exactVarianceOf deltas : ℝ)| ≤ 1 := by exact_mod_cast near
    have nonneg : (0 : ℝ) ≤ exactVarianceOf deltas := by
      exact_mod_cast populationVariance_nonneg _
    exact abs_natSqrt_sub_sqrt_le nonneg real

end DirStats

/-- **The spread of the skew meter.** Every nonempty list of small differences is recorded
without overflow, and the reported deviation is the root of its integer variance. Variance
and root are within one of the exact ones exactly when the square of the mean of the
microseconds exceeds the square of the truncated mean by at most one and the fraction of the
mean of the squares. -/
theorem spread_right_iff {deltas : List Int} (nonempty : deltas ≠ [])
    (short : deltas.length ≤ 2 ^ 10) (each : ∀ delta ∈ deltas, |delta| < 2 ^ 60) :
    (∀ root, ∃ stats : DirStats, (∀ checks, DirStats.recordAll checks root deltas = .ok stats) ∧
      stats.stddevUs = root (BitVec.ofInt 128 (DirStats.varianceOf deltas))) ∧
    (DirStats.SpreadRight deltas ↔
      DirStats.sumOf deltas ^ 2 -
          ((DirStats.sumOf deltas).tdiv deltas.length * deltas.length) ^ 2 ≤
        (deltas.length : Int) ^ 2 +
          (DirStats.squaresOf deltas).tmod deltas.length * deltas.length) := by
  have small : DirStats.Small deltas := ⟨short, each⟩
  constructor
  · intro root
    obtain ⟨stats, recorded, _, deviation⟩ := DirStats.Sums.recordAll small root
    exact ⟨stats, recorded, deviation nonempty⟩
  · exact DirStats.spreadRight_iff small nonempty

/-- Two differences of 40 and 42 ms have a whole mean and the right spread. -/
theorem spread_right_whole_mean : DirStats.SpreadRight [40000000, 42000000] :=
  (spread_right_iff (by decide) (by decide) (by decide)).2.mpr (by decide)

/-- Two differences of 40 ms and a microsecond apart have a variance of a quarter and are
reported with a variance of 40000. -/
theorem spread_wrong_fraction :
    (∀ root, ∃ stats : DirStats,
      DirStats.recordAll .enabled root [40000000, 40001000] = .ok stats ∧
        stats.stddevUs = root 40000) ∧
      DirStats.exactVarianceOf [40000000, 40001000] = 1 / 4 ∧
      ¬ DirStats.SpreadRight [40000000, 40001000] := by
  have reported : DirStats.varianceOf [40000000, 40001000] = 40000 := by decide
  have spread : DirStats.exactVarianceOf [40000000, 40001000] = 1 / 4 := by
    norm_num [DirStats.exactVarianceOf, DirStats.microseconds, populationVariance,
      show DirStats.deltaUs 40000000 = 40000 by decide,
      show DirStats.deltaUs 40001000 = 40001 by decide]
  refine ⟨fun root => ?_, spread, fun right => ?_⟩
  · have small : DirStats.Small [40000000, 40001000] := ⟨by decide, by decide⟩
    obtain ⟨stats, recorded, _, deviation⟩ := DirStats.Sums.recordAll small root
    refine ⟨stats, recorded .enabled, ?_⟩
    rw [deviation (by decide), reported]
    rfl
  · have near := right.1
    rw [reported, spread] at near
    norm_num at near

end Meter

end EspClockSync
