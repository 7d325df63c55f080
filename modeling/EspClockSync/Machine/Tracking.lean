import Mathlib

/-!
# Tracking a line with two gains

A tracker predicts the next reading of a line and carries a rate. Each reading corrects
the prediction by one gain and the rate by another. Its errors follow a linear recurrence
that noise and roundings disturb: combinations of the two errors contract, and the line
itself enters only through the response to a unit slope, which stays bounded.
-/

namespace Machine

variable {K : Type*} [Field K]

/-- The corrections of a tracker, as shares of the difference to a reading. -/
structure Gains (K : Type*) where
  /-- Of the prediction. -/
  offset : K
  /-- Of the rate, over one spacing. -/
  rate : K

/-- The errors of a tracker between two readings. -/
@[ext] structure TrackError (K : Type*) where
  /-- The prediction of the next reading less the line there. -/
  ahead : K
  /-- The rate less the slope of the line, over one spacing. -/
  slope : K

namespace TrackError

/-- The errors after a reading that is off the line by `noise`, with the roundings of the
prediction and of the rate. -/
def next (gains : Gains K) (error : TrackError K) (noise roundAhead roundSlope : K) :
    TrackError K where
  ahead := error.ahead + gains.offset * (noise - error.ahead) +
    (error.slope + gains.rate * (noise - error.ahead) + roundSlope) + roundAhead
  slope := error.slope + gains.rate * (noise - error.ahead) + roundSlope

/-- The errors with a multiple of other errors on top. -/
def shift (error : TrackError K) (drift : K) (response : TrackError K) : TrackError K where
  ahead := error.ahead + drift * response.ahead
  slope := error.slope + drift * response.slope

/-- A shift develops on its own, as if it were read without noise and roundings. -/
theorem shift_next (gains : Gains K) (error response : TrackError K)
    (drift noise roundAhead roundSlope : K) :
    (error.next gains noise roundAhead roundSlope).shift drift (response.next gains 0 0 0) =
      (error.shift drift response).next gains noise roundAhead roundSlope := by
  ext
  · simp only [shift, next]
    ring
  · simp only [shift, next]
    ring

/-- A combination of the errors. It contracts by its weight, up to the prediction, if the
weight is almost a root of `weight ^ 2 - (offset + rate) * weight + rate`. -/
def mode (weight : K) (error : TrackError K) : K := error.slope - weight * error.ahead

/-- One reading in a combination of the errors. -/
theorem mode_next (gains : Gains K) (weight : K) (error : TrackError K)
    (noise roundAhead roundSlope : K) :
    (error.next gains noise roundAhead roundSlope).mode weight =
      (1 - weight) * error.mode weight +
        ((weight * (gains.offset + gains.rate - weight) - gains.rate) * error.ahead +
          (gains.rate - weight * (gains.offset + gains.rate)) * noise +
          (1 - weight) * roundSlope - weight * roundAhead) := by
  simp only [mode, next]
  ring

/-- Two combinations determine the prediction. -/
theorem ahead_eq_of_modes (first second : K) (error : TrackError K) :
    (second - first) * error.ahead = error.mode first - error.mode second := by
  simp only [mode]
  ring

variable [LinearOrder K] [IsStrictOrderedRing K]

/-- What contracts by a weight stays within a bound if each step adds no more than the
weight takes from it. -/
theorem abs_contract_le {weight value added bound : K} (share : 0 ≤ weight ∧ weight ≤ 1)
    (within : |value| ≤ bound) (step : |added| ≤ weight * bound) :
    |(1 - weight) * value + added| ≤ bound := by
  have kept : |(1 - weight) * value| ≤ (1 - weight) * bound := by
    rw [abs_mul, abs_of_nonneg (sub_nonneg.mpr share.2)]
    exact mul_le_mul_of_nonneg_left within (sub_nonneg.mpr share.2)
  calc |(1 - weight) * value + added| ≤ |(1 - weight) * value| + |added| := abs_add_le _ _
    _ ≤ (1 - weight) * bound + weight * bound := add_le_add kept step
    _ = bound := by ring

/-! ## The response to a unit slope -/

/-- The errors from a tracker that starts on a line of slope one with rate zero. -/
structure Response (gains : Gains K) (weight : K) (error : TrackError K) : Prop where
  /-- The prediction stays on its side of the line. -/
  nonneg : 0 ≤ error.ahead
  /-- It is never off by more than the rate can make up for. -/
  limited : gains.offset * error.ahead ≤ 1
  /-- While the prediction is off, so is the rate. -/
  driven : weight * error.ahead ≤ error.slope
  /-- The rate does not leave the range between zero and the slope. -/
  slope_le : error.slope ≤ 1

/-- One reading keeps the response bounded. -/
theorem Response.next {gains : Gains K} {weight : K} {error : TrackError K}
    (response : error.Response gains weight)
    (small : 0 ≤ gains.offset ∧ 0 ≤ gains.rate ∧ gains.offset + gains.rate ≤ 1)
    (share : 0 ≤ weight ∧ weight ≤ 1)
    (between : gains.rate ≤ weight * (gains.offset + gains.rate - weight)) :
    (error.next gains 0 0 0).Response gains weight := by
  obtain ⟨nonneg, limited, driven, slope_le⟩ := response
  have slope_nonneg : 0 ≤ error.slope := (mul_nonneg share.1 nonneg).trans driven
  have taken : 0 ≤ gains.rate * error.ahead := mul_nonneg small.2.1 nonneg
  have kept : 0 ≤ (1 - gains.offset - gains.rate) * error.ahead :=
    mul_nonneg (by linarith only [small.2.2]) nonneg
  constructor
  · simp only [TrackError.next]
    linarith only [kept, slope_nonneg]
  · have correction : 0 ≤ gains.offset * (gains.rate * error.ahead) := mul_nonneg small.1 taken
    have rest : 0 ≤ (1 - gains.offset) * (1 - gains.offset * error.ahead) :=
      mul_nonneg (by linarith only [small.2.1, small.2.2]) (by linarith only [limited])
    have forward := mul_le_mul_of_nonneg_left slope_le small.1
    simp only [TrackError.next]
    linarith only [correction, rest, forward]
  · have margin := mul_le_mul_of_nonneg_right between nonneg
    have gained : 0 ≤ (1 - weight) * (error.slope - weight * error.ahead) :=
      mul_nonneg (by linarith only [share.2]) (by linarith only [driven])
    simp only [TrackError.next]
    linarith only [margin, gained]
  · simp only [TrackError.next]
    linarith only [taken, slope_le]

end TrackError

/-! ## Rounded division -/

/-- Two truncated quotients are one by the product. -/
theorem tdiv_tdiv_of_nonneg (dividend : Int) {first second : Int} (nonneg : 0 ≤ first) :
    (dividend.tdiv first).tdiv second = dividend.tdiv (first * second) := by
  rcases Int.le_total 0 dividend with upward | downward
  · rw [Int.tdiv_eq_ediv_of_nonneg upward, Int.tdiv_eq_ediv_of_nonneg upward,
      Int.tdiv_eq_ediv_of_nonneg (Int.ediv_nonneg upward nonneg), Int.ediv_ediv_of_nonneg nonneg]
  · obtain ⟨magnitude, rfl⟩ : ∃ magnitude, dividend = -magnitude := ⟨-dividend, by omega⟩
    have upward : 0 ≤ magnitude := by omega
    rw [Int.neg_tdiv, Int.neg_tdiv, Int.neg_tdiv, Int.tdiv_eq_ediv_of_nonneg upward,
      Int.tdiv_eq_ediv_of_nonneg upward,
      Int.tdiv_eq_ediv_of_nonneg (Int.ediv_nonneg upward nonneg), Int.ediv_ediv_of_nonneg nonneg]

/-- A quotient whose remainder is smaller than the divisor is exact up to less than one. -/
theorem exists_round_of_remainder {dividend divisor quotient : Int} (positive : 0 < divisor)
    (remainder : |dividend - quotient * divisor| < divisor) :
    ∃ round : ℝ, |round| < 1 ∧ (quotient : ℝ) = dividend / divisor + round := by
  have divides : (0 : ℝ) < divisor := Int.cast_pos.mpr positive
  have rounded : |(dividend : ℝ) - quotient * divisor| < divisor := by exact_mod_cast remainder
  refine ⟨-((dividend - quotient * divisor) / divisor), ?_, ?_⟩
  · rw [abs_neg, abs_div, abs_of_pos divides]
    exact (div_lt_one divides).mpr rounded
  · field_simp
    ring

/-- So is one that is truncated. -/
theorem exists_round_tdiv (dividend : Int) {divisor : Int} (positive : 0 < divisor) :
    ∃ round : ℝ, |round| < 1 ∧ ((dividend.tdiv divisor : Int) : ℝ) = dividend / divisor + round := by
  apply exists_round_of_remainder positive
  have whole := Int.tdiv_mul_add_tmod dividend divisor
  have upper := Int.tmod_lt_of_pos dividend positive
  have lower := Int.lt_tmod_of_pos dividend positive
  exact abs_lt.mpr ⟨by linarith only [whole, lower], by linarith only [whole, upper]⟩

/-- So is one that is rounded down. -/
theorem exists_round_ediv (dividend : Int) {divisor : Int} (positive : 0 < divisor) :
    ∃ round : ℝ, |round| < 1 ∧ ((dividend / divisor : Int) : ℝ) = dividend / divisor + round := by
  apply exists_round_of_remainder positive
  have whole := Int.ediv_mul_add_emod dividend divisor
  have upper := Int.emod_lt_of_pos dividend positive
  have lower := Int.emod_nonneg dividend positive.ne'
  exact abs_lt.mpr ⟨by linarith only [whole, lower, positive], by linarith only [whole, upper]⟩

end Machine
