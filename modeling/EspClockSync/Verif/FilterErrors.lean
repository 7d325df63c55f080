import EspClockSync.Machine.Tracking
import EspClockSync.Verif.FilterSafety

/-!
# The errors of the instant filter

On a line, the filter of gains 16 and 2048 is a tracker whose roundings are the shifts and
divisions of its fixed point. Two combinations of its errors contract, one by 1/111 and one
by 1/19 a reading, and the rest is the response to the slope of the line.
-/

namespace EspClockSync

open Machine

namespace AlphaBetaFilter

/-! ## Errors of the deployed gains -/

/-- The gains of the instant filter. -/
noncomputable def instantGains : Gains ℝ where
  offset := 1 / 16
  rate := 1 / 2048

/-- The errors of a tracker of a line that moves by `drift` a reading, with readings off by
`spread` at most: apart from the response to the slope both combinations are small. -/
def Tracks (drift spread : ℝ) (error : TrackError ℝ) : Prop :=
  ∃ response : TrackError ℝ, response.Response instantGains (1 / 100) ∧
    |(error.shift drift response).mode (37 / 4096)| ≤ spread / 100 + 1 / 100 ∧
    |(error.shift drift response).mode (221 / 4096)| ≤ spread / 16 + 1 / 500

variable {drift spread : ℝ} {error : TrackError ℝ}

/-- Small combinations come from a small prediction error. -/
theorem abs_ahead_le_of_modes (slow : |error.mode (37 / 4096)| ≤ spread / 100 + 1 / 100)
    (fast : |error.mode (221 / 4096)| ≤ spread / 16 + 1 / 500) :
    |error.ahead| ≤ 2 * spread + 1 := by
  have nonneg : 0 ≤ spread / 100 + 1 / 100 := (abs_nonneg _).trans slow
  have ahead := TrackError.ahead_eq_of_modes (37 / 4096) (221 / 4096) error
  have slowWithin := abs_le.mp slow
  have fastWithin := abs_le.mp fast
  exact abs_le.mpr ⟨by linarith, by linarith⟩

/-- The seed is off by its own noise, and the rate by the whole slope. -/
theorem Tracks.seed {noise : ℝ} (drift : ℝ) (near : |noise| ≤ spread) :
    Tracks drift spread ⟨noise - drift, -drift⟩ := by
  have within := abs_le.mp near
  refine ⟨⟨1, 1⟩, ⟨?_, ?_, ?_, ?_⟩, ?_, ?_⟩
  · norm_num
  · norm_num [instantGains]
  · norm_num
  · norm_num
  · simp only [TrackError.mode, TrackError.shift]
    exact abs_le.mpr ⟨by linarith, by linarith⟩
  · simp only [TrackError.mode, TrackError.shift]
    exact abs_le.mpr ⟨by linarith, by linarith⟩

/-- The prediction is near the line. -/
theorem Tracks.ahead_le (tracks : Tracks drift spread error) :
    |error.ahead| ≤ 2 * spread + 16 * |drift| + 1 := by
  obtain ⟨response, bounded, slow, fast⟩ := tracks
  have shifted := abs_ahead_le_of_modes slow fast
  have limited : response.ahead ≤ 16 := by
    have share := bounded.limited
    simp only [instantGains] at share
    linarith
  have response_le : |drift * response.ahead| ≤ |drift| * 16 := by
    rw [abs_mul, abs_of_nonneg bounded.nonneg]
    exact mul_le_mul_of_nonneg_left limited (abs_nonneg drift)
  have parts : error.ahead =
      (error.shift drift response).ahead - drift * response.ahead := by
    simp only [TrackError.shift]
    ring
  rw [parts]
  calc |(error.shift drift response).ahead - drift * response.ahead|
      ≤ |(error.shift drift response).ahead| + |drift * response.ahead| := abs_sub _ _
    _ ≤ 2 * spread + 1 + |drift| * 16 := add_le_add shifted response_le
    _ = 2 * spread + 16 * |drift| + 1 := by ring

/-- The rate is near the slope. -/
theorem Tracks.slope_le (tracks : Tracks drift spread error) :
    |error.slope| ≤ spread + |drift| + 1 := by
  obtain ⟨response, bounded, slow, fast⟩ := tracks
  have shifted := abs_ahead_le_of_modes slow fast
  have nonneg : 0 ≤ response.slope :=
    (mul_nonneg (by norm_num) bounded.nonneg).trans bounded.driven
  have response_le : |drift * response.slope| ≤ |drift| * 1 := by
    rw [abs_mul, abs_of_nonneg nonneg]
    exact mul_le_mul_of_nonneg_left bounded.slope_le (abs_nonneg drift)
  have parts : error.slope = (error.shift drift response).mode (37 / 4096) +
      37 / 4096 * (error.shift drift response).ahead - drift * response.slope := by
    simp only [TrackError.mode, TrackError.shift]
    ring
  have within := abs_le.mp shifted
  have slowWithin := abs_le.mp slow
  have responseWithin := abs_le.mp response_le
  rw [parts]
  exact abs_le.mpr ⟨by linarith, by linarith⟩

/-- One reading keeps a combination of the errors small. -/
theorem Tracks.next {noise roundAhead roundSlope : ℝ} (tracks : Tracks drift spread error)
    (near : |noise| ≤ spread) (ahead : |roundAhead| ≤ 2 / 2 ^ 20)
    (slope : |roundSlope| ≤ 200000 / 2 ^ 32) :
    Tracks drift spread (error.next instantGains noise roundAhead roundSlope) := by
  obtain ⟨response, bounded, slow, fast⟩ := tracks
  have shifted := abs_le.mp (abs_ahead_le_of_modes slow fast)
  have noisy := abs_le.mp near
  have rounded := abs_le.mp ahead
  have turned := abs_le.mp slope
  refine ⟨response.next instantGains 0 0 0, bounded.next ?_ ?_ ?_, ?_, ?_⟩
  · norm_num [instantGains]
  · norm_num
  · norm_num [instantGains]
  · rw [TrackError.shift_next, TrackError.mode_next]
    apply TrackError.abs_contract_le (by norm_num) slow
    simp only [instantGains]
    exact abs_le.mpr ⟨by linarith, by linarith⟩
  · rw [TrackError.shift_next, TrackError.mode_next]
    apply TrackError.abs_contract_le (by norm_num) fast
    simp only [instantGains]
    exact abs_le.mpr ⟨by linarith, by linarith⟩

/-! ## The filter as a tracker -/

/-- The line of slope `rho` through `c` at `x₀`. -/
def line (c rho : ℝ) (x₀ xUs : Int) : ℝ := c + rho * (xUs - x₀)

/-- The line one spacing later. -/
theorem line_add (c rho : ℝ) (x₀ xUs dxUs : Int) :
    line c rho x₀ (xUs + dxUs) = line c rho x₀ xUs + rho * dxUs := by
  simp only [line, Int.cast_add]
  ring

/-- The errors of a filter one spacing after its last observation. -/
noncomputable def errorOn (f : AlphaBetaFilter) (c rho : ℝ) (x₀ dxUs : Int) : TrackError ℝ where
  ahead := f.predictedQ dxUs / 2 ^ 20 - line c rho x₀ (f.lastXUs + dxUs)
  slope := (f.rateQ / 2 ^ 32 - rho) * dxUs

variable {checks : OverflowChecks} {f : AlphaBetaFilter} {dxUs observedOffsetUs : Int}

/-- A filter whose numbers are far inside the range extrapolates without saturation. -/
theorem predictedQ_of_small (spacing : 1 ≤ dxUs ∧ dxUs ≤ 200000) (offset : |f.offsetQ| ≤ 2 ^ 100)
    (rate : |f.rateQ| ≤ 2 ^ 80) : f.predictedQ dxUs = f.offsetQ + f.rateQ * dxUs / 2 ^ 12 := by
  have product : |f.rateQ * dxUs| ≤ 2 ^ 80 * 200000 := by
    rw [abs_mul]
    exact mul_le_mul rate (abs_le.mpr ⟨by omega, by omega⟩) (abs_nonneg _) (by decide)
  have within := abs_le.mp product
  have offsetWithin := abs_le.mp offset
  apply predictedQ_of_fits
  · exact ⟨by omega, by omega⟩
  · exact ⟨by omega, by omega⟩

/-- `innovation_q`, before the clamp. -/
def rawInnovationQ (f : AlphaBetaFilter) (dxUs observedOffsetUs : Int) : Int :=
  observedOffsetUs * 2 ^ 20 - f.predictedQ dxUs

/-- The rate that an innovation corrects at the instant gains. -/
def correctedRateQ (f : AlphaBetaFilter) (dxUs innovationQ : Int) : Int :=
  f.rateQ + (innovationQ * 2 ^ 12).tdiv (dxUs * 2048)

/-- A filter of the instant gains whose rate is far inside the range. -/
structure Deployed (f : AlphaBetaFilter) : Prop where
  /-- It is seeded. -/
  running : f.initialized = true
  /-- The offset gain divisor. -/
  alpha : f.alpha = 16
  /-- The rate gain divisor. -/
  beta : f.beta = 2048
  /-- The rate. -/
  rate : |f.rateQ| ≤ 2 ^ 60

/-- What is not clamped adds little to the rate. -/
theorem Deployed.abs_correctedRateQ_le {innovationQ : Int} (deployed : f.Deployed)
    (spacing : 1 ≤ dxUs) (unclamped : |innovationQ| ≤ maxInnovationQ) :
    |f.correctedRateQ dxUs innovationQ| ≤ 2 ^ 61 := by
  have shifted : |innovationQ * 2 ^ 12| ≤ 1000 * 2 ^ 32 := by
    rw [abs_mul]
    exact mul_le_mul_of_nonneg_right unclamped (by decide)
  have correction := abs_tdiv_le (show 0 < dxUs * 2048 by omega) shifted
  have short := Int.ediv_le_self (dxUs * 2048) (show (0 : Int) ≤ 1000 * 2 ^ 32 by decide)
  have rate := deployed.rate
  unfold correctedRateQ
  exact (abs_add_le _ _).trans (by omega)

/-- The filter after an observation that is not clamped. -/
theorem Deployed.next_eq (deployed : f.Deployed) (spacing : 1 ≤ dxUs)
    (unclamped : |f.rawInnovationQ dxUs observedOffsetUs| ≤ maxInnovationQ) :
    f.next (f.lastXUs + dxUs) observedOffsetUs =
      { f with
        offsetQ := f.predictedQ dxUs + (f.rawInnovationQ dxUs observedOffsetUs).tdiv 16
        rateQ := f.correctedRateQ dxUs (f.rawInnovationQ dxUs observedOffsetUs)
        lastXUs := f.lastXUs + dxUs } := by
  have elapsed : f.lastXUs + dxUs - f.lastXUs = dxUs := by omega
  have innovation : f.innovationQ (f.lastXUs + dxUs) observedOffsetUs =
      f.rawInnovationQ dxUs observedOffsetUs := by
    have within := abs_le.mp unclamped
    unfold rawInnovationQ at within ⊢
    unfold innovationQ
    rw [elapsed, min_eq_left within.2, max_eq_right within.1]
  have later : ¬ f.lastXUs + dxUs ≤ f.lastXUs := by omega
  have divisors : (f.alpha.toNat : Int) = 16 ∧ (f.beta.toNat : Int) = 2048 := by
    rw [deployed.alpha, deployed.beta]
    decide
  have moved := abs_le.mp (deployed.abs_correctedRateQ_le spacing unclamped)
  unfold correctedRateQ at moved ⊢
  unfold next
  rw [if_neg (by simp [deployed.running]), if_neg later, innovation, elapsed, divisors.1, divisors.2,
    tdiv_tdiv_of_nonneg _ (by omega), saturateI128_of_fits ⟨by omega, by omega⟩]

/-- Readings in range keep every plain operation in range. -/
theorem Deployed.observeFits (deployed : f.Deployed) (spacing : 1 ≤ dxUs ∧ dxUs ≤ 200000)
    (predicted : |f.predictedQ dxUs| ≤ 2 ^ 72) (range : |observedOffsetUs| < 2 ^ 50) :
    f.ObserveFits (f.lastXUs + dxUs) observedOffsetUs := by
  have elapsed : f.lastXUs + dxUs - f.lastXUs = dxUs := by omega
  have gains : (f.alpha.toNat : Int) = 16 ∧ (f.beta.toNat : Int) = 2048 := by
    rw [deployed.alpha, deployed.beta]
    decide
  have clamped := f.abs_innovationQ_le (f.lastXUs + dxUs) observedOffsetUs
  have correction := abs_tdiv_le (show (0 : Int) < 16 by decide) clamped
  have within := abs_lt.mp range
  have predictedWithin := abs_le.mp predicted
  have clampedWithin := abs_le.mp clamped
  have correctionWithin := abs_le.mp correction
  constructor
  · exact ⟨by omega, by omega⟩
  · intro _
    rw [elapsed]
    exact ⟨by omega, by omega⟩
  · intro _ _
    rw [elapsed]
    exact ⟨by omega, by omega⟩
  · intro _ _
    exact ⟨by omega, by omega⟩
  · intro _ _
    rw [elapsed, gains.1]
    exact ⟨by omega, by omega⟩
  · exact ⟨by omega, by omega⟩

/-- Its prediction one spacing later. -/
theorem Deployed.predictedQ_next (deployed : f.Deployed) (spacing : 1 ≤ dxUs ∧ dxUs ≤ 200000)
    (unclamped : |f.rawInnovationQ dxUs observedOffsetUs| ≤ maxInnovationQ)
    (predicted : |f.predictedQ dxUs| ≤ 2 ^ 80) :
    (f.next (f.lastXUs + dxUs) observedOffsetUs).predictedQ dxUs =
      f.predictedQ dxUs + (f.rawInnovationQ dxUs observedOffsetUs).tdiv 16 +
        f.correctedRateQ dxUs (f.rawInnovationQ dxUs observedOffsetUs) * dxUs / 2 ^ 12 := by
  have rate := deployed.abs_correctedRateQ_le spacing.1 unclamped
  have correction := abs_tdiv_le (show (0 : Int) < 16 by decide) unclamped
  have offset : |f.predictedQ dxUs + (f.rawInnovationQ dxUs observedOffsetUs).tdiv 16| ≤ 2 ^ 100 := by
    apply (abs_add_le _ _).trans
    unfold maxInnovationQ at correction
    omega
  rw [deployed.next_eq spacing.1 unclamped]
  exact predictedQ_of_small spacing offset (rate.trans (by decide))

/-- The corrected rate is exact up to one unit. -/
theorem exists_round_correctedRateQ (f : AlphaBetaFilter) (innovationQ : Int) (spacing : 1 ≤ dxUs) :
    ∃ round : ℝ, |round| < 1 ∧ (f.correctedRateQ dxUs innovationQ : ℝ) =
      f.rateQ + (innovationQ * 2 ^ 12 / (dxUs * 2048) + round) := by
  obtain ⟨round, rounds, rate⟩ :=
    exists_round_tdiv (innovationQ * 2 ^ 12) (show 0 < dxUs * 2048 by omega)
  refine ⟨round, rounds, ?_⟩
  rw [correctedRateQ, Int.cast_add, rate]
  norm_num

/-- So is the extrapolation, up to two units. -/
theorem Deployed.exists_round_predictedQ (deployed : f.Deployed)
    (spacing : 1 ≤ dxUs ∧ dxUs ≤ 200000)
    (unclamped : |f.rawInnovationQ dxUs observedOffsetUs| ≤ maxInnovationQ)
    (predicted : |f.predictedQ dxUs| ≤ 2 ^ 80) :
    ∃ round : ℝ, |round| ≤ 2 ∧
      ((f.next (f.lastXUs + dxUs) observedOffsetUs).predictedQ dxUs : ℝ) =
        f.predictedQ dxUs + f.rawInnovationQ dxUs observedOffsetUs / 16 +
          f.correctedRateQ dxUs (f.rawInnovationQ dxUs observedOffsetUs) * dxUs / 2 ^ 12 + round := by
  rw [deployed.predictedQ_next spacing unclamped predicted]
  generalize f.rawInnovationQ dxUs observedOffsetUs = innovationQ
  obtain ⟨offsetRound, offset_rounds, offset⟩ :=
    exists_round_tdiv innovationQ (show (0 : Int) < 16 by decide)
  obtain ⟨shiftRound, shift_rounds, shift⟩ :=
    exists_round_ediv (f.correctedRateQ dxUs innovationQ * dxUs) (show (0 : Int) < 2 ^ 12 by decide)
  refine ⟨offsetRound + shiftRound, ?_, ?_⟩
  · calc |offsetRound + shiftRound| ≤ |offsetRound| + |shiftRound| := abs_add_le _ _
      _ ≤ 1 + 1 := add_le_add offset_rounds.le shift_rounds.le
      _ = 2 := by norm_num
  · simp only [Int.cast_add, offset, shift, Int.cast_mul]
    push_cast
    ring

/-- **Step.** An observation that is not clamped moves the errors of the filter like those
of a tracker, up to the roundings of one shift and two divisions. -/
theorem Deployed.errorOn_next (deployed : f.Deployed) (spacing : 1 ≤ dxUs ∧ dxUs ≤ 200000)
    (unclamped : |f.rawInnovationQ dxUs observedOffsetUs| ≤ maxInnovationQ)
    (predicted : |f.predictedQ dxUs| ≤ 2 ^ 80) (c rho : ℝ) (x₀ : Int) :
    ∃ roundAhead roundSlope : ℝ, |roundAhead| ≤ 2 / 2 ^ 20 ∧ |roundSlope| ≤ 200000 / 2 ^ 32 ∧
      (f.next (f.lastXUs + dxUs) observedOffsetUs).errorOn c rho x₀ dxUs =
        (f.errorOn c rho x₀ dxUs).next instantGains
          (observedOffsetUs - line c rho x₀ (f.lastXUs + dxUs)) roundAhead roundSlope := by
  have innovation : (f.rawInnovationQ dxUs observedOffsetUs : ℝ) =
      observedOffsetUs * 2 ^ 20 - f.predictedQ dxUs := by
    simp only [rawInnovationQ, Int.cast_sub, Int.cast_mul, Int.cast_pow, Int.cast_ofNat]
  have positive : (0 : ℝ) < dxUs := by exact_mod_cast (by omega : 0 < dxUs)
  have short : (dxUs : ℝ) ≤ 200000 := by exact_mod_cast spacing.2
  have next_eq := deployed.next_eq spacing.1 unclamped
  obtain ⟨aheadRound, ahead_rounds, ahead⟩ :=
    deployed.exists_round_predictedQ spacing unclamped predicted
  obtain ⟨rateRound, rate_rounds, rate⟩ :=
    f.exists_round_correctedRateQ (f.rawInnovationQ dxUs observedOffsetUs) spacing.1
  refine ⟨aheadRound / 2 ^ 20, rateRound * dxUs / 2 ^ 32, ?_, ?_, ?_⟩
  · rw [abs_div, abs_of_pos (by norm_num : (0 : ℝ) < 2 ^ 20)]
    exact div_le_div_of_nonneg_right ahead_rounds (by norm_num)
  · rw [abs_div, abs_of_pos (by norm_num : (0 : ℝ) < 2 ^ 32), abs_mul, abs_of_pos positive]
    apply div_le_div_of_nonneg_right _ (by norm_num)
    linarith [mul_le_mul rate_rounds.le short positive.le zero_le_one]
  · apply TrackError.ext
    · simp only [errorOn, TrackError.next, instantGains, line]
      rw [ahead, next_eq, rate, innovation]
      push_cast
      field_simp
      ring
    · simp only [errorOn, TrackError.next, instantGains, line]
      rw [next_eq]
      dsimp only
      rw [rate, innovation]
      push_cast
      field_simp
      ring

end AlphaBetaFilter

end EspClockSync
