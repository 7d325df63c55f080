import EspClockSync.Machine.Extrapolation
import EspClockSync.Rig.Calibrate
import EspClockSync.Verif.CaptureUnwrap

/-!
# The accuracy of the calibration

Two readings four seconds apart fix the rate of the capture timer to half a part in a million
for every microsecond of their error. What is converted by that rate is off by as much for
every tick since the first reading, which is the 30 µs after a minute that the rig allows for.
-/

namespace EspClockSync

open Machine

namespace McpwmCap

/-- The readings of `init` are of a timer of 80 ticks a microsecond, within one wrap. -/
structure Sampled (phase : ℚ) (error : Nat) (packed : U64) (first second : ClockReading)
    (timer0 timer1 : U64) : Prop where
  /-- The first capture latches this. -/
  firstRaw : first.raw = rawOf timer0
  /-- The second one that. -/
  secondRaw : second.raw = rawOf timer1
  /-- No wrap was lost before the first one. -/
  start : packed.toNat ≤ timer0.toNat ∧ timer0.toNat < packed.toNat + 2 ^ 32
  /-- Nor between them. -/
  window : timer1.toNat < timer0.toNat + 2 ^ 32
  /-- The clock at the first one. -/
  firstReads : ReadsAt 80 phase (error : ℚ) timer0.toNat first.instantUs.toNat
  /-- The clock at the second one. -/
  secondReads : ReadsAt 80 phase (error : ℚ) timer1.toNat second.instantUs.toNat
  /-- The wait is over. -/
  waited : first.instantUs.toNat + 4000000 ≤ second.instantUs.toNat
  /-- Both are an `i64`. -/
  range : second.instantUs.toNat < 2 ^ 63
  /-- The errors are small against the wait. -/
  small : error ≤ 2 ^ 20

/-- The part of a tick that a measured rate is off by. -/
def rateError (error : Nat) (timer0 timer1 : U64) : ℚ :=
  2 * error / ((timer1.toNat : ℚ) - timer0.toNat) + 80 * (1 / 2 ^ 32)

/-- The cells hold what is measured between two readings. -/
structure Calibration.MeasuredBetween (calibration : Calibration) (first second : ClockReading)
    (timer0 timer1 : U64) : Prop where
  /-- The anchor in ticks. -/
  cap : calibration.capAnchorTicks = timer0
  /-- The anchor of the clock. -/
  instant : calibration.instantAnchorUs = first.instantUs.toNat
  /-- The rate. -/
  rate : calibration.usPerTickInstantQ32 =
    measuredRateQ32 (second.instantUs - first.instantUs) (timer1 - timer0)

section Readings

variable {phase : ℚ} {error : Nat} {packed : U64} {first second : ClockReading}
  {timer0 timer1 : U64}

/-- The timer has advanced by about 80 ticks for every microsecond waited. -/
theorem Sampled.elapsed (sampled : Sampled phase error packed first second timer0 timer1) :
    timer0.toNat + 80 * (second.instantUs.toNat - first.instantUs.toNat) ≤
      timer1.toNat + 2 * error := by
  have lower := (abs_le.mp sampled.firstReads).1
  have upper := (abs_le.mp sampled.secondReads).2
  have exact_elapsed : (timer0.toNat : ℚ) + 80 * (second.instantUs.toNat - first.instantUs.toNat) ≤
      timer1.toNat + 2 * error := by linarith only [lower, upper]
  have waited := sampled.waited
  zify [show first.instantUs.toNat ≤ second.instantUs.toNat by omega]
  exact_mod_cast exact_elapsed

/-- So much that no error outweighs it. -/
theorem Sampled.forward (sampled : Sampled phase error packed first second timer0 timer1) :
    timer0.toNat + 317900000 ≤ timer1.toNat := by
  have elapsed := sampled.elapsed
  have waited := sampled.waited
  have small := sampled.small
  omega

/-- The error of the rate is a small part of a tick. -/
theorem Sampled.rateError_lt (sampled : Sampled phase error packed first second timer0 timer1) :
    rateError error timer0 timer1 < 1 / 100 := by
  have forward : (317900000 : ℚ) ≤ timer1.toNat - timer0.toNat := by
    have order := sampled.forward
    have cast : (timer0.toNat : ℚ) + 317900000 ≤ timer1.toNat := by exact_mod_cast order
    linarith only [cast]
  have small : (error : ℚ) ≤ 2 ^ 20 := by exact_mod_cast sampled.small
  have quotient : 2 * (error : ℚ) / ((timer1.toNat : ℚ) - timer0.toNat) ≤
      2 * 2 ^ 20 / 317900000 :=
    div_le_div₀ (by norm_num) (by linarith only [small]) (by norm_num) forward
  unfold rateError
  norm_num at quotient ⊢
  linarith only [quotient]

/-- What `init` measures. -/
theorem init_eq (checks : OverflowChecks)
    (sampled : Sampled phase error packed first second timer0 timer1) :
    ∃ cells, init checks packed first second = .ok cells ∧ cells.packed = timer1 ∧
      cells.calibration.MeasuredBetween first second timer0 timer1 ∧
      ∀ tsfUs ∈ first.tsfUs, cells.tsf.tsfAnchorUs = tsfUs.toInt ∧
        cells.tsf.usPerTickTsfQ32 = BitVec.ofNat 64 (2 ^ 32 / 80) := by
  have forward := sampled.forward
  have window := sampled.window
  have range := sampled.range
  have waited := sampled.waited
  obtain ⟨behind, recent⟩ := sampled.start
  have cap0 : newPacked packed first.raw = timer0 := by
    apply BitVec.eq_of_toNat_eq
    rw [sampled.firstRaw, newPacked_forward timer0 behind]
    omega
  have cap1 : newPacked timer0 second.raw = timer1 := by
    apply BitVec.eq_of_toNat_eq
    rw [sampled.secondRaw, newPacked_forward timer1 (by omega)]
    omega
  have target : calibrationTarget checks first = .ok (first.instantUs.toNat + 4000000) :=
    checks.unsigned_ok (by omega)
  have anchor : first.instantUs.toInt = first.instantUs.toNat :=
    BitVec.toInt_eq_toNat_of_lt (by omega)
  unfold init
  rw [target, ok_bind, cap0, cap1]
  refine ⟨_, rfl, rfl, ⟨rfl, anchor, rfl⟩, fun tsfUs read => ?_⟩
  rw [Option.mem_def.mp read]
  exact ⟨rfl, rfl⟩

/-- The differences of the two readings are exact. -/
theorem Sampled.differences (sampled : Sampled phase error packed first second timer0 timer1) :
    (second.instantUs - first.instantUs).toNat =
        second.instantUs.toNat - first.instantUs.toNat ∧
      (timer1 - timer0).toNat = timer1.toNat - timer0.toNat := by
  have waited := sampled.waited
  have forward := sampled.forward
  constructor
  · rw [BitVec.toNat_sub]
    omega
  · rw [BitVec.toNat_sub]
    omega

/-- The measured rate is the quotient of the differences. -/
theorem Sampled.measuredRateQ32_toNat
    (sampled : Sampled phase error packed first second timer0 timer1) :
    (measuredRateQ32 (second.instantUs - first.instantUs) (timer1 - timer0)).toNat =
      (second.instantUs.toNat - first.instantUs.toNat) * 2 ^ 32 /
        (timer1.toNat - timer0.toNat) := by
  have forward := sampled.forward
  have elapsed := sampled.elapsed
  have small := sampled.small
  have differences := sampled.differences
  have nonzero : timer1 - timer0 ≠ 0 := by
    intro zero
    have none := differences.2
    rw [zero] at none
    change 0 = _ at none
    omega
  have range : (second.instantUs.toNat - first.instantUs.toNat) * 2 ^ 32 /
      (timer1.toNat - timer0.toNat) ≤ 2 ^ 32 :=
    Nat.div_le_of_le_mul (by omega)
  unfold measuredRateQ32
  rw [if_neg nonzero, BitVec.toNat_ofNat, differences.1, differences.2, Nat.mod_eq_of_lt (by omega)]

/-- **The measured rate.** It is off by both errors over the ticks between the readings, and by
what is cut off of its fraction. -/
theorem Sampled.slope (sampled : Sampled phase error packed first second timer0 timer1) :
    |80 * (((measuredRateQ32 (second.instantUs - first.instantUs) (timer1 - timer0)).toNat : ℚ) /
      2 ^ 32) - 1| ≤ rateError error timer0 timer1 := by
  have forward := sampled.forward
  have waited := sampled.waited
  have order : (timer0.toNat : ℚ) < timer1.toNat := by
    exact_mod_cast show timer0.toNat < timer1.toNat by omega
  have measured := sampled.firstReads.slope sampled.secondReads order
  refine slope_shift measured (by norm_num) ?_
  rw [sampled.measuredRateQ32_toNat]
  have rounded := abs_natDiv_sub_le (K := ℚ)
    ((second.instantUs.toNat - first.instantUs.toNat) * 2 ^ 32) (timer1.toNat - timer0.toNat)
  rw [Nat.cast_mul, Nat.cast_sub (by omega), Nat.cast_sub (by omega)] at rounded
  generalize (((second.instantUs.toNat - first.instantUs.toNat) * 2 ^ 32 /
    (timer1.toNat - timer0.toNat) : Nat) : ℚ) = quotient at rounded ⊢
  generalize (second.instantUs.toNat : ℚ) - first.instantUs.toNat = waitedUs at rounded ⊢
  generalize (timer1.toNat : ℚ) - timer0.toNat = ticks at rounded ⊢
  have scaled : quotient / 2 ^ 32 - waitedUs / ticks =
      (quotient - waitedUs * 2 ^ 32 / ticks) / 2 ^ 32 := by ring
  rw [scaled, abs_div, abs_of_pos (show (0 : ℚ) < 2 ^ 32 by norm_num)]
  exact div_le_div_of_nonneg_right (by exact_mod_cast rounded) (by norm_num)

end Readings

/-! ## Conversion -/

/-- **What is converted.** A capture after the anchor is converted by a rate close to 80 ticks
a microsecond, off by the errors of the anchor and of rounding and by the drift for every
tick since. -/
theorem convertTicks_spec (checks : OverflowChecks) {phase error drift : ℚ}
    {reading capAnchorTicks usPerTickQ32 capTicks : U64} (range : reading.toNat < 2 ^ 63)
    (reads : ReadsAt 80 phase error (capAnchorTicks.toNat : ℚ) reading.toNat)
    (slope : |80 * ((usPerTickQ32.toNat : ℚ) / 2 ^ 32) - 1| ≤ drift) (small : drift ≤ 1)
    (after : capAnchorTicks.toNat ≤ capTicks.toNat) :
    ∃ us, convertTicks checks reading.toNat capAnchorTicks usPerTickQ32 capTicks =
        .ok (some us) ∧
      ReadsAt 80 phase (error + drift * ((capTicks.toNat : ℚ) - capAnchorTicks.toNat) + 80 * 1)
        capTicks.toNat us.toNat := by
  have rate : usPerTickQ32.toNat * 80 ≤ 2 ^ 33 := by
    have upper := (abs_le.mp slope).2
    have scaled : (usPerTickQ32.toNat : ℚ) * 80 ≤ 2 ^ 33 := by
      linarith only [upper, small]
    exact_mod_cast scaled
  have ticksRange := capTicks.isLt
  have dTicks : (capTicks - capAnchorTicks).toNat = capTicks.toNat - capAnchorTicks.toNat := by
    rw [BitVec.toNat_sub]
    omega
  have scaledRange : (capTicks.toNat - capAnchorTicks.toNat) * usPerTickQ32.toNat ≤
      2 ^ 64 * (2 ^ 33 / 80) := Nat.mul_le_mul (by omega) (by omega)
  have us_lt : reading.toNat +
      (capTicks.toNat - capAnchorTicks.toNat) * usPerTickQ32.toNat / 2 ^ 32 < 2 ^ 64 := by omega
  have converted : convertTicks checks reading.toNat capAnchorTicks usPerTickQ32 capTicks =
      .ok (some (BitVec.ofNat 64 (reading.toNat +
        (capTicks.toNat - capAnchorTicks.toNat) * usPerTickQ32.toNat / 2 ^ 32))) := by
    unfold convertTicks
    rw [if_neg (by omega)]
    dsimp only
    rw [dTicks, ← Int.natCast_mul]
    generalize (capTicks.toNat - capAnchorTicks.toNat) * usPerTickQ32.toNat = scaled
      at scaledRange us_lt ⊢
    have value : (reading.toNat : Int) + (scaled : Int) / 2 ^ 32 =
        ((reading.toNat + scaled / 2 ^ 32 : Nat) : Int) := by norm_num
    rw [checks.i128_ok ⟨by omega, by omega⟩, ok_bind, value, checks.i128_ok ⟨by omega, by omega⟩,
      ok_bind, if_neg (by omega), BitVec.ofInt_natCast]
  refine ⟨_, converted, ?_⟩
  rw [BitVec.toNat_ofNat, Nat.mod_eq_of_lt us_lt]
  have exact_reading := reads.extrapolate slope (show (capAnchorTicks.toNat : ℚ) ≤ capTicks.toNat by
    exact_mod_cast after)
  refine exact_reading.shift (by norm_num) ?_
  have rounded := abs_natDiv_sub_le (K := ℚ)
    ((capTicks.toNat - capAnchorTicks.toNat) * usPerTickQ32.toNat) (2 ^ 32)
  rw [Nat.cast_add]
  rw [Nat.cast_mul, Nat.cast_sub after] at rounded
  generalize (((capTicks.toNat - capAnchorTicks.toNat) * usPerTickQ32.toNat / 2 ^ 32 : Nat) : ℚ) =
    quotient at rounded ⊢
  have same : (reading.toNat : ℚ) + quotient - (reading.toNat + usPerTickQ32.toNat / 2 ^ 32 *
      (capTicks.toNat - capAnchorTicks.toNat)) = quotient -
        (capTicks.toNat - capAnchorTicks.toNat) * usPerTickQ32.toNat / ((2 ^ 32 : Nat) : ℚ) := by
    push_cast
    ring
  rw [same]
  exact rounded

/-- With clocks read to a microsecond, the rate is off by half a part in a million. -/
theorem Sampled.rateError_le {phase : ℚ} {error : Nat} {packed : U64} {first second : ClockReading}
    {timer0 timer1 : U64} (sampled : Sampled phase error packed first second timer0 timer1)
    (sharp : error ≤ 80) :
    rateError error timer0 timer1 ≤ 2 * 80 / 319999840 + 80 * (1 / 2 ^ 32) := by
  have forward : (319999840 : ℚ) ≤ timer1.toNat - timer0.toNat := by
    have waited := sampled.waited
    have order := sampled.elapsed
    have cast : (timer0.toNat : ℚ) + 319999840 ≤ timer1.toNat := by
      exact_mod_cast show timer0.toNat + 319999840 ≤ timer1.toNat by omega
    linarith only [cast]
  have small : (error : ℚ) ≤ 80 := by exact_mod_cast sharp
  have quotient : 2 * (error : ℚ) / ((timer1.toNat : ℚ) - timer0.toNat) ≤ 2 * 80 / 319999840 :=
    div_le_div₀ (by norm_num) (by linarith only [small]) (by norm_num) forward
  unfold rateError
  linarith only [quotient]

/-- **The conversions of the rig.** `init` succeeds on all readings that fit its timer, and what
is converted of later captures is off by the drift of the measured rate and two roundings: by
less than 34 µs in the first minute for a clock read to the microsecond. The TSF drifts by
the cut of its rate alone. -/
theorem conversions_accurate (checks : OverflowChecks) {phase : ℚ} {error : Nat} {packed : U64}
    {first second : ClockReading} {timer0 timer1 : U64}
    (sampled : Sampled phase error packed first second timer0 timer1) :
    ∃ cells, init checks packed first second = .ok cells ∧
      (∀ capTicks : U64, timer0.toNat ≤ capTicks.toNat →
        ∃ us, capTicksToInstantUs checks cells capTicks = .ok (some us) ∧
          ReadsAt 80 phase (error + rateError error timer0 timer1 *
            ((capTicks.toNat : ℚ) - timer0.toNat) + 80 * 1) capTicks.toNat us.toNat ∧
          (error ≤ 80 → capTicks.toNat ≤ timer0.toNat + 60 * 80000000 →
            ReadsAt 80 phase (80 * 34) (capTicks.toNat : ℚ) us.toNat)) ∧
      (∀ tsfUs ∈ first.tsfUs, tsfUs.toNat < 2 ^ 63 → ∀ tsfPhase tsfError : ℚ,
        ReadsAt 80 tsfPhase tsfError (timer0.toNat : ℚ) tsfUs.toNat →
        ∀ capTicks : U64, timer0.toNat ≤ capTicks.toNat →
          ∃ us, capTicksToMacTsfUs checks cells capTicks = .ok (some us) ∧
            ReadsAt 80 tsfPhase (tsfError + 16 / 2 ^ 32 *
              ((capTicks.toNat : ℚ) - timer0.toNat) + 80 * 1) capTicks.toNat us.toNat) := by
  obtain ⟨cells, initialised, _, measured, tsf⟩ := init_eq checks sampled
  have waited := sampled.waited
  have range := sampled.range
  have drift := sampled.rateError_lt
  refine ⟨cells, initialised, fun capTicks after => ?_, fun tsfUs read tsfRange tsfPhase tsfError
    reads capTicks after => ?_⟩
  · have slope := sampled.slope
    obtain ⟨us, converted, near⟩ := convertTicks_spec checks (show first.instantUs.toNat < 2 ^ 63 by
      omega) sampled.firstReads slope (by linarith only [drift]) after
    refine ⟨us, ?_, near, fun sharp minute => ?_⟩
    · unfold capTicksToInstantUs
      rw [measured.cap, measured.instant, measured.rate]
      exact converted
    · have elapsed : (0 : ℚ) ≤ capTicks.toNat - timer0.toNat :=
        sub_nonneg.mpr (by exact_mod_cast after)
      have within : (capTicks.toNat : ℚ) - timer0.toNat ≤ 60 * 80000000 := by
        have cast : (capTicks.toNat : ℚ) ≤ timer0.toNat + 60 * 80000000 := by exact_mod_cast minute
        linarith only [cast]
      have drifted : rateError error timer0 timer1 * ((capTicks.toNat : ℚ) - timer0.toNat) ≤
          (2 * 80 / 319999840 + 80 * (1 / 2 ^ 32)) * (60 * 80000000) :=
        mul_le_mul (sampled.rateError_le sharp) within elapsed (by norm_num)
      have small : (error : ℚ) ≤ 80 := by exact_mod_cast sharp
      norm_num at drifted
      unfold ReadsAt at near ⊢
      linarith only [near, drifted, small]
  · have slope : |80 * (((BitVec.ofNat 64 (2 ^ 32 / 80)).toNat : ℚ) / 2 ^ 32) - 1| ≤
        (16 : ℚ) / 2 ^ 32 := by
      have value : (BitVec.ofNat 64 (2 ^ 32 / 80)).toNat = 53687091 := rfl
      rw [value]
      norm_num [abs_le]
    obtain ⟨us, converted, near⟩ := convertTicks_spec checks tsfRange reads slope
      (by norm_num) after
    refine ⟨us, ?_, near⟩
    obtain ⟨tsfAnchor, tsfRate⟩ := tsf tsfUs read
    unfold capTicksToMacTsfUs
    rw [measured.cap, tsfAnchor, tsfRate, BitVec.toInt_eq_toNat_of_lt (by omega)]
    exact converted

/-! ## Prediction -/

/-- A year, in microseconds. -/
def yearUs : Nat := 31536000000000

/-- The measured rate is positive. -/
theorem Sampled.rate_pos {phase : ℚ} {error : Nat} {packed : U64} {first second : ClockReading}
    {timer0 timer1 : U64} (sampled : Sampled phase error packed first second timer0 timer1) :
    0 < (measuredRateQ32 (second.instantUs - first.instantUs) (timer1 - timer0)).toNat := by
  have lower := (abs_le.mp sampled.slope).1
  have small := sampled.rateError_lt
  have positive : (0 : ℚ) <
      (measuredRateQ32 (second.instantUs - first.instantUs) (timer1 - timer0)).toNat := by
    linarith only [lower, small]
  exact_mod_cast positive

/-- So the calibration is complete. -/
theorem Sampled.completed {phase : ℚ} {error : Nat} {packed : U64} {first second : ClockReading}
    {timer0 timer1 : U64} (sampled : Sampled phase error packed first second timer0 timer1)
    {calibration : Calibration} (measured : calibration.MeasuredBetween first second timer0 timer1) :
    calibration.Completed := by
  constructor
  · rw [measured.instant]
    omega
  · intro zero
    have positive := sampled.rate_pos
    rw [← measured.rate, zero] at positive
    exact absurd positive (by decide)

/-- **Edges of the first year.** With clocks read to a microsecond, the timer predicted from a
reading of the clock in the first year is within half a wrap of every edge latched not more
than five seconds before it. -/
theorem Sampled.prediction_near {phase : ℚ} {error : Nat} {packed : U64}
    {first second : ClockReading} {timer0 timer1 : U64}
    (sampled : Sampled phase error packed first second timer0 timer1) (sharp : error ≤ 80)
    {calibration : Calibration} (measured : calibration.MeasuredBetween first second timer0 timer1)
    (anchored : first.instantUs.toNat ≤ yearUs) {nowUs timer : U64} (early : nowUs.toNat ≤ yearUs)
    (reads : ReadsAt 80 phase (5 * 80000000) (timer.toNat : ℚ) nowUs.toNat) :
    |calibration.prediction nowUs - timer.toNat| < 2 ^ 31 := by
  have year : yearUs = 31536000000000 := rfl
  have slope := sampled.slope
  have small := sampled.rateError_lt
  have drift := sampled.rateError_le sharp
  have rate := sampled.rate_pos
  have predicted := sampled.firstReads.predict reads slope (by linarith only [small]) (by norm_num)
  have span : |(80 : ℚ) * ((nowUs.toNat : ℚ) - first.instantUs.toNat)| ≤ 80 * 31536000000000 := by
    have nowCast : (nowUs.toNat : ℚ) ≤ 31536000000000 := by exact_mod_cast early
    have firstCast : (first.instantUs.toNat : ℚ) ≤ 31536000000000 := by exact_mod_cast anchored
    have nowLeast : (0 : ℚ) ≤ nowUs.toNat := Nat.cast_nonneg _
    have firstLeast : (0 : ℚ) ≤ first.instantUs.toNat := Nat.cast_nonneg _
    exact abs_le.mpr ⟨by linarith only [firstCast, nowLeast], by linarith only [nowCast, firstLeast]⟩
  have quotient : rateError error timer0 timer1 / (1 - rateError error timer0 timer1) ≤
      (2 * 80 / 319999840 + 80 * (1 / 2 ^ 32)) / (1 - 1 / 100) :=
    div_le_div₀ (by norm_num) drift (by norm_num) (by linarith only [small])
  have drifted : rateError error timer0 timer1 / (1 - rateError error timer0 timer1) *
      |(80 : ℚ) * ((nowUs.toNat : ℚ) - first.instantUs.toNat)| ≤
        (2 * 80 / 319999840 + 80 * (1 / 2 ^ 32)) / (1 - 1 / 100) * (80 * 31536000000000) :=
    mul_le_mul quotient span (abs_nonneg _) (by norm_num)
  have errorCast : (error : ℚ) ≤ 80 := by exact_mod_cast sharp
  -- the truncated quotient of the code is within one of the one over the rationals
  have truncated : |((calibration.prediction nowUs : Int) : ℚ) -
      (timer0.toNat + ((nowUs.toNat : ℚ) - first.instantUs.toNat) /
        (((measuredRateQ32 (second.instantUs - first.instantUs) (timer1 - timer0)).toNat : ℚ) /
          2 ^ 32))| ≤ 1 := by
    unfold Calibration.prediction
    rw [measured.cap, measured.instant, measured.rate]
    generalize (measuredRateQ32 (second.instantUs - first.instantUs) (timer1 - timer0)).toNat =
      q at rate ⊢
    have divisor : (0 : Int) < q := by exact_mod_cast rate
    have whole : |(((nowUs.toNat - first.instantUs.toNat : Int) * 2 ^ 32 : Int) : ℚ) -
        (((nowUs.toNat - first.instantUs.toNat : Int) * 2 ^ 32 : Int) : ℚ) / ((q : Int) : ℚ) *
          ((q : Int) : ℚ)| ≤ 0 := by
      rw [div_mul_cancel₀ _ (by exact_mod_cast rate.ne'), sub_self, abs_zero]
    have rounded := abs_tdiv_sub_le divisor whole
    rw [zero_div, zero_add] at rounded
    have same : ((timer0.toNat : Int) +
        ((nowUs.toNat - first.instantUs.toNat : Int) * 2 ^ 32).tdiv q : Int) -
        ((timer0.toNat : ℚ) + ((nowUs.toNat : ℚ) - first.instantUs.toNat) / ((q : ℚ) / 2 ^ 32)) =
      ((((nowUs.toNat - first.instantUs.toNat : Int) * 2 ^ 32).tdiv q : Int) : ℚ) -
        (((nowUs.toNat - first.instantUs.toNat : Int) * 2 ^ 32 : Int) : ℚ) / ((q : Int) : ℚ) := by
      push_cast
      field_simp
      ring
    rw [same]
    exact rounded
  have total := abs_sub_le ((calibration.prediction nowUs : Int) : ℚ)
    (timer0.toNat + ((nowUs.toNat : ℚ) - first.instantUs.toNat) /
        (((measuredRateQ32 (second.instantUs - first.instantUs) (timer1 - timer0)).toNat : ℚ) /
          2 ^ 32)) timer.toNat
  have room : (2 * 80 / 319999840 + 80 * (1 / 2 ^ 32)) / (1 - 1 / 100) * (80 * 31536000000000) +
      5 * 80000000 + 81 < (2 : ℚ) ^ 31 := by norm_num
  have bound : |((calibration.prediction nowUs : Int) : ℚ) - timer.toNat| < 2 ^ 31 := by
    linarith only [total, truncated, predicted, drifted, errorCast, room]
  exact_mod_cast bound

/-- Such an edge is far from the end of the 64-bit range. -/
theorem Sampled.timer_lt {phase : ℚ} {error : Nat} {first second : ClockReading}
    {timer0 timer1 : U64} (sampled : Sampled phase error 0 first second timer0 timer1)
    (sharp : error ≤ 80) {nowUs timer : U64} (early : nowUs.toNat ≤ yearUs)
    (reads : ReadsAt 80 phase (5 * 80000000) (timer.toNat : ℚ) nowUs.toNat) :
    timer.toNat < 2 ^ 63 := by
  have start : (timer0.toNat : ℚ) ≤ 2 ^ 32 := by
    have range := sampled.start.2
    rw [show (0 : U64).toNat = 0 from rfl] at range
    exact_mod_cast show timer0.toNat ≤ 2 ^ 32 by omega
  have lower := (abs_le.mp sampled.firstReads).2
  have upper := (abs_le.mp reads).1
  have errorCast : (error : ℚ) ≤ 80 := by exact_mod_cast sharp
  have now : (nowUs.toNat : ℚ) ≤ 31536000000000 := by exact_mod_cast early
  have firstLeast : (0 : ℚ) ≤ first.instantUs.toNat := Nat.cast_nonneg _
  have room : (2 : ℚ) ^ 32 + 80 * 31536000000000 + 5 * 80000000 + 80 < 2 ^ 63 := by norm_num
  have bound : (timer.toNat : ℚ) < 2 ^ 63 := by
    linarith only [start, lower, upper, errorCast, now, firstLeast, room]
  exact_mod_cast bound

/-- **An edge of the first year is recovered.** -/
theorem Sampled.unwrapCapRaw_eq (checks : OverflowChecks) {phase : ℚ} {error : Nat}
    {first second : ClockReading} {timer0 timer1 : U64}
    (sampled : Sampled phase error 0 first second timer0 timer1) (sharp : error ≤ 80)
    {calibration : Calibration} (measured : calibration.MeasuredBetween first second timer0 timer1)
    (anchored : first.instantUs.toNat ≤ yearUs) {nowUs timer : U64} (early : nowUs.toNat ≤ yearUs)
    (reads : ReadsAt 80 phase (5 * 80000000) (timer.toNat : ℚ) nowUs.toNat) :
    unwrapCapRaw checks calibration nowUs (rawOf timer) = .ok timer := by
  have near := sampled.prediction_near sharp measured anchored early reads
  have range := sampled.timer_lt sharp early reads
  have inside : calibration.prediction nowUs < 2 ^ 64 := by
    have distance := abs_lt.mp near
    omega
  rw [unwrapCapRaw_of_near checks (sampled.completed measured) near, if_pos inside]

/-- Two readings of a clock that is 2000 µs ahead of the timer. -/
theorem sampled_boot (tsfUs : Option U64) :
    Sampled 159995 80 0 ⟨5, 2000, tsfUs⟩ ⟨320000005, 4002000, none⟩ 5 320000005 where
  firstRaw := rfl
  secondRaw := rfl
  start := by decide
  window := by decide
  firstReads := by
    change |(80 : ℚ) * ((2000 : Nat) : ℚ) - (((5 : Nat) : ℚ) + 159995)| ≤ ((80 : Nat) : ℚ)
    norm_num
  secondReads := by
    change |(80 : ℚ) * ((4002000 : Nat) : ℚ) - (((320000005 : Nat) : ℚ) + 159995)| ≤
      ((80 : Nat) : ℚ)
    norm_num
  waited := show 2000 + 4000000 ≤ 4002000 by decide
  range := by decide
  small := by decide

/-- An edge a minute after them. -/
theorem conversions_accurate_minute :
    ∃ cells, init .enabled 0 ⟨5, 2000, some 7000⟩ ⟨320000005, 4002000, none⟩ = .ok cells ∧
      ∃ us, capTicksToInstantUs .enabled cells 4800000005 = .ok (some us) ∧
        ReadsAt (80 : ℚ) 159995 (80 * 34) ((4800000005 : U64).toNat : ℚ) us.toNat := by
  obtain ⟨cells, initialised, instants, _⟩ := conversions_accurate .enabled (sampled_boot (some 7000))
  obtain ⟨us, converted, _, near⟩ := instants 4800000005 (by decide)
  exact ⟨cells, initialised, us, converted, near (by decide) (by decide)⟩

end McpwmCap

end EspClockSync
