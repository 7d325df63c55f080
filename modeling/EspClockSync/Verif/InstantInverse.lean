import EspClockSync.Verif.ClientSteps
import EspClockSync.Verif.FilterSteps

/-!
# From AP time back to the device's uptime

The instant filter tracks the offset between AP time and uptime along a line. Going
forward adds the offset at the uptime; going back iterates twice from the AP time
itself, and ends off by the drift of the line over its own drift across the distance
between the two clocks. For crystals that distance decides: near enough the error
stays under two microseconds, far enough it does not.
-/

namespace EspClockSync

open Machine

namespace AlphaBetaFilter

variable (f : AlphaBetaFilter)

/-- The tracked line in whole microseconds, within the range of the fixed-point state. -/
def trackedLine (xUs : Int) : Int :=
  max (-2 ^ 107) (min ((f.offsetQ * 2 ^ 12 + f.rateQ * (xUs - f.lastXUs)) / 2 ^ 32) (2 ^ 107 - 1))

/-- How far the line moves from `xUs` over a span. -/
def drift (xUs spanUs : Int) : Int := f.trackedLine (xUs + spanUs) - f.trackedLine xUs

/-- What the line stands above a whole microsecond at `xUs`, in units of `2 ^ -32`. -/
def phase (xUs : Int) : Int :=
  (f.offsetQ * 2 ^ 12 + f.rateQ * (xUs - f.lastXUs)) % 2 ^ 32

/-- The distance between two clocks is short for the rate and the phase of the line. -/
def Short (xUs spanUs : Int) : Prop :=
  -2 * 2 ^ 32 ≤ f.phase xUs - f.rateQ * ((f.phase xUs + f.rateQ * spanUs) / 2 ^ 32) ∧
    f.phase xUs - f.rateQ * ((f.phase xUs + f.rateQ * spanUs) / 2 ^ 32) < 3 * 2 ^ 32

/-- A rate of at most 50 ppm: the exact value of which `rate_ppb` is the `i64`. -/
def CrystalRate : Prop :=
  -50000 ≤ f.rateQ * 1000000000 / 2 ^ 32 ∧ f.rateQ * 1000000000 / 2 ^ 32 ≤ 50000

variable {f} {checks : OverflowChecks}

/-- A crystal's rate in the fixed point of the filter. -/
theorem CrystalRate.rateQ (crystal : f.CrystalRate) : -214749 ≤ f.rateQ ∧ f.rateQ ≤ 214753 := by
  obtain ⟨lower, upper⟩ := crystal
  omega

/-- In range the extrapolation is the line. -/
theorem predictedQ_eq (crystal : f.CrystalRate) (last : I64Fits f.lastXUs) {xUs : Int}
    (x : I64Fits xUs) : f.predictedQ (xUs - f.lastXUs) / 2 ^ 20 = f.trackedLine xUs := by
  obtain ⟨rateLower, rateUpper⟩ := crystal.rateQ
  obtain ⟨lastLower, lastUpper⟩ := last
  obtain ⟨xLower, xUpper⟩ := x
  have product : I128Fits (f.rateQ * (xUs - f.lastXUs)) := by
    have magnitude : |f.rateQ * (xUs - f.lastXUs)| ≤ 2 ^ 18 * 2 ^ 64 := by
      rw [abs_mul]
      exact mul_le_mul (abs_le.mpr ⟨by omega, by omega⟩) (abs_le.mpr ⟨by omega, by omega⟩)
        (abs_nonneg _) (by decide)
    obtain ⟨lower, upper⟩ := abs_le.mp magnitude
    constructor
    · omega
    · omega
  have merged : (f.offsetQ * 2 ^ 12 + f.rateQ * (xUs - f.lastXUs)) / 2 ^ 32 =
      (f.offsetQ + f.rateQ * (xUs - f.lastXUs) / 2 ^ 12) / 2 ^ 20 := by omega
  unfold predictedQ trackedLine
  rw [saturateI128_of_fits product, merged]
  unfold saturateI128
  omega

/-- In range the prediction is the line, cast to an `i64`. -/
theorem predict_eq (running : f.initialized = true) (crystal : f.CrystalRate)
    (last : I64Fits f.lastXUs) {xUs : Int} (x : I64Fits xUs) :
    f.predict xUs = some (wrapI64 (f.trackedLine xUs)) := by
  unfold predict
  rw [if_neg (by simp [running]), predictedQ_eq crystal last x]

/-- Up to a rate of `2 ^ 32`, `rate_ppb` answers the exact rate in every build. -/
theorem ratePpb_eq (bounded : |f.rateQ| ≤ 2 ^ 64) (checks : OverflowChecks) :
    f.ratePpb checks = .ok (f.rateQ * 1000000000 / 2 ^ 32) := by
  obtain ⟨lower, upper⟩ := abs_le.mp bounded
  have scaled : I128Fits (f.rateQ * 1000000000) := by
    constructor
    · omega
    · omega
  unfold ratePpb
  rw [checks.i128_ok scaled, ok_bind, wrapI64_of_fits ⟨by omega, by omega⟩]

/-- A filter of the client that has observed fewer than `2 ^ 33` beacons, 27 years of
them, stands at a crystal's rate exactly when `rate_ppb` says so. -/
theorem crystalRate_iff {observations : List (Int × Int)}
    (fits : ∀ o ∈ observations, I64Fits o.1) (few : observations.length < 2 ^ 33)
    (observed : AlphaBetaFilter.observeAll checks (AlphaBetaFilter.new 16 2048) observations =
      .ok f) :
    f.CrystalRate ↔ ∃ rate, f.ratePpb checks = .ok rate ∧ |rate| ≤ 50000 := by
  have grown := (rateQ_le_of_observeAll fits (by decide) observed).1
  have gain : maxInnovationQ * 2 ^ 12 / ((AlphaBetaFilter.new 16 2048).beta.toNat : Int) =
      2097152000 := by decide
  have start : |(AlphaBetaFilter.new 16 2048).rateQ| = 0 := by decide
  rw [gain, start] at grown
  have answer := f.ratePpb_eq (by omega) checks
  constructor
  · rintro ⟨lower, upper⟩
    exact ⟨_, answer, abs_le.mpr ⟨lower, upper⟩⟩
  · rintro ⟨rate, answered, crystal⟩
    obtain rfl := Except.ok.inj (answer.symm.trans answered)
    obtain ⟨lower, upper⟩ := abs_le.mp crystal
    exact ⟨lower, upper⟩

/-- Between two points the line moves by the rate over the span, rounded either way. -/
theorem drift_between (xUs spanUs : Int) :
    min 0 (f.rateQ * spanUs / 2 ^ 32) ≤ f.drift xUs spanUs ∧
      f.drift xUs spanUs ≤ max 0 ((f.rateQ * spanUs + (2 ^ 32 - 1)) / 2 ^ 32) := by
  have split : f.rateQ * (xUs + spanUs - f.lastXUs) =
      f.rateQ * (xUs - f.lastXUs) + f.rateQ * spanUs := by ring
  unfold drift trackedLine
  rw [split]
  constructor
  · omega
  · omega

/-- A line that does not fall never drifts down. -/
theorem drift_nonneg (xUs : Int) {spanUs : Int} (rising : 0 ≤ f.rateQ * spanUs) :
    0 ≤ f.drift xUs spanUs := by
  have between := (f.drift_between xUs spanUs).1
  omega

/-- A line that does not rise never drifts up. -/
theorem drift_nonpos (xUs : Int) {spanUs : Int} (falling : f.rateQ * spanUs ≤ 0) :
    f.drift xUs spanUs ≤ 0 := by
  have split : f.rateQ * (xUs + spanUs - f.lastXUs) =
      f.rateQ * (xUs - f.lastXUs) + f.rateQ * spanUs := by ring
  unfold drift trackedLine
  rw [split]
  omega

/-- A crystal's rate times a span is small against the span. -/
theorem rate_mul_between (crystal : f.CrystalRate) (spanUs : Int) :
    |f.rateQ * spanUs| ≤ 214753 * |spanUs| := by
  obtain ⟨lower, upper⟩ := crystal.rateQ
  rw [abs_mul]
  exact mul_le_mul_of_nonneg_right (abs_le.mpr ⟨by omega, upper⟩) (abs_nonneg _)

/-- At a crystal's rate the line drifts by no more than the span. -/
theorem abs_drift_le (crystal : f.CrystalRate) (xUs spanUs : Int) :
    |f.drift xUs spanUs| ≤ |spanUs| := by
  have product := abs_le.mp (rate_mul_between crystal spanUs)
  have between := f.drift_between xUs spanUs
  have size := abs_nonneg spanUs
  by_cases rising : 0 < f.rateQ * spanUs
  · exact abs_le.mpr ⟨by omega, by omega⟩
  · have falling := drift_nonpos (f := f) xUs (Int.not_lt.mp rising)
    exact abs_le.mpr ⟨by omega, by omega⟩

/-- In units of `2 ^ -32` the drift is less than one microsecond from the rate over the span. -/
theorem abs_drift_lt (xUs spanUs : Int) :
    2 ^ 32 * |f.drift xUs spanUs| < |f.rateQ| * |spanUs| + 2 ^ 32 := by
  have between := f.drift_between xUs spanUs
  rw [← abs_mul]
  have product := abs_le.mp (le_refl |f.rateQ * spanUs|)
  have size : |f.drift xUs spanUs| ≤ (|f.rateQ * spanUs| + (2 ^ 32 - 1)) / 2 ^ 32 :=
    abs_le.mpr ⟨by omega, by omega⟩
  omega

/-- Near enough in time and slow enough, the drift over a drift stays under three. -/
theorem abs_drift_drift_lt {xUs spanUs : Int}
    (near : f.rateQ ^ 2 * |spanUs| + |f.rateQ| * 2 ^ 32 ≤ 2 ^ 65) :
    |f.drift xUs (-f.drift xUs spanUs)| ≤ 2 := by
  have first := abs_drift_lt (f := f) xUs spanUs
  have second := abs_drift_lt (f := f) xUs (-f.drift xUs spanUs)
  rw [abs_neg] at second
  have scaled : |f.rateQ| * (2 ^ 32 * |f.drift xUs spanUs|) ≤
      |f.rateQ| * (|f.rateQ| * |spanUs| + 2 ^ 32) :=
    mul_le_mul_of_nonneg_left first.le (abs_nonneg _)
  have square : |f.rateQ| * (|f.rateQ| * |spanUs| + 2 ^ 32) =
      f.rateQ ^ 2 * |spanUs| + |f.rateQ| * 2 ^ 32 := by
    rw [← sq_abs f.rateQ]
    ring
  rw [square, mul_left_comm] at scaled
  omega

/-- The drift over the opposite of a drift never points away from the span. -/
theorem drift_neg_drift_le (crystal : f.CrystalRate) (xUs spanUs : Int) :
    f.drift xUs (-f.drift xUs spanUs) ≤ max 0 (-spanUs) := by
  by_cases forward : 0 ≤ spanUs
  · -- Going forward, the line rises exactly when its rate is positive, and falls back over its rise.
    have opposite : f.rateQ * -f.drift xUs spanUs ≤ 0 := by
      by_cases rising : 0 ≤ f.rateQ
      · have up := drift_nonneg (f := f) xUs (mul_nonneg rising forward)
        nlinarith
      · have down := drift_nonpos (f := f) xUs
          (mul_nonpos_of_nonpos_of_nonneg (Int.not_le.mp rising).le forward)
        nlinarith
    have back := drift_nonpos (f := f) xUs opposite
    omega
  · have first := abs_drift_le crystal xUs spanUs
    have second := abs_le.mp (abs_drift_le crystal xUs (-f.drift xUs spanUs))
    rw [abs_neg] at second
    rw [abs_of_neg (Int.not_le.mp forward)] at first
    omega

/-- Between two clocks that the line itself holds apart, it is never cut off. -/
theorem drift_eq (crystal : f.CrystalRate) {xUs spanUs partUs : Int}
    (apart : wrapI64 (f.trackedLine xUs) = spanUs) (far : 2 ≤ |spanUs|) (near : |spanUs| < 2 ^ 53)
    (inside : |partUs| ≤ |spanUs|) :
    f.drift xUs partUs = (f.phase xUs + f.rateQ * partUs) / 2 ^ 32 := by
  have product := abs_le.mp (rate_mul_between crystal partUs)
  have split : f.offsetQ * 2 ^ 12 + f.rateQ * (xUs + partUs - f.lastXUs) =
      f.offsetQ * 2 ^ 12 + f.rateQ * (xUs - f.lastXUs) + f.rateQ * partUs := by ring
  have rounds := Int.bmod_def (f.trackedLine xUs) (2 ^ 64)
  unfold wrapI64 at apart
  rw [apart] at rounds
  unfold trackedLine at rounds
  unfold drift trackedLine phase
  rw [split]
  generalize f.offsetQ * 2 ^ 12 + f.rateQ * (xUs - f.lastXUs) = start at rounds ⊢
  rcases le_total 0 spanUs with forward | backward
  · rw [abs_of_nonneg forward] at far near inside
    omega
  · rw [abs_of_nonpos backward] at far near inside
    omega

/-- The drift over a drift stays under three exactly when the distance is short. -/
theorem abs_drift_drift_le_iff (crystal : f.CrystalRate) {xUs spanUs : Int}
    (apart : wrapI64 (f.trackedLine xUs) = spanUs) (near : |spanUs| < 2 ^ 53) :
    |f.drift xUs (-f.drift xUs spanUs)| ≤ 2 ↔ f.Short xUs spanUs := by
  by_cases far : 2 ≤ |spanUs|
  · have first := drift_eq crystal apart far near (le_refl _)
    have back : |-f.drift xUs spanUs| ≤ |spanUs| := by
      rw [abs_neg]
      exact abs_drift_le crystal xUs spanUs
    have second := drift_eq crystal apart far near back
    rw [second, first, mul_neg, ← sub_eq_add_neg, abs_le]
    unfold Short
    omega
  · -- Clocks a microsecond apart: nothing drifts further than that.
    have first := abs_drift_le crystal xUs spanUs
    have second := abs_drift_le crystal xUs (-f.drift xUs spanUs)
    rw [abs_neg] at second
    have phase : 0 ≤ f.phase xUs ∧ f.phase xUs < 2 ^ 32 := by
      unfold AlphaBetaFilter.phase
      omega
    have product := abs_le.mp (rate_mul_between crystal spanUs)
    have moved : |(f.phase xUs + f.rateQ * spanUs) / 2 ^ 32| ≤ 1 := abs_le.mpr ⟨by omega, by omega⟩
    have returned := abs_le.mp
      (rate_mul_between crystal ((f.phase xUs + f.rateQ * spanUs) / 2 ^ 32))
    apply iff_of_true
    · omega
    · exact ⟨by omega, by omega⟩

/-- Far enough in time and fast enough, the distance is not short, whatever the phase. -/
theorem not_short_of_far {xUs spanUs : Int}
    (far : 3 * 2 ^ 64 + |f.rateQ| * 2 ^ 32 ≤ f.rateQ ^ 2 * |spanUs|) : ¬ f.Short xUs spanUs := by
  rintro ⟨lower, upper⟩
  have phase : 0 ≤ f.phase xUs ∧ f.phase xUs < 2 ^ 32 := by
    unfold AlphaBetaFilter.phase
    omega
  set moved := (f.phase xUs + f.rateQ * spanUs) / 2 ^ 32 with movedDef
  have product := abs_le.mp (le_refl |f.rateQ * spanUs|)
  have size := abs_le.mp (le_refl |moved|)
  have reach : |f.rateQ| * |spanUs| ≤ 2 ^ 32 * |moved| + 2 ^ 32 := by
    rw [← abs_mul, abs_le']
    exact ⟨by omega, by omega⟩
  have scaled := mul_le_mul_of_nonneg_left reach (abs_nonneg f.rateQ)
  have square : |f.rateQ| * (|f.rateQ| * |spanUs|) = f.rateQ ^ 2 * |spanUs| := by
    rw [← sq_abs f.rateQ]
    ring
  have returned : |f.rateQ| * |moved| = |f.rateQ * moved| := (abs_mul _ _).symm
  have spread : |f.rateQ| * (2 ^ 32 * |moved| + 2 ^ 32) =
      2 ^ 32 * |f.rateQ * moved| + |f.rateQ| * 2 ^ 32 := by
    rw [← returned]
    ring
  rw [square, spread] at scaled
  rcases abs_cases (f.rateQ * moved) with ⟨same, _⟩ | ⟨same, _⟩
  · omega
  · omega

/-- One step back from an AP time lands off by the drift to where the offset was read. -/
theorem step_back {instantUs apTsfUs : Int} (nonneg : 0 ≤ instantUs) (small : instantUs < 2 ^ 53)
    (offset : apTsfUs = instantUs + wrapI64 (f.trackedLine instantUs)) (xUs : Int)
    (near : |f.drift instantUs (xUs - instantUs)| ≤ 2 ^ 53) :
    wrapI64 (apTsfUs - wrapI64 (f.trackedLine xUs)) =
      instantUs - f.drift instantUs (xUs - instantUs) := by
  have reach : instantUs + (xUs - instantUs) = xUs := by omega
  have fits : I64Fits (instantUs - f.drift instantUs (xUs - instantUs)) := by
    obtain ⟨lower, upper⟩ := abs_le.mp near
    constructor
    · omega
    · omega
  calc wrapI64 (apTsfUs - wrapI64 (f.trackedLine xUs))
      = wrapI64 (apTsfUs - f.trackedLine xUs) := wrapI64_sub_wrapI64 _ _
    _ = wrapI64 (instantUs - f.trackedLine xUs + wrapI64 (f.trackedLine instantUs)) := by
      congr 1
      omega
    _ = wrapI64 (instantUs - f.trackedLine xUs + f.trackedLine instantUs) :=
      wrapI64_add_wrapI64 _ _
    _ = wrapI64 (instantUs - f.drift instantUs (xUs - instantUs)) := by
      unfold drift
      rw [reach]
      congr 1
      omega
    _ = instantUs - f.drift instantUs (xUs - instantUs) := wrapI64_of_fits fits

end AlphaBetaFilter

namespace Client

variable {channel : Channel SnifferEvent} {client : Client channel}

/-- What going forward found: the filter runs, and the AP time is the uptime with the
line's offset, cast to an `i64`. -/
theorem instantToApTsf_inv {instantUs apTsfUs : U64}
    (crystal : client.apTsfMinusInstantFilter.CrystalRate)
    (last : I64Fits client.apTsfMinusInstantFilter.lastXUs) (small : instantUs.toNat < 2 ^ 53)
    (forward : client.instantToApTsf instantUs = some apTsfUs) :
    client.apTsfMinusInstantFilter.initialized = true ∧ (apTsfUs.toNat : Int) =
      instantUs.toNat + wrapI64 (client.apTsfMinusInstantFilter.trackedLine instantUs.toNat) := by
  have running : client.apTsfMinusInstantFilter.initialized = true := by
    by_contra fresh
    unfold instantToApTsf AlphaBetaFilter.predict at forward
    rw [if_pos (by simpa using fresh)] at forward
    contradiction
  have x : I64Fits (instantUs.toNat : Int) := by
    constructor
    · omega
    · omega
  refine ⟨running, ?_⟩
  unfold instantToApTsf at forward
  rw [toInt_of_lt instantUs (by omega), AlphaBetaFilter.predict_eq running crystal last x,
    Option.bind_eq_bind, Option.bind_some] at forward
  dsimp only at forward
  split at forward
  · contradiction
  · rename_i range
    rw [← Option.some.inj forward, BitVec.toNat_ofInt]
    omega

/-- **Where going back ends.** The second iterate is off by the drift of the line over
the opposite of its drift from the uptime to the AP time. -/
theorem apTsfToInstant_eq {instantUs apTsfUs : U64}
    (crystal : client.apTsfMinusInstantFilter.CrystalRate)
    (last : I64Fits client.apTsfMinusInstantFilter.lastXUs) (small : instantUs.toNat < 2 ^ 53)
    (apSmall : apTsfUs.toNat < 2 ^ 53)
    (forward : client.instantToApTsf instantUs = some apTsfUs) {error : Int}
    (same : error = client.apTsfMinusInstantFilter.drift instantUs.toNat
      (-client.apTsfMinusInstantFilter.drift instantUs.toNat (apTsfUs.toNat - instantUs.toNat))) :
    ∃ back : U64, client.apTsfToInstant apTsfUs = some back ∧
      (back.toNat : Int) = instantUs.toNat - error := by
  obtain ⟨running, offset⟩ := instantToApTsf_inv crystal last small forward
  set f := client.apTsfMinusInstantFilter
  set instant := (instantUs.toNat : Int) with instantDef
  set ap := (apTsfUs.toNat : Int) with apDef
  set toward := f.drift instant (ap - instant)
  have distance := abs_le.mp (AlphaBetaFilter.abs_drift_le crystal instant (ap - instant))
  have second := abs_le.mp (AlphaBetaFilter.abs_drift_le crystal instant (-toward))
  have span : |ap - instant| < 2 ^ 53 := abs_lt.mpr ⟨by omega, by omega⟩
  have spanBack : |-toward| ≤ |ap - instant| := by
    rw [abs_neg]
    exact AlphaBetaFilter.abs_drift_le crystal instant (ap - instant)
  have apFits : I64Fits ap := by
    constructor
    · omega
    · omega
  have firstFits : I64Fits (instant - toward) := by
    constructor
    · omega
    · omega
  have first := f.step_back (by omega) (by omega) offset ap
    (abs_le.mpr ⟨by omega, by omega⟩)
  have reach : instant - toward - instant = -toward := by omega
  have final := f.step_back (by omega) (by omega) offset (instant - toward) (by
      rw [reach]
      exact abs_le.mpr ⟨by omega, by omega⟩)
  rw [reach, ← same] at final
  -- The error never exceeds what the AP time lies below the uptime, so no cast refuses it.
  have sign : error ≤ max 0 (-(ap - instant)) := by
    rw [same]
    exact AlphaBetaFilter.drift_neg_drift_le crystal instant (ap - instant)
  have nonneg : 0 ≤ instant - error := by omega
  refine ⟨BitVec.ofInt 64 (instant - error), ?_, ?_⟩
  · unfold apTsfToInstant
    rw [toInt_of_lt apTsfUs (by omega)]
    change (f.predict ap >>= fun off1 => f.predict (wrapI64 (ap - off1)) >>= _) = _
    rw [AlphaBetaFilter.predict_eq running crystal last apFits, Option.bind_eq_bind,
      Option.bind_some, first, AlphaBetaFilter.predict_eq running crystal last firstFits,
      Option.bind_some]
    change (if wrapI64 (ap - _) < 0 then none else some (BitVec.ofInt 64 (wrapI64 (ap - _)))) = _
    rw [final, if_neg (by omega)]
  · rw [BitVec.toNat_ofInt, Int.emod_eq_of_lt nonneg (by omega)]
    omega

end Client

/-- **The inverse of the instant conversion.** For a filter that has observed machine
integers and stands at a crystal's rate, going back from an AP time recovers the
uptime to two microseconds exactly when the distance between the two clocks is short
for the rate and the phase of the filter. It is whenever the square of the rate times
the distance is small, and never when that is large; only between the two bounds the
phase decides. -/
theorem ap_tsf_to_instant_iff {channel : Channel SnifferEvent} (checks : OverflowChecks)
    (client : Client channel) (observations : List (Int × Int)) (instantUs apTsfUs : U64)
    (readings : ∀ o ∈ observations, I64Fits o.1 ∧ I64Fits o.2)
    (observed : AlphaBetaFilter.observeAll checks (AlphaBetaFilter.new 16 2048) observations =
      .ok client.apTsfMinusInstantFilter)
    (crystal : client.apTsfMinusInstantFilter.CrystalRate) (small : instantUs.toNat < 2 ^ 53)
    (apSmall : apTsfUs.toNat < 2 ^ 53)
    (forward : client.instantToApTsf instantUs = some apTsfUs) :
    ((∃ back : U64, client.apTsfToInstant apTsfUs = some back ∧
        |(back.toNat : Int) - instantUs.toNat| ≤ 2) ↔
      client.apTsfMinusInstantFilter.Short instantUs.toNat (apTsfUs.toNat - instantUs.toNat)) ∧
    (client.apTsfMinusInstantFilter.rateQ ^ 2 * |(apTsfUs.toNat : Int) - instantUs.toNat| +
        |client.apTsfMinusInstantFilter.rateQ| * 2 ^ 32 ≤ 2 ^ 65 →
      ∃ back : U64, client.apTsfToInstant apTsfUs = some back ∧
        |(back.toNat : Int) - instantUs.toNat| ≤ 2) ∧
    (3 * 2 ^ 64 + |client.apTsfMinusInstantFilter.rateQ| * 2 ^ 32 ≤
        client.apTsfMinusInstantFilter.rateQ ^ 2 * |(apTsfUs.toNat : Int) - instantUs.toNat| →
      ¬ ∃ back : U64, client.apTsfToInstant apTsfUs = some back ∧
        |(back.toNat : Int) - instantUs.toNat| ≤ 2) := by
  have last := AlphaBetaFilter.lastXUs_fits_of_observeAll (fun o member => (readings o member).1)
    (by decide) observed
  obtain ⟨back, returned, position⟩ :=
    Client.apTsfToInstant_eq crystal last small apSmall forward rfl
  obtain ⟨_, offset⟩ := Client.instantToApTsf_inv crystal last small forward
  have apart : wrapI64 (client.apTsfMinusInstantFilter.trackedLine instantUs.toNat) =
      apTsfUs.toNat - instantUs.toNat := by omega
  have near : |(apTsfUs.toNat : Int) - instantUs.toNat| < 2 ^ 53 :=
    abs_lt.mpr ⟨by omega, by omega⟩
  have exact_error : (∃ back : U64, client.apTsfToInstant apTsfUs = some back ∧
      |(back.toNat : Int) - instantUs.toNat| ≤ 2) ↔
      |client.apTsfMinusInstantFilter.drift instantUs.toNat
        (-client.apTsfMinusInstantFilter.drift instantUs.toNat
          (apTsfUs.toNat - instantUs.toNat))| ≤ 2 := by
    rw [returned]
    constructor
    · rintro ⟨other, same, close⟩
      rw [← Option.some.inj same, position] at close
      rwa [sub_sub_cancel_left, abs_neg] at close
    · intro close
      refine ⟨back, rfl, ?_⟩
      rwa [position, sub_sub_cancel_left, abs_neg]
  have short := exact_error.trans (AlphaBetaFilter.abs_drift_drift_le_iff crystal apart near)
  refine ⟨short, ?_, ?_⟩
  · exact fun close => exact_error.mpr (AlphaBetaFilter.abs_drift_drift_lt close)
  · exact fun far within => AlphaBetaFilter.not_short_of_far far (short.mp within)

/-- Two clocks a few milliseconds apart, at almost 50 ppm. -/
theorem ap_tsf_to_instant_iff_near :
    ∃ back : U64, { Client.boot (Channel.ofList SnifferEvent channelDepth) with
        apTsfMinusInstantFilter := ⟨true, 11486, 6356992000, 199995, 16, 2048⟩ }.apTsfToInstant
          26062 = some back ∧
      |(back.toNat : Int) - 20000| ≤ 2 :=
  (ap_tsf_to_instant_iff .enabled { Client.boot (Channel.ofList SnifferEvent channelDepth) with
      apTsfMinusInstantFilter := ⟨true, 11486, 6356992000, 199995, 16, 2048⟩ }
    [(1000, 6000), (11486, 8000)] 20000 26062
    (by decide) (by decide +kernel) ⟨by decide, by decide⟩ (by decide) (by decide)
    (by decide +kernel)).2.1 (by decide +kernel)

/-- Two beacons 10 ms apart leave the filter at 46 ppm. With the access point up for
twelve days, going back from the AP time of uptime 20000 ends 2384 µs late. -/
theorem ap_tsf_to_instant_far :
    ∃ client, (clientSystem .enabled (Channel.ofList SnifferEvent channelDepth)).run
        [.poll (some homeBssid),
          .receive (.ofBeacon homeBssid 1099511628776 1000 5000),
          .receive (.ofBeacon homeBssid 1099511641262 11486 15486)] = .ok client ∧
      client.apTsfMinusInstantFilter.ratePpb .enabled = .ok 46564 ∧
      client.instantToApTsf 20000 = some 1099511647838 ∧
      client.apTsfToInstant 1099511647838 = some 22384 ∧
      ¬ |(22384 : Int) - 20000| ≤ 2 := by
  obtain ⟨client, ran, seen⟩ := exists_of_map_eq_ok (show
    ((clientSystem .enabled (Channel.ofList SnifferEvent channelDepth)).run
      [.poll (some homeBssid),
        .receive (.ofBeacon homeBssid 1099511628776 1000 5000),
        .receive (.ofBeacon homeBssid 1099511641262 11486 15486)]).map (fun client =>
          (client.apTsfMinusInstantFilter.ratePpb .enabled, client.instantToApTsf 20000,
            client.apTsfToInstant 1099511647838)) =
      .ok (.ok 46564, some 1099511647838, some 22384) by decide +kernel)
  obtain ⟨rate, rest⟩ := Prod.mk.inj seen
  obtain ⟨forward, back⟩ := Prod.mk.inj rest
  exact ⟨client, ran, rate, forward, back, by decide⟩

end EspClockSync
