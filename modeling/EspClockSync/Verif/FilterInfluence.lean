import EspClockSync.Machine.Tracking
import EspClockSync.Verif.FilterSafety

/-!
# Influence of one observation

An observation moves the offset of the filter by the clamp over one gain at most, and its
rate by the clamp over the other gain and the time since the last observation. Two
extrapolations that start from different base points round down at different places, which
costs a microsecond each; nothing saturates within 2 ^ 20 observations.
-/

namespace EspClockSync

open Machine

namespace AlphaBetaFilter

variable {checks : OverflowChecks} {f : AlphaBetaFilter} {xUs observedOffsetUs : Int}

/-! ## Extrapolation without saturation -/

/-- Seeded and bounded after few enough observations that no extrapolation over a span of
two `i64` times saturates. -/
theorem Bounded.predictedQ_eq {first dxUs : Int} {count : Nat} (bounded : f.Bounded first count)
    (short : count ≤ 2 ^ 20) (span : |dxUs| < 2 ^ 64) :
    f.predictedQ dxUs = f.offsetQ + f.rateQ * dxUs / 2 ^ 12 := by
  have rate : |f.rateQ| ≤ 2 ^ 62 := by
    have each := bounded.rate
    omega
  have product : |f.rateQ * dxUs| ≤ 2 ^ 62 * 2 ^ 64 := by
    rw [abs_mul]
    exact mul_le_mul rate span.le (abs_nonneg _) (by decide)
  have drift := abs_le.mp product
  have offset := abs_le.mp bounded.offset
  have seeded := bounded.seeded
  have last := bounded.last
  unfold I64Fits at seeded last
  apply predictedQ_of_fits
  · exact ⟨by omega, by omega⟩
  · exact ⟨by omega, by omega⟩

/-- The prediction of the stored line in exact fractions of a microsecond. -/
def exactPrediction (f : AlphaBetaFilter) (xUs : Int) : ℚ :=
  f.offsetQ / 2 ^ 20 + f.rateQ * (xUs - f.lastXUs) / 2 ^ 32

/-- The exact prediction is one that `predict` can return. -/
def PredictionFits (f : AlphaBetaFilter) (xUs : Int) : Prop :=
  -2 ^ 63 ≤ f.exactPrediction xUs ∧ f.exactPrediction xUs < 2 ^ 63

/-- A floor over a power of two, as a bracket around the quotient. -/
theorem ediv_bracket (dividend : Int) {divisor : Int} (positive : 0 < divisor) :
    ((dividend / divisor : Int) : ℚ) * divisor ≤ dividend ∧
      (dividend : ℚ) < ((dividend / divisor : Int) : ℚ) * divisor + divisor := by
  have whole := Int.ediv_mul_add_emod dividend divisor
  have lower := Int.emod_nonneg dividend positive.ne'
  have upper := Int.emod_lt_of_pos dividend positive
  have above : dividend / divisor * divisor ≤ dividend := by omega
  have below : dividend < dividend / divisor * divisor + divisor := by omega
  constructor
  · exact_mod_cast above
  · exact_mod_cast below

/-- The prediction is the exact one rounded down, once for both shifts. -/
theorem Bounded.predictedQ_bracket {first : Int} {count : Nat} (bounded : f.Bounded first count)
    (short : count ≤ 2 ^ 20) (x : I64Fits xUs) :
    ((f.predictedQ (xUs - f.lastXUs) / 2 ^ 20 : Int) : ℚ) ≤ f.exactPrediction xUs ∧
      f.exactPrediction xUs < ((f.predictedQ (xUs - f.lastXUs) / 2 ^ 20 : Int) : ℚ) + 1 := by
  have last := bounded.last
  unfold I64Fits at x last
  have span : |xUs - f.lastXUs| < 2 ^ 64 := abs_lt.mpr ⟨by omega, by omega⟩
  have nested : f.predictedQ (xUs - f.lastXUs) / 2 ^ 20 =
      (f.offsetQ * 2 ^ 12 + f.rateQ * (xUs - f.lastXUs)) / 2 ^ 32 := by
    rw [bounded.predictedQ_eq short span]
    omega
  have bracket := ediv_bracket (f.offsetQ * 2 ^ 12 + f.rateQ * (xUs - f.lastXUs))
    (show (0 : Int) < 2 ^ 32 by decide)
  have exact_eq : f.exactPrediction xUs =
      ((f.offsetQ * 2 ^ 12 + f.rateQ * (xUs - f.lastXUs) : Int) : ℚ) / 2 ^ 32 := by
    unfold exactPrediction
    push_cast
    ring
  rw [nested, exact_eq]
  push_cast at bracket ⊢
  constructor
  · linarith [bracket.1]
  · linarith [bracket.2]

/-- An exact prediction in range is an `i64` when rounded down. -/
theorem Bounded.predictedQ_fits {first : Int} {count : Nat} (bounded : f.Bounded first count)
    (short : count ≤ 2 ^ 20) (x : I64Fits xUs) (fits : f.PredictionFits xUs) :
    I64Fits (f.predictedQ (xUs - f.lastXUs) / 2 ^ 20) := by
  have bracket := bounded.predictedQ_bracket short x
  unfold PredictionFits at fits
  have above : (-2 ^ 63 - 1 : ℚ) < (f.predictedQ (xUs - f.lastXUs) / 2 ^ 20 : Int) := by
    linarith [bracket.2, fits.1]
  have below : ((f.predictedQ (xUs - f.lastXUs) / 2 ^ 20 : Int) : ℚ) < 2 ^ 63 := by
    linarith [bracket.1, fits.2]
  have lower : -2 ^ 63 - 1 < f.predictedQ (xUs - f.lastXUs) / 2 ^ 20 := by exact_mod_cast above
  have upper : f.predictedQ (xUs - f.lastXUs) / 2 ^ 20 < 2 ^ 63 := by exact_mod_cast below
  exact ⟨by omega, upper⟩

/-- A seeded filter returns its extrapolation rounded down, where that is an `i64`. -/
theorem predict_of_fits (running : f.initialized = true)
    (whole : I64Fits (f.predictedQ (xUs - f.lastXUs) / 2 ^ 20)) :
    f.predict xUs = some (f.predictedQ (xUs - f.lastXUs) / 2 ^ 20) := by
  unfold predict
  rw [if_neg (by simp [running]), wrapI64_of_fits whole]

/-! ## The two corrections -/

/-- `correction` — what one observation adds to the predicted offset. -/
def correctionQ (f : AlphaBetaFilter) (xUs observedOffsetUs : Int) : Int :=
  (f.innovationQ xUs observedOffsetUs).tdiv f.alpha.toNat

/-- `rate_correction` — what one observation adds to the rate. -/
def rateCorrectionQ (f : AlphaBetaFilter) (xUs observedOffsetUs : Int) : Int :=
  ((f.innovationQ xUs observedOffsetUs * 2 ^ 12).tdiv (xUs - f.lastXUs)).tdiv f.beta.toNat

/-- A truncated quotient, multiplied back, is within the bound of the dividend. -/
theorem abs_tdiv_mul_le {dividend divisor bound : Int} (positive : 0 < divisor)
    (size : |dividend| ≤ bound) : |dividend.tdiv divisor| * divisor ≤ bound :=
  calc |dividend.tdiv divisor| * divisor
      ≤ bound / divisor * divisor :=
        mul_le_mul_of_nonneg_right (abs_tdiv_le positive size) positive.le
    _ ≤ bound := Int.ediv_mul_le bound positive.ne'

/-- The offset is corrected by the clamp over the offset gain at most. -/
theorem Bounded.correctionQ_le {first : Int} {count : Nat} (bounded : f.Bounded first count)
    (xUs observedOffsetUs : Int) :
    |(f.correctionQ xUs observedOffsetUs : ℚ) / 2 ^ 20| ≤ 1000 / (f.alpha.toNat : ℚ) := by
  have gain := bounded.gains.1
  have divides : (0 : ℚ) < f.alpha.toNat := by exact_mod_cast gain
  have multiplied := abs_tdiv_mul_le (show (0 : Int) < f.alpha.toNat by omega)
    (f.abs_innovationQ_le xUs observedOffsetUs)
  have rational : |(f.correctionQ xUs observedOffsetUs : ℚ)| * f.alpha.toNat ≤ 1000 * 2 ^ 20 := by
    unfold correctionQ
    exact_mod_cast multiplied
  rw [abs_div, abs_of_pos (by norm_num : (0 : ℚ) < 2 ^ 20), le_div_iff₀ divides,
    div_mul_eq_mul_div, div_le_iff₀ (by norm_num)]
  exact rational

/-- The rate is corrected by the clamp over the rate gain and the elapsed time at most. -/
theorem Bounded.rateCorrectionQ_le {first : Int} {count : Nat} (bounded : f.Bounded first count)
    (later : f.lastXUs < xUs) (observedOffsetUs : Int) :
    |(f.rateCorrectionQ xUs observedOffsetUs : ℚ) / 2 ^ 32| ≤
      1000 / ((f.beta.toNat : ℚ) * (xUs - f.lastXUs)) := by
  have gain := bounded.gains.2
  have forward : 0 < xUs - f.lastXUs := by omega
  have divisor : 0 < (xUs - f.lastXUs) * f.beta.toNat := mul_pos forward (by omega)
  have divides : (0 : ℚ) < (f.beta.toNat : ℚ) * (xUs - f.lastXUs) := by
    rw [mul_comm]
    exact_mod_cast divisor
  have shifted : |f.innovationQ xUs observedOffsetUs * 2 ^ 12| ≤ 1000 * 2 ^ 32 := by
    rw [abs_mul]
    exact mul_le_mul_of_nonneg_right (f.abs_innovationQ_le xUs observedOffsetUs) (by decide)
  have multiplied := abs_tdiv_mul_le divisor shifted
  have rational : |(f.rateCorrectionQ xUs observedOffsetUs : ℚ)| *
      ((f.beta.toNat : ℚ) * (xUs - f.lastXUs)) ≤ 1000 * 2 ^ 32 := by
    unfold rateCorrectionQ
    rw [tdiv_tdiv_of_nonneg _ forward.le, mul_comm (f.beta.toNat : ℚ)]
    exact_mod_cast multiplied
  rw [abs_div, abs_of_pos (by norm_num : (0 : ℚ) < 2 ^ 32), le_div_iff₀ divides,
    div_mul_eq_mul_div, div_le_iff₀ (by norm_num)]
  exact rational

/-- A bounded filter past its last time takes both corrections as they are. -/
theorem Bounded.next_eq {first : Int} {count : Nat} (bounded : f.Bounded first count)
    (short : count < 2 ^ 20) (later : f.lastXUs < xUs) (observedOffsetUs : Int) :
    f.next xUs observedOffsetUs =
      { f with
        offsetQ := f.predictedQ (xUs - f.lastXUs) + f.correctionQ xUs observedOffsetUs
        rateQ := f.rateQ + f.rateCorrectionQ xUs observedOffsetUs
        lastXUs := xUs } := by
  have moved := abs_rateQ_step_le f.rateQ (f.abs_innovationQ_le xUs observedOffsetUs)
    (sub_pos.mpr later) (show (0 : Int) < f.beta.toNat by have gain := bounded.gains.2; omega)
  have rate := bounded.rate
  have unsaturated : saturateI128 (f.rateQ + f.rateCorrectionQ xUs observedOffsetUs) =
      f.rateQ + f.rateCorrectionQ xUs observedOffsetUs := by
    have within := abs_le.mp moved
    unfold rateCorrectionQ
    unfold saturateI128 at within ⊢
    omega
  unfold AlphaBetaFilter.next
  rw [if_neg (by simp [bounded.running]), if_neg (by omega)]
  unfold rateCorrectionQ at unsaturated
  rw [unsaturated]
  rfl

/-! ## Before and after -/

/-- Past the observation the two lines differ by the corrections, up to the shift of the
old rate that the new base point rounds down once more. -/
theorem Bounded.exactPrediction_next {first : Int} {count : Nat} (bounded : f.Bounded first count)
    (short : count < 2 ^ 20) (x : I64Fits xUs) (later : f.lastXUs < xUs)
    (observedOffsetUs tUs : Int) :
    |(f.next xUs observedOffsetUs).exactPrediction (xUs + tUs) - f.exactPrediction (xUs + tUs) -
        (f.correctionQ xUs observedOffsetUs / 2 ^ 20 +
          f.rateCorrectionQ xUs observedOffsetUs / 2 ^ 32 * tUs)| ≤ 1 / 2 ^ 20 := by
  have last := bounded.last
  unfold I64Fits at x last
  have span : |xUs - f.lastXUs| < 2 ^ 64 := abs_lt.mpr ⟨by omega, by omega⟩
  have bracket := ediv_bracket (f.rateQ * (xUs - f.lastXUs)) (show (0 : Int) < 2 ^ 12 by decide)
  have rounded : (f.next xUs observedOffsetUs).exactPrediction (xUs + tUs) -
      f.exactPrediction (xUs + tUs) -
        (f.correctionQ xUs observedOffsetUs / 2 ^ 20 +
          f.rateCorrectionQ xUs observedOffsetUs / 2 ^ 32 * tUs) =
      (((f.rateQ * (xUs - f.lastXUs) / 2 ^ 12 : Int) : ℚ) * 2 ^ 12 -
        f.rateQ * (xUs - f.lastXUs)) / 2 ^ 32 := by
    rw [bounded.next_eq short later, bounded.predictedQ_eq short.le span]
    unfold exactPrediction
    simp only [Int.cast_add]
    ring
  rw [rounded]
  push_cast at bracket ⊢
  exact abs_le.mpr ⟨by linarith [bracket.2], by linarith [bracket.1]⟩

/-- The line moves by the two corrections at most. -/
theorem Bounded.exactPrediction_influence {first : Int} {count : Nat}
    (bounded : f.Bounded first count) (short : count < 2 ^ 20) (x : I64Fits xUs)
    (later : f.lastXUs < xUs) (observedOffsetUs : Int) {tUs : Int} (forward : 0 ≤ tUs) :
    |(f.next xUs observedOffsetUs).exactPrediction (xUs + tUs) - f.exactPrediction (xUs + tUs)| ≤
      1000 / (f.alpha.toNat : ℚ) +
        1000 * tUs / ((f.beta.toNat : ℚ) * (xUs - f.lastXUs)) + 1 / 2 ^ 20 := by
  have nonneg : (0 : ℚ) ≤ tUs := by exact_mod_cast forward
  have rounded := abs_le.mp (bounded.exactPrediction_next short x later observedOffsetUs tUs)
  have offset := abs_le.mp (bounded.correctionQ_le xUs observedOffsetUs)
  have turned : |(f.rateCorrectionQ xUs observedOffsetUs : ℚ) / 2 ^ 32 * tUs| ≤
      1000 / ((f.beta.toNat : ℚ) * (xUs - f.lastXUs)) * tUs := by
    rw [abs_mul, abs_of_nonneg nonneg]
    exact mul_le_mul_of_nonneg_right (bounded.rateCorrectionQ_le later observedOffsetUs) nonneg
  have slope := abs_le.mp turned
  rw [mul_div_right_comm]
  exact abs_le.mpr ⟨by linarith, by linarith⟩

/-- A truncated quotient by a gain lies between zero and its dividend. -/
theorem tdiv_toward (dividend : Int) {gain : Int} (positive : 0 < gain) :
    (0 ≤ dividend ∧ 0 ≤ dividend.tdiv gain ∧ dividend.tdiv gain ≤ dividend) ∨
      (dividend ≤ 0 ∧ dividend ≤ dividend.tdiv gain ∧ dividend.tdiv gain ≤ 0) := by
  rcases Int.le_total 0 dividend with upward | downward
  · left
    have nonneg := Int.tdiv_nonneg upward positive.le
    have whole := Int.tdiv_le_self gain upward
    exact ⟨upward, nonneg, whole⟩
  · right
    have upward : 0 ≤ -dividend := by omega
    have nonneg := Int.tdiv_nonneg upward positive.le
    have whole := Int.tdiv_le_self gain upward
    rw [Int.neg_tdiv] at nonneg whole
    exact ⟨downward, by omega, by omega⟩

/-- At its own time the observation moves the extrapolation toward itself, without passing. -/
theorem Bounded.predictedQ_toward {first : Int} {count : Nat} (bounded : f.Bounded first count)
    (xUs observedOffsetUs : Int) :
    (f.predictedQ (xUs - f.lastXUs) ≤
        f.predictedQ (xUs - f.lastXUs) + f.correctionQ xUs observedOffsetUs ∧
      f.predictedQ (xUs - f.lastXUs) + f.correctionQ xUs observedOffsetUs ≤
        observedOffsetUs * 2 ^ 20) ∨
    (observedOffsetUs * 2 ^ 20 ≤
        f.predictedQ (xUs - f.lastXUs) + f.correctionQ xUs observedOffsetUs ∧
      f.predictedQ (xUs - f.lastXUs) + f.correctionQ xUs observedOffsetUs ≤
        f.predictedQ (xUs - f.lastXUs)) := by
  have gain := bounded.gains.1
  have clamped : f.innovationQ xUs observedOffsetUs =
      max (-maxInnovationQ)
        (min (observedOffsetUs * 2 ^ 20 - f.predictedQ (xUs - f.lastXUs)) maxInnovationQ) := rfl
  have toward := tdiv_toward (f.innovationQ xUs observedOffsetUs)
    (show (0 : Int) < f.alpha.toNat by omega)
  unfold correctionQ
  unfold maxInnovationQ at clamped
  rcases toward with upward | downward
  · left
    constructor
    · omega
    · omega
  · right
    constructor
    · omega
    · omega

/-- The prediction at the time of the observation stays in range and ends up between the
old one and the observation. -/
theorem Bounded.predict_toward {first : Int} {count : Nat} (bounded : f.Bounded first count)
    (short : count < 2 ^ 20) (x : I64Fits xUs) (y : I64Fits observedOffsetUs)
    (later : f.lastXUs < xUs) (fits : f.PredictionFits xUs) :
    ∃ before after, f.predict xUs = some before ∧
      (f.next xUs observedOffsetUs).predict xUs = some after ∧
      ((before ≤ after ∧ after ≤ observedOffsetUs) ∨
        (observedOffsetUs ≤ after ∧ after ≤ before)) := by
  have toward := bounded.predictedQ_toward xUs observedOffsetUs
  have boundedNext := bounded.next (by omega) x observedOffsetUs
  have old := bounded.predictedQ_fits short.le x fits
  have here : (f.next xUs observedOffsetUs).predictedQ
      (xUs - (f.next xUs observedOffsetUs).lastXUs) =
        f.predictedQ (xUs - f.lastXUs) + f.correctionQ xUs observedOffsetUs := by
    have still : xUs - (f.next xUs observedOffsetUs).lastXUs = 0 := by
      rw [bounded.next_eq short later]
      exact sub_self xUs
    rw [still, boundedNext.predictedQ_eq (by omega) (by decide), bounded.next_eq short later]
    simp
  have new : I64Fits ((f.next xUs observedOffsetUs).predictedQ
      (xUs - (f.next xUs observedOffsetUs).lastXUs) / 2 ^ 20) := by
    rw [here]
    unfold I64Fits at old y ⊢
    omega
  refine ⟨_, _, predict_of_fits bounded.running old, predict_of_fits boundedNext.running new, ?_⟩
  rw [here]
  omega

/-- Both predictions past the observation. -/
theorem Bounded.predict_influence {first : Int} {count : Nat} (bounded : f.Bounded first count)
    (short : count < 2 ^ 20) (x : I64Fits xUs) (later : f.lastXUs < xUs) {tUs : Int}
    (forward : 0 ≤ tUs) (future : I64Fits (xUs + tUs)) (fits : f.PredictionFits (xUs + tUs))
    (fitsNext : (f.next xUs observedOffsetUs).PredictionFits (xUs + tUs)) :
    ∃ before after, f.predict (xUs + tUs) = some before ∧
      (f.next xUs observedOffsetUs).predict (xUs + tUs) = some after ∧
      |(after : ℚ) - before| ≤ 1000 / (f.alpha.toNat : ℚ) +
        1000 * tUs / ((f.beta.toNat : ℚ) * (xUs - f.lastXUs)) + 2 := by
  have boundedNext := bounded.next (by omega) x observedOffsetUs
  have influence := abs_le.mp
    (bounded.exactPrediction_influence short x later observedOffsetUs forward)
  have old := bounded.predictedQ_bracket short.le future
  have new := boundedNext.predictedQ_bracket (by omega) future
  refine ⟨_, _, predict_of_fits bounded.running (bounded.predictedQ_fits short.le future fits),
    predict_of_fits boundedNext.running (boundedNext.predictedQ_fits (by omega) future fitsNext),
    abs_le.mpr ⟨?_, ?_⟩⟩
  · linarith
  · linarith

/-- An observation that is not later changes nothing. -/
theorem Bounded.next_of_late {first : Int} {count : Nat} (bounded : f.Bounded first count)
    (observedOffsetUs : Int) (late : xUs ≤ f.lastXUs) : f.next xUs observedOffsetUs = f := by
  unfold AlphaBetaFilter.next
  rw [if_neg (by simp [bounded.running]), if_pos late]

end AlphaBetaFilter

/-- **Bounded influence.** After any nonempty sequence of at most `2 ^ 20` observations,
an observation that is not later than the last changes nothing; a later one moves every
prediction from its time on by at most the clamp over the offset gain, the clamp over the
rate gain and the elapsed time, and two roundings; and it moves the prediction at its own
time toward itself without passing. -/
theorem one_observation_influence (alpha beta : U32) (alphaPos : 1 ≤ alpha.toNat)
    (betaPos : 1 ≤ beta.toNat) (observations : List (Int × Int)) (observed : observations ≠ [])
    (fits : ∀ o ∈ observations, I64Fits o.1 ∧ I64Fits o.2) (short : observations.length ≤ 2 ^ 20)
    (xUs observedOffsetUs : Int) (x : I64Fits xUs) (y : I64Fits observedOffsetUs) :
    ∃ f after : AlphaBetaFilter,
      (∀ checks, (AlphaBetaFilter.new alpha beta).observeAll checks observations = .ok f) ∧
      (∀ checks, f.observe checks xUs observedOffsetUs = .ok after) ∧
      (xUs ≤ f.lastXUs → after = f) ∧
      (f.lastXUs < xUs →
        (∀ tUs : Int, 0 ≤ tUs → I64Fits (xUs + tUs) → f.PredictionFits (xUs + tUs) →
          after.PredictionFits (xUs + tUs) →
            ∃ p p', f.predict (xUs + tUs) = some p ∧ after.predict (xUs + tUs) = some p' ∧
              |(p' : ℚ) - p| ≤ 1000 / (alpha.toNat : ℚ) +
                1000 * tUs / ((beta.toNat : ℚ) * (xUs - f.lastXUs)) + 2) ∧
        (f.PredictionFits xUs →
          ∃ p p', f.predict xUs = some p ∧ after.predict xUs = some p' ∧
            ((p ≤ p' ∧ p' ≤ observedOffsetUs) ∨ (observedOffsetUs ≤ p' ∧ p' ≤ p)))) := by
  cases observations with
  | nil => contradiction
  | cons seed rest =>
    rw [List.length_cons] at short
    have gains : 0 < (AlphaBetaFilter.new alpha beta).alpha.toNat ∧
        0 < (AlphaBetaFilter.new alpha beta).beta.toNat := ⟨alphaPos, betaPos⟩
    obtain ⟨f, bounded, returned⟩ :=
      AlphaBetaFilter.Bounded.observeAll rfl gains fits (by omega)
    have kept := AlphaBetaFilter.gains_of_observeAll (fun o member => (fits o member).1)
      (show I64Fits 0 by decide) (returned .enabled)
    have alpha_eq : f.alpha = alpha := kept.1
    have beta_eq : f.beta = beta := kept.2
    refine ⟨f, f.next xUs observedOffsetUs, returned, fun checks =>
      AlphaBetaFilter.observe_eq_next (bounded.observeFits (by omega) x y),
      bounded.next_of_late observedOffsetUs, fun later => ⟨fun tUs forward future old new => ?_,
      bounded.predict_toward (by omega) x y later⟩⟩
    rw [← alpha_eq, ← beta_eq]
    exact bounded.predict_influence (by omega) x later forward future old new

/-- An outlier of a second, two tenths of a second after the seed, and its effect a whole
second later. -/
theorem one_observation_influence_outlier :
    ∃ f after : AlphaBetaFilter, ∃ p p', f.observe .enabled 200000 1000000 = .ok after ∧
      f.predict 1200000 = some p ∧ after.predict 1200000 = some p' ∧
      |(p' : ℚ) - p| ≤ 1000 / 16 + 1000 * 1000000 / (2048 * 200000) + 2 := by
  obtain ⟨f, after, returned, observed, _, moved⟩ :=
    one_observation_influence 16 2048 (by decide) (by decide) [(0, 0)] (by decide) (by decide)
      (by decide) 200000 1000000 (by decide) (by decide)
  have seeded : f = ⟨true, 0, 0, 0, 16, 2048⟩ :=
    (Except.ok.inj ((returned .enabled).symm.trans rfl))
  have corrected : after = ⟨true, 200000, 65536000, 10485, 16, 2048⟩ := by
    rw [seeded] at observed
    exact Except.ok.inj ((observed .enabled).symm.trans (by decide +kernel))
  have later : f.lastXUs < 200000 := by
    rw [seeded]
    decide
  have old : f.PredictionFits (200000 + 1000000) := by
    rw [seeded]
    norm_num [AlphaBetaFilter.PredictionFits, AlphaBetaFilter.exactPrediction]
  have new : after.PredictionFits (200000 + 1000000) := by
    rw [corrected]
    norm_num [AlphaBetaFilter.PredictionFits, AlphaBetaFilter.exactPrediction]
  obtain ⟨p, p', before, afterwards, near⟩ :=
    (moved later).1 1000000 (by decide) (by decide) old new
  refine ⟨f, after, p, p', observed .enabled, before, afterwards, ?_⟩
  have gains : ((16 : U32).toNat : ℚ) = 16 ∧ ((2048 : U32).toNat : ℚ) = 2048 := by
    constructor
    · rfl
    · rfl
  rw [seeded, gains.1, gains.2] at near
  norm_num at near ⊢
  exact near

end EspClockSync
