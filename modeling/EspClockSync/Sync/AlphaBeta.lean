import EspClockSync.Machine.Checked

/-!
# The α-β filter

`AlphaBetaFilter` tracks a slowly drifting offset and its rate in fixed point:
the offset carries 20 fractional bits, the rate 32. An observation first moves
the offset along the rate, then corrects both by a clamped innovation.
-/

namespace EspClockSync

open Machine

/-- `AlphaBetaFilter` — the fixed-point state of the filter. -/
structure AlphaBetaFilter where
  /-- Whether a first observation has seeded the filter. -/
  initialized : Bool
  /-- Time of the last observation the filter absorbed, in microseconds. -/
  lastXUs : Int
  /-- Offset at that time, scaled by `2 ^ 20`. -/
  offsetQ : Int
  /-- Rate of the offset, scaled by `2 ^ 32`. -/
  rateQ : Int
  /-- Offset gain divisor. -/
  alpha : U32
  /-- Rate gain divisor. -/
  beta : U32
  deriving DecidableEq, Repr

namespace AlphaBetaFilter

/-- `MAX_INNOVATION_US << OFFSET_Q_SHIFT`. -/
def maxInnovationQ : Int := 1000 * 2 ^ 20

/-- `AlphaBetaFilter::new`. -/
def new (alpha beta : U32) : AlphaBetaFilter where
  initialized := false
  lastXUs := 0
  offsetQ := 0
  rateQ := 0
  alpha := alpha
  beta := beta

/-- The extrapolation shared by `observe` and `predict`:
`offset_q.saturating_add(rate_q.saturating_mul(dx_us) >> RATE_TO_OFFSET_SHIFT)`. -/
def predictedQ (f : AlphaBetaFilter) (dxUs : Int) : Int :=
  saturateI128 (f.offsetQ + saturateI128 (f.rateQ * dxUs) / 2 ^ 12)

/-- Without saturation the extrapolation is exact. -/
theorem predictedQ_of_fits {f : AlphaBetaFilter} {dxUs : Int} (drift : I128Fits (f.rateQ * dxUs))
    (offset : I128Fits (f.offsetQ + f.rateQ * dxUs / 2 ^ 12)) :
    f.predictedQ dxUs = f.offsetQ + f.rateQ * dxUs / 2 ^ 12 := by
  unfold predictedQ
  rw [saturateI128_of_fits drift, saturateI128_of_fits offset]

/-- The observations the filter does not skip as out of order or repeated. -/
def absorbs (f : AlphaBetaFilter) (xUs : Int) : Bool :=
  !f.initialized || decide (f.lastXUs < xUs)

/-- `AlphaBetaFilter::observe`. -/
def observe (checks : OverflowChecks) (f : AlphaBetaFilter) (xUs observedOffsetUs : Int) :
    Checked AlphaBetaFilter :=
  if !f.initialized then
    .ok { f with
      lastXUs := xUs
      offsetQ := wrapI128 (observedOffsetUs * 2 ^ 20)
      rateQ := 0
      initialized := true }
  else do
    let dxUs ← checks.i128 (xUs - f.lastXUs)
    if dxUs ≤ 0 then .ok f
    else do
      let predictedOffsetQ := f.predictedQ dxUs
      let observedQ := wrapI128 (observedOffsetUs * 2 ^ 20)
      let innovationQ ← checks.i128 (observedQ - predictedOffsetQ)
      let clampedInnovation := max (-maxInnovationQ) (min innovationQ maxInnovationQ)
      let correction ← divI128 clampedInnovation f.alpha.toNat
      let offsetQ ← checks.i128 (predictedOffsetQ + correction)
      let observedRateQ ← divI128 (wrapI128 (clampedInnovation * 2 ^ 12)) dxUs
      let rateCorrection ← divI128 observedRateQ f.beta.toNat
      .ok { f with
        offsetQ := offsetQ
        rateQ := saturateI128 (f.rateQ + rateCorrection)
        lastXUs := xUs }

/-- `AlphaBetaFilter::predict`. -/
def predict (f : AlphaBetaFilter) (xUs : Int) : Option Int :=
  if !f.initialized then none
  else some (wrapI64 (f.predictedQ (xUs - f.lastXUs) / 2 ^ 20))

/-- `AlphaBetaFilter::rate_ppb`. -/
def ratePpb (checks : OverflowChecks) (f : AlphaBetaFilter) : Checked Int := do
  let scaled ← checks.i128 (f.rateQ * 1000000000)
  .ok (wrapI64 (scaled / 2 ^ 32))

/-- A filter after these observations in order. -/
def observeAll (checks : OverflowChecks) (f : AlphaBetaFilter) (observations : List (Int × Int)) :
    Checked AlphaBetaFilter :=
  observations.foldlM (fun f observation => f.observe checks observation.1 observation.2) f

end AlphaBetaFilter

end EspClockSync
