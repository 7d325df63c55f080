import EspClockSync.Machine.Checked
import EspClockSync.Machine.Ring

/-!
# The linear tracker

`LinearTracker` keeps the last 256 observations `(x, y)` in a ring and refits a line after
each one by least squares in integers: means rounded toward zero, the slope in fixed point
with 32 fractional bits, clamped to a half. The sums do not depend on the order of the
observations; a window of a single `x` keeps the line of an earlier window.
-/

namespace EspClockSync

open Machine

/-- `LinearTracker::N`. -/
def trackerSize : Nat := 256
/-- The window is not empty. -/
theorem trackerSize_pos : 0 < trackerSize := by decide

/-- `LinearTracker` — the ring of observations with the last fit. -/
structure LinearTracker extends Ring (Int × Int) trackerSize where
  /-- The `x` of the last observation. -/
  lastX : Int
  /-- The `x` of the anchor of the line. -/
  meanX : Int
  /-- The `y` of the anchor of the line. -/
  meanY : Int
  /-- The slope of the line, scaled by `2 ^ 32`. -/
  slopeQ32 : Int

namespace LinearTracker

/-- `LinearTracker::MIN_SAMPLES`. -/
def minSamples : Nat := 8

/-- `max_q32`. -/
def maxSlopeQ32 : Int := 2 ^ 31

/-- `LinearTracker::new`. -/
def new : LinearTracker where
  toRing := Ring.empty trackerSize_pos
  lastX := 0
  meanX := 0
  meanY := 0
  slopeQ32 := 0

/-! ## The fit -/

/-- One step of the first loop of `refit`, over `(sum_dx, sum_y, k)`. -/
def sumStep (checks : OverflowChecks) (anchorX : Int) (found : Int × Int × Int) (s : Int × Int) :
    Checked (Int × Int × Int) := do
  let dx ← checks.i128 (s.1 - anchorX)
  let sumDx ← checks.i128 (found.1 + dx)
  let sumY ← checks.i128 (found.2.1 + s.2)
  let k ← checks.i128 (found.2.2 + 1)
  .ok (sumDx, sumY, k)

/-- One step of the second loop of `refit`, over `(num, den)`. -/
def productStep (checks : OverflowChecks) (anchorX meanDx meanY : Int) (found : Int × Int)
    (s : Int × Int) : Checked (Int × Int) := do
  let fromAnchor ← checks.i128 (s.1 - anchorX)
  let dx ← checks.i128 (fromAnchor - meanDx)
  let dy ← checks.i128 (s.2 - meanY)
  let product ← checks.i128 (dx * dy)
  let num ← checks.i128 (found.1 + product)
  let square ← checks.i128 (dx * dx)
  let den ← checks.i128 (found.2 + square)
  .ok (num, den)

/-- `LinearTracker::refit` — below `MIN_SAMPLES`, and without a spread of `x`, the previous
line stays. -/
def refit (checks : OverflowChecks) (tracker : LinearTracker) : Checked LinearTracker := do
  let anchorX := tracker.lastX
  let (sumDx, sumY, k) ← tracker.occupied.foldlM (sumStep checks anchorX) (0, 0, 0)
  if k < minSamples then .ok tracker
  else do
    let meanDx ← divI128 sumDx k
    let meanY ← divI128 sumY k
    let (num, den) ← tracker.occupied.foldlM (productStep checks anchorX meanDx meanY) (0, 0)
    if den = 0 then .ok tracker
    else do
      let rawQ32 ← divI128 (wrapI128 (num * 2 ^ 32)) den
      let clamped := max (-maxSlopeQ32) (min rawQ32 maxSlopeQ32)
      let meanX ← checks.i128 (anchorX + meanDx)
      .ok { tracker with
        slopeQ32 := wrapI64 clamped
        meanX := wrapI64 meanX
        meanY := wrapI64 meanY }

/-- `LinearTracker::observe`. -/
def observe (checks : OverflowChecks) (tracker : LinearTracker) (x y : Int) :
    Checked LinearTracker :=
  refit checks { tracker with
    toRing := tracker.push (x, y)
    lastX := x }

/-- A fresh tracker after these observations in order. -/
def observeAll (checks : OverflowChecks) (history : List (Int × Int)) : Checked LinearTracker :=
  history.foldlM (fun tracker o => tracker.observe checks o.1 o.2) new

/-! ## Predictions -/

/-- The final test of both predictions: a value outside the `i64` range is none. -/
def inRange (value : Int) : Option Int :=
  if value < -2 ^ 63 ∨ 2 ^ 63 - 1 < value then none else some value

/-- `LinearTracker::predict`. -/
def predict (checks : OverflowChecks) (tracker : LinearTracker) (x : Int) : Checked (Option Int) :=
  if tracker.n < minSamples then .ok none
  else do
    let dx ← checks.i128 (x - tracker.meanX)
    let product ← checks.i128 (dx * tracker.slopeQ32)
    let y ← checks.i128 (tracker.meanY + product / 2 ^ 32)
    .ok (inRange y)

/-- `LinearTracker::predict_inverse`. -/
def predictInverse (checks : OverflowChecks) (tracker : LinearTracker) (y : Int) :
    Checked (Option Int) :=
  if tracker.n < minSamples then .ok none
  else if tracker.slopeQ32 = 0 then .ok (some tracker.meanX)
  else do
    let dy ← checks.i128 (y - tracker.meanY)
    let dx ← divI128 (wrapI128 (dy * 2 ^ 32)) tracker.slopeQ32
    let x ← checks.i128 (tracker.meanX + dx)
    .ok (inRange x)

end LinearTracker

end EspClockSync
