import EspClockSync.Machine.Ring
import EspClockSync.Sync.Isqrt

/-!
# The sliding-window estimator

`Estimator` keeps the last 256 observations in a ring and refits after each one:
the offset is the mean of `server_ns - 1000 * local_us`, the residual the
deviation of the offsets from that mean, and the drift a two-point slope kept
for diagnosis only. Only the offset enters the conversions.
-/

namespace EspClockSync

open Machine

/-- `Sample` — the local clock read `localUs` when the server time was `serverNs`. -/
structure Sample where
  /-- Server time in nanoseconds. -/
  serverNs : U128
  /-- Local clock in microseconds. -/
  localUs : U64
  deriving DecidableEq, Repr

/-- `Quality` — diagnostic output of an estimator. -/
structure Quality where
  /-- Samples in the window. -/
  nSamples : U16
  /-- Twice the standard deviation of the residuals, in microseconds. -/
  residualUsP95 : U32
  /-- Two-point slope in parts per billion. -/
  driftPpb : Int
  /-- Local time of the last observation. -/
  lastUpdateUs : U64
  deriving DecidableEq, Repr

/-- `WINDOW`. -/
def windowSize : Nat := 256
/-- The window is not empty. -/
theorem windowSize_pos : 0 < windowSize := by decide

/-- `MIN_SAMPLES`. -/
def minSamples : Nat := 8

/-- `u32::MAX`. -/
def u32Max : U32 := BitVec.allOnes 32

/-- `Estimator` — the ring of samples with the last fit. -/
structure Estimator extends Ring Sample windowSize where
  /-- Local time the fit is anchored at; always zero. -/
  anchorUs : U64
  /-- Fitted server time at local time zero. -/
  offsetNs : Int
  /-- Diagnostic slope. -/
  driftPpb : Int
  /-- Diagnostic residual. -/
  residualUsP95 : U32
  /-- Local time of the last observation. -/
  lastUpdateUs : U64

/-! ## The fit -/

/-- `(s.server_ns as i128) - (s.local_us as i128) * 1_000`. -/
def Sample.offsetNs (checks : OverflowChecks) (s : Sample) : Checked Int := do
  let scaled ← checks.i128 (s.localUs.toNat * 1000)
  checks.i128 (s.serverNs.toInt - scaled)

/-- One step of the first loop of `refit`, over `(sum_offset_ns, k)`. -/
def sumStep (checks : OverflowChecks) (found : Int × Nat) (s : Sample) : Checked (Int × Nat) := do
  let offset ← s.offsetNs checks
  let sumOffsetNs ← checks.i128 (found.1 + offset)
  let k ← checks.unsigned 32 (found.2 + 1)
  .ok (sumOffsetNs, k)

/-- The first loop of `refit`: the running sum of the offsets and the sample count. -/
def sumOffsets (checks : OverflowChecks) (samples : List Sample) : Checked (Int × Nat) :=
  samples.foldlM (sumStep checks) (0, 0)

/-- One step of the second loop of `refit`, over `(oldest, newest)`. -/
def extremesStep (found : Option Sample × Option Sample) (s : Sample) :
    Checked (Option Sample × Option Sample) :=
  match found with
  | (none, none) => .ok (some s, some s)
  | (some o, some n) =>
    let oldest := if s.localUs < o.localUs then s else o
    let newest := if n.localUs < s.localUs then s else n
    .ok (some oldest, some newest)
  | _ => .error .unreachable

/-- The second loop of `refit`: the first samples of least and of greatest local time. -/
def extremes (samples : List Sample) : Checked (Option Sample × Option Sample) :=
  samples.foldlM extremesStep (none, none)

/-- `drift_ppb` in `refit`: the slope between the two extremes, once they are more
than a second apart. -/
def slopePpb (checks : OverflowChecks) : Option Sample × Option Sample → Checked Int
  | (some o, some n) => do
    let limit ← checks.unsigned 64 (o.localUs.toNat + 1000000)
    if limit < n.localUs.toNat then do
      let dxUs ← checks.unsignedSub 64 n.localUs.toNat o.localUs.toNat
      let dyNs ← checks.i128 (n.serverNs.toInt - o.serverNs.toInt)
      let slopeQ ← divI128 (saturateI128 (dyNs * 1000000)) dxUs
      let drift ← checks.i128 (slopeQ - 1000000000)
      .ok (max (-1000000) (min drift 1000000))
    else .ok 0
  | _ => .ok 0

/-- One step of the third loop of `refit`, over `sum_sq_us`. -/
def squareStep (checks : OverflowChecks) (meanOffsetNs : Int) (sumSqUs : Nat) (s : Sample) :
    Checked Nat := do
  let perSampleOffset ← s.offsetNs checks
  let resid ← checks.i128 (perSampleOffset - meanOffsetNs)
  let residUs := resid.natAbs / 1000
  let square ← checks.unsigned 128 (residUs * residUs)
  .ok (min (sumSqUs + square) (2 ^ 128 - 1))

/-- The third loop of `refit`: the saturating sum of squared residuals in microseconds. -/
def sumSquares (checks : OverflowChecks) (meanOffsetNs : Int) (samples : List Sample) :
    Checked Nat :=
  samples.foldlM (squareStep checks meanOffsetNs) 0

/-- `(std_us.saturating_mul(2)).min(u32::MAX as u64) as u32` of `isqrt_u128(var) as u64`. -/
def doubleDeviation (root : Nat) : U32 :=
  BitVec.ofNat 32 (min (min (root % 2 ^ 64 * 2) (2 ^ 64 - 1)) (2 ^ 32 - 1))

namespace Estimator

/-- `Estimator::new`. -/
def new : Estimator where
  toRing := Ring.empty windowSize_pos
  anchorUs := 0
  offsetNs := 0
  driftPpb := 0
  residualUsP95 := u32Max
  lastUpdateUs := 0

/-- `Estimator::refit` — below `MIN_SAMPLES` the previous fit stays. -/
def refit (checks : OverflowChecks) (est : Estimator) : Checked Estimator := do
  let samples := est.occupied
  let (sumOffsetNs, k) ← sumOffsets checks samples
  if k < minSamples then .ok est
  else do
    let meanOffsetNs ← divI128 sumOffsetNs k
    let driftPpb ← slopePpb checks (← extremes samples)
    let sumSqUs ← sumSquares checks meanOffsetNs samples
    let root ← isqrtU128 checks (sumSqUs / k)
    .ok { est with
      anchorUs := 0
      offsetNs := meanOffsetNs
      driftPpb := driftPpb
      residualUsP95 := doubleDeviation root }

/-- `Estimator::observe`. -/
def observe (checks : OverflowChecks) (est : Estimator) (sample : Sample) : Checked Estimator :=
  refit checks { est with
    toRing := est.push sample
    lastUpdateUs := sample.localUs }

/-- `Estimator::synced_ns_at`. -/
def syncedNsAt (est : Estimator) (localUs : U64) : Option U128 :=
  if est.n < minSamples then none
  else
    let predicted := saturateI128 (est.offsetNs + saturateI128 (localUs.toNat * 1000))
    if predicted < 0 then none else some (BitVec.ofInt 128 predicted)

/-- `Estimator::local_us_at`. -/
def localUsAt (est : Estimator) (serverNs : U128) : Option U64 :=
  if est.n < minSamples then none
  else
    let num := saturateI128 (serverNs.toInt - est.offsetNs)
    if num < 0 then none else some (BitVec.ofInt 64 (num.tdiv 1000))

/-- `Estimator::quality`. -/
def quality (est : Estimator) : Quality where
  nSamples := BitVec.ofNat 16 est.n
  residualUsP95 := if minSamples ≤ est.n then est.residualUsP95 else u32Max
  driftPpb := max (-2 ^ 31) (min est.driftPpb (2 ^ 31 - 1))
  lastUpdateUs := est.lastUpdateUs

/-- A fresh estimator after these observations in order. -/
def observeAll (checks : OverflowChecks) (history : List Sample) : Checked Estimator :=
  history.foldlM (observe checks) new

end Estimator

end EspClockSync
