import EspClockSync.Machine.Checked

/-!
# The statistics of one direction

The meter reduces every matched difference to whole microseconds and keeps count, sums,
maximum and the last 1024 magnitudes. The square root of the standard deviation is taken
in floating point and stands here as a parameter.
-/

namespace EspClockSync

open Machine

namespace Meter

/-- `DirStats`. -/
structure DirStats where
  /-- Number of recorded differences. -/
  n : U64
  /-- Their sum in microseconds, an `i64`. -/
  sumUs : Int
  /-- The sum of their squares, an `i128`. -/
  sumSqUs : Int
  /-- The largest magnitude. -/
  maxAbsUs : U64
  /-- The last magnitudes, oldest first. -/
  recentAbsUs : List U64
  /-- The 99th percentile of those. -/
  p99AbsUs : U64
  /-- The mean. -/
  meanUs : Int
  /-- The standard deviation. -/
  stddevUs : U64
  deriving DecidableEq

namespace DirStats

/-- `DirStats::default`. -/
def default : DirStats := ⟨0, 0, 0, 0, [], 0, 0, 0⟩

/-- The `i64` quotient, truncated toward zero. Both failing divisions stop in every build. -/
def divI64 (dividend divisor : Int) : Checked Int :=
  if divisor = 0 then .error .divideByZero
  else if dividend = -2 ^ 63 ∧ divisor = -1 then .error .overflow
  else .ok (dividend.tdiv divisor)

/-- `(delta_ns / 1_000) as i64`. -/
def deltaUs (deltaNs : Int) : Int := wrapI64 (deltaNs.tdiv 1000)

/-- `i64::unsigned_abs`. -/
def unsignedAbs (value : Int) : U64 := BitVec.ofNat 64 value.natAbs

/-- The window of magnitudes after one more. -/
def pushRecent (recent : List U64) (abs : U64) : List U64 :=
  if 1024 < (recent ++ [abs]).length then (recent ++ [abs]).drop 1 else recent ++ [abs]

/-- The entry of the sorted window at 0.99 of its length. In floating point too this is
the whole part, for every length up to 1024. -/
def percentile99 (recent : List U64) : U64 :=
  let sorted := recent.mergeSort fun left right => left.toNat ≤ right.toNat
  let idx := min (sorted.length * 99 / 100) (sorted.length - 1)
  sorted[idx]?.getD 0

/-- `DirStats::record`, with the cast of the square root of a variance as a parameter. -/
def record (checks : OverflowChecks) (root : U128 → U64) (stats : DirStats) (deltaNs : Int) :
    Checked DirStats := do
  let delta := deltaUs deltaNs
  let n ← checks.unsigned 64 (stats.n.toNat + 1)
  let sumUs ← checks.i64 (stats.sumUs + delta)
  let sumSqUs ← checks.i128 (stats.sumSqUs + delta * delta)
  let abs := unsignedAbs delta
  let maxAbsUs := if stats.maxAbsUs.toNat < abs.toNat then abs else stats.maxAbsUs
  let recentAbsUs := pushRecent stats.recentAbsUs abs
  let meanUs ← divI64 sumUs (wrapI64 n)
  let meanSq ← divI128 sumSqUs n
  let var ← checks.i128 (meanSq - meanUs * meanUs)
  .ok {
    n := BitVec.ofNat 64 n
    sumUs := sumUs
    sumSqUs := sumSqUs
    maxAbsUs := maxAbsUs
    recentAbsUs := recentAbsUs
    p99AbsUs := percentile99 recentAbsUs
    meanUs := meanUs
    stddevUs := root (BitVec.ofInt 128 (max var 0)) }

end DirStats

end Meter

end EspClockSync
