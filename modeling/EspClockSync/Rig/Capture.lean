import EspClockSync.Machine.System

/-!
# The capture unit of the test rig

The capture timer is a free-running 64-bit tick count of which the hardware latches the
low 32 bits. Software captures recover the high bits by counting wraps in one packed
word; edges recover them from a prediction of the timer by the system clock.
-/

namespace EspClockSync

open Machine

namespace McpwmCap

/-- `((high as u64) << 32) | (raw as u64)`. -/
def pack (high raw : U32) : U64 := BitVec.ofNat 64 (high.toNat * 2 ^ 32 + raw.toNat)

/-- The low word of a packed value, and what a capture register reads of the timer. -/
abbrev rawOf (packed : U64) : U32 := packed.setWidth 32

/-- The high word of a packed value. -/
def highOf (packed : U64) : U32 := BitVec.ofNat 32 (packed.toNat / 2 ^ 32)

/-! ## Edges -/

/-- The anchors and the rate that `init` measures for the system clock. -/
structure Calibration where
  /-- `INSTANT_ANCHOR_US`, `i64::MIN` before calibration. -/
  instantAnchorUs : Int
  /-- It is an `i64`. -/
  fits : I64Fits instantAnchorUs
  /-- `CAP_ANCHOR_TICKS`. -/
  capAnchorTicks : U64
  /-- `US_PER_TICK_INSTANT_Q32`, zero before calibration. -/
  usPerTickInstantQ32 : U64

/-- `u64::abs_diff`. -/
def absDiff (left right : U64) : Nat :=
  if left.toNat < right.toNat then right.toNat - left.toNat else left.toNat - right.toNat

/-- The loop over the candidates: the first one of least distance. -/
def closest (predicted best : U64) : List U64 → U64
  | [] => best
  | candidate :: rest =>
    closest predicted
      (if absDiff predicted candidate < absDiff predicted best then candidate else best) rest

/-- `predicted_64`. -/
def predicted64 (checks : OverflowChecks) (calibration : Calibration) (nowUs : U64) :
    Checked Int := do
  let dUs ← checks.i128 (nowUs.toNat - calibration.instantAnchorUs)
  let ticks ← divI128 (wrapI128 (dUs * 2 ^ 32)) calibration.usPerTickInstantQ32.toNat
  checks.i128 (calibration.capAnchorTicks.toNat + ticks)

/-- `unwrap_cap_raw`. -/
def unwrapCapRaw (checks : OverflowChecks) (calibration : Calibration) (nowUs : U64) (raw : U32) :
    Checked U64 :=
  if calibration.instantAnchorUs = -2 ^ 63 ∨ calibration.usPerTickInstantQ32 = 0 then
    .ok (raw.setWidth 64)
  else do
    let predicted64 ← predicted64 checks calibration nowUs
    if predicted64 < 0 then .ok (raw.setWidth 64)
    else
      let predicted := BitVec.ofInt 64 predicted64
      let highPred := highOf predicted
      .ok (closest predicted (pack (highPred - 1) raw) [pack highPred raw, pack (highPred + 1) raw])

/-- The statics of one edge channel. -/
structure EdgeChannel where
  /-- `LAST_CAP_CH0`. -/
  last : U64
  /-- `LAST_CAP_CH0_RAW`. -/
  lastRaw : U64
  /-- `CAP_CH0_HITS`. -/
  hits : U64

/-- `poll_ch0` and `poll_ch1`: the unwrapped edge, once for each change of the register. -/
def poll (checks : OverflowChecks) (calibration : Calibration) (nowUs : U64) (channel : EdgeChannel)
    (raw : U32) : Checked (EdgeChannel × Option U64) :=
  if raw = rawOf channel.lastRaw then .ok (channel, none)
  else do
    let unwrapped ← unwrapCapRaw checks calibration nowUs raw
    .ok (⟨unwrapped, raw.setWidth 64, channel.hits + 1⟩, some unwrapped)

/-! ## Software captures -/

/-- `new_packed` of one round of the loop in `sw_capture_ch2_unwrapped`. -/
def newPacked (packed : U64) (raw : U32) : U64 :=
  let prevRaw := rawOf packed
  let prevHigh := highOf packed
  let newHigh := if raw.toNat < prevRaw.toNat then prevHigh + 1 else prevHigh
  pack newHigh raw

/-- One round of the loop: `found` is what `compare_exchange` finds in place of the
`packed` loaded before it. On success it is also what the call returns. -/
def exchange (found packed : U64) (raw : U32) : Option U64 :=
  if found = packed then some (newPacked packed raw) else none

/-- A call commits by the exchange that succeeds, against the word it finds. -/
theorem exchange_eq_some_iff {found packed committed : U64} {raw : U32} :
    exchange found packed raw = some committed ↔
      packed = found ∧ committed = newPacked found raw := by
  unfold exchange
  by_cases same : found = packed
  · subst same
    simp [eq_comm]
  · have differs : packed ≠ found := fun equal => same equal.symm
    simp [same, differs]

/-- An atomic step of the calls of `sw_capture_ch2_unwrapped` in any number of contexts. -/
inductive CaptureStep (κ : Type) where
  /-- The register read of a call, when the timer stands at this value. -/
  | latch (context : κ) (timer : U64)
  /-- The exchange of a call that succeeds, when the timer stands at this value. -/
  | commit (context : κ) (timer : U64)

/-- The calls under way and the word they share. -/
structure Captures (κ : Type) where
  /-- `LAST_SW_CAP_PACKED`. -/
  packed : U64
  /-- The timer at the latch of a call under way, of which the call holds `raw`. -/
  latched : κ → Option U64

/-- What an observer of the timer remembers of a run. -/
structure CaptureHistory where
  /-- The timer at the last step. -/
  now : Nat
  /-- The timer at the last latch. -/
  lastLatch : Nat
  /-- The latched timer of the call that committed last. -/
  lastCommitted : Nat
  /-- The calls that returned: the timer they latched and the value they returned. -/
  returned : List (U64 × U64)

/-- Software captures in any number of contexts. A context starts no call before its
last one returned, and commits only a call it has latched. -/
def capturing (κ : Type) [DecidableEq κ] : System (Captures κ × CaptureHistory) (CaptureStep κ) Unit where
  start := (⟨0, fun _ => none⟩, ⟨0, 0, 0, []⟩)
  step state action :=
    match action with
    | .latch context timer =>
      if (state.1.latched context).isSome then .error ()
      else
        .ok ({ state.1 with latched := Function.update state.1.latched context (some timer) },
          { state.2 with now := timer.toNat, lastLatch := timer.toNat })
    | .commit context timer =>
      match state.1.latched context with
      | none => .error ()
      | some latched =>
        .ok (⟨newPacked state.1.packed (rawOf latched),
            Function.update state.1.latched context none⟩,
          { state.2 with
            now := timer.toNat
            lastCommitted := latched.toNat
            returned := state.2.returned ++ [(latched, newPacked state.1.packed (rawOf latched))] })

end McpwmCap

end EspClockSync
