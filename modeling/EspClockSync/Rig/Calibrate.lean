import EspClockSync.Rig.Capture

/-!
# Calibration of the capture timer

At start the rig captures its timer twice, four seconds apart, together with the system
clock. The first capture anchors the timer in that clock and the two together give its rate;
the TSF is anchored at the first capture too, at a rate that is written down.
-/

namespace EspClockSync

open Machine

namespace McpwmCap

/-- The TSF anchor and rate that `init` stores. -/
structure TsfCalibration where
  /-- `TSF_ANCHOR_US`, `i64::MIN` before calibration. -/
  tsfAnchorUs : Int
  /-- It is an `i64`. -/
  fits : I64Fits tsfAnchorUs
  /-- `US_PER_TICK_TSF_Q32`, zero before calibration. -/
  usPerTickTsfQ32 : U64

/-- The cells of the capture unit before `init`. -/
def uncalibrated : Calibration := ⟨-2 ^ 63, by decide, 0, 0⟩
/-- The TSF cells before `init`, and after an `init` without a TSF reading. -/
def uncalibratedTsf : TsfCalibration := ⟨-2 ^ 63, by decide, 0⟩

/-- What `sw_capture_ch2_with_clocks` reads: the timer and both clocks. -/
structure ClockReading where
  /-- The capture register. -/
  raw : U32
  /-- `Instant::now().as_micros()`. -/
  instantUs : U64
  /-- `read_mac_tsf_us`, where there is one. -/
  tsfUs : Option U64

/-- What `init` leaves in the cells of the capture unit. -/
structure Initialised where
  /-- `LAST_SW_CAP_PACKED`. -/
  packed : U64
  /-- The anchors and the rate of the system clock. -/
  calibration : Calibration
  /-- The anchor and the rate of the TSF. -/
  tsf : TsfCalibration

/-- `us_per_tick_instant_q32`. -/
def measuredRateQ32 (dInstant dCap : U64) : U64 :=
  if dCap = 0 then 1#64 <<< 32 else BitVec.ofNat 64 (dInstant.toNat * 2 ^ 32 / dCap.toNat)

/-- The end of the wait in `init`. -/
def calibrationTarget (checks : OverflowChecks) (first : ClockReading) : Checked Nat :=
  checks.unsigned 64 (first.instantUs.toNat + 4000000)

/-- `init`, from the packed word before it and the readings before and after its wait. -/
def init (checks : OverflowChecks) (packed : U64) (first second : ClockReading) :
    Checked Initialised := do
  let cap0 := newPacked packed first.raw
  -- The wait for the target only delays the second reading.
  let _ ← calibrationTarget checks first
  let cap1 := newPacked cap0 second.raw
  let dInstant := second.instantUs - first.instantUs
  let dCap := cap1 - cap0
  let calibration : Calibration := {
    instantAnchorUs := first.instantUs.toInt
    fits := ⟨BitVec.le_toInt _, BitVec.toInt_lt⟩
    capAnchorTicks := cap0
    usPerTickInstantQ32 := measuredRateQ32 dInstant dCap }
  let tsf := match first.tsfUs with
    | none => uncalibratedTsf
    | some t0 => {
      tsfAnchorUs := t0.toInt
      fits := ⟨BitVec.le_toInt _, BitVec.toInt_lt⟩
      usPerTickTsfQ32 := BitVec.ofNat 64 (2 ^ 32 / 80) }
  .ok ⟨cap1, calibration, tsf⟩

/-- The conversion of ticks by an anchor and a rate, without a result before calibration. -/
def convertTicks (checks : OverflowChecks) (anchorUs : Int) (capAnchorTicks usPerTickQ32 : U64)
    (capTicks : U64) : Checked (Option U64) :=
  if anchorUs = -2 ^ 63 then .ok none
  else do
    let dTicks := (capTicks - capAnchorTicks).toNat
    let scaled ← checks.i128 (dTicks * usPerTickQ32.toNat)
    let us ← checks.i128 (anchorUs + scaled / 2 ^ 32)
    if us < 0 ∨ 2 ^ 64 - 1 < us then .ok none else .ok (some (BitVec.ofInt 64 us))

/-- `cap_ticks_to_instant_us`. -/
def capTicksToInstantUs (checks : OverflowChecks) (cells : Initialised) (capTicks : U64) :
    Checked (Option U64) :=
  convertTicks checks cells.calibration.instantAnchorUs cells.calibration.capAnchorTicks
    cells.calibration.usPerTickInstantQ32 capTicks

/-- `cap_ticks_to_mac_tsf_us`. -/
def capTicksToMacTsfUs (checks : OverflowChecks) (cells : Initialised) (capTicks : U64) :
    Checked (Option U64) :=
  convertTicks checks cells.tsf.tsfAnchorUs cells.calibration.capAnchorTicks
    cells.tsf.usPerTickTsfQ32 capTicks

end McpwmCap

end EspClockSync
