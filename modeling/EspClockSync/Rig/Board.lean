import EspClockSync.Client.Steps
import EspClockSync.Rig.Calibrate
import EspClockSync.Rig.Report

/-!
# A board of the test rig

The test firmware runs the client with a capture at every beacon, a pulser that raises its
outputs at every tick of the synchronised clock and a reporter that drains the two edge
channels. The radio callback can run between any two statements of the tasks, so each critical
section is a step, and so is each change of a pin and each line printed. What a step reads of
clocks and capture registers is its input, and a timer's wait only delays the next step.
-/

namespace EspClockSync

open Machine

namespace Rig

/-- `PULSE_PERIOD_NS`. -/
def pulsePeriodNs : Nat := 100000000
/-- The least time between a reading of the clock and the tick planned from it. -/
def slackNs : Nat := 5000000
/-- `PULSE_WIDTH_US`. -/
def pulseWidthUs : Nat := 1000
/-- `CAP_TICKS_PER_US_Q32`. -/
def capTicksPerUsQ32 : U64 := 80#64 <<< 32

/-- `next_tick` of `pulser`. -/
def nextTick (checks : OverflowChecks) (nowNs : U128) : Checked U128 := do
  let aligned ← checks.unsigned 128 ((nowNs.toNat / pulsePeriodNs + 1) * pulsePeriodNs)
  let ahead ← checks.unsignedSub 128 aligned nowNs.toNat
  let tick ← if ahead < slackNs then checks.unsigned 128 (aligned + pulsePeriodNs) else .ok aligned
  .ok (BitVec.ofNat 128 tick)

/-- Where `pulser` is, with the local variables it still needs there. -/
inductive Pulser where
  /-- Not spawned yet. -/
  | unspawned
  /-- In the wait for the estimator to converge. -/
  | converging
  /-- At the top of the loop. -/
  | reading
  /-- About to look up `local_us_at`. -/
  | planning (nextTick : U128)
  /-- About to compare the uptime with the target. -/
  | timing (nextTick : U128) (targetLocalUs : U64)
  /-- In the timer's wait. -/
  | sleeping (nextTick : U128) (targetLocalUs : U64) (coarseWait : Nat)
  /-- In the busy wait. -/
  | spinning (nextTick : U128) (targetLocalUs : U64)
  /-- At `pulse_out.set_high()`. -/
  | raising (nextTick : U128)
  /-- At `pulse_out_self.set_high()`. -/
  | raisingSelf (nextTick : U128)
  /-- About to capture the edge. -/
  | capturing (nextTick : U128)
  /-- At the store of the rate. -/
  | storing (nextTick : U128) (edgeCap : U64)
  /-- About to convert the captured edge. -/
  | converting (nextTick : U128) (edgeCap : U64)
  /-- About to read the clock for the end of the pulse. -/
  | converted (nextTick : U128) (edgeCap : U64) (actualSyncedNs : U128)
  /-- In the wait for the end of the pulse. -/
  | holding (nextTick : U128) (edgeCap : U64) (actualSyncedNs : U128) (releaseAt : Nat)
  /-- At `pulse_out.set_low()`. -/
  | lowering (nextTick : U128) (edgeCap : U64) (actualSyncedNs : U128)
  /-- At `pulse_out_self.set_low()`. -/
  | loweringSelf (nextTick : U128) (edgeCap : U64) (actualSyncedNs : U128)
  /-- About to print the pulse. -/
  | printing (nextTick : U128) (edgeCap : U64) (actualSyncedNs : U128)
  deriving DecidableEq

/-- Where `reporter` is. -/
inductive Reporter where
  /-- Not spawned yet. -/
  | unspawned
  /-- About to poll this channel. -/
  | polling (port : Port)
  /-- At the store of the rate in `log_event`. -/
  | storing (port : Port) (capUs : U64)
  /-- About to convert and print an edge. -/
  | converting (port : Port) (capUs : U64)
  deriving DecidableEq

/-- The channel that is polled after this one. -/
def Port.next : Port → Port
  | .d5 => .d34
  | .d34 => .d5

/-- Where `reporter` goes on after it polled this channel. -/
def Reporter.afterPoll (port : Port) : Option U64 → Reporter
  | none => .polling port.next
  | some capUs => .storing port capUs

/-- The cells and tasks of a board. -/
structure Board (channel : Channel SnifferEvent) where
  /-- The client library. -/
  client : Client channel
  /-- Whether `BEACON_HOOK` is set. -/
  hooked : Bool
  /-- The cells of the capture unit. -/
  capture : McpwmCap.Initialised
  /-- The statics of both edge channels. -/
  edges : Port → McpwmCap.EdgeChannel
  /-- The point `pulser` has reached. -/
  pulser : Pulser
  /-- `seq` of `pulser`. -/
  seq : U32
  /-- The level of `pulse_out`. -/
  pulseOut : Bool
  /-- The level of `pulse_out_self`. -/
  pulseOutSelf : Bool
  /-- The point `reporter` has reached. -/
  reporter : Reporter
  /-- The lines printed. -/
  printed : List FirmwareLine

/-- The board as `install` returns. -/
def Board.boot (channel : Channel SnifferEvent) : Board channel where
  client := Client.boot channel
  hooked := false
  capture := ⟨0, McpwmCap.uncalibrated, McpwmCap.uncalibratedTsf⟩
  edges := fun _ => ⟨BitVec.allOnes 64, 0, 0⟩
  pulser := .unspawned
  seq := 0
  pulseOut := false
  pulseOutSelf := false
  reporter := .unspawned
  printed := []

namespace Board

variable {channel : Channel SnifferEvent}

/-! ## The callback -/

/-- The frame as `rx_cb` sees it: without a hook, `invoke_beacon_hook` returns zero. -/
def hookedPacket (board : Board channel) (packet : Reception) : Reception :=
  if board.hooked then packet else { packet with extraUs := 0 }

/-! ## The main task -/

/-- A line of the main task, of `connection` or of a package. -/
def print (board : Board channel) (line : OtherLine) : Board channel :=
  { board with printed := board.printed ++ [.other line] }

/-- `main` from `mcpwm_cap::init` to the spawning of both tasks. The lines on the way are prints
of their own, as callbacks may log between them. -/
def spawn (checks : OverflowChecks) (board : Board channel) (first second : McpwmCap.ClockReading) :
    Checked (Board channel) := do
  if board.hooked then .ok board
  else
    let capture ← McpwmCap.init checks board.capture.packed first second
    .ok { board with
      capture := capture
      hooked := true
      pulser := .converging
      reporter := .polling .d5 }

/-! ## The pulser -/

/-- `synced_ns_now`. -/
def syncedNsNow (board : Board channel) (nowUs : U64) : Option U128 := board.client.syncedNsAt nowUs

/-- The wait for the estimator is over. -/
def converge (board : Board channel) : Board channel :=
  { board with
    pulser := .reading
    printed := board.printed ++ [.other .converged] }

/-- The pulse is printed; nothing but `pulser` sees `seq`. -/
def printPulse (board : Board channel) (mac : Mac) (tick : U128) (edgeCap : U64)
    (actualSyncedNs : U128) : Board channel :=
  { board with
    pulser := .reading
    seq := board.seq + 1
    printed := board.printed ++ [.pulseTx mac board.seq actualSyncedNs tick edgeCap] }

/-- `pulser` up to its next critical section, pin or line, when the clock stands at this and the
capture reads that. -/
def pulse (checks : OverflowChecks) (mac : Mac) (board : Board channel) (nowUs cap : U64) :
    Checked (Board channel) :=
  match board.pulser with
  | .unspawned => .ok board
  | .converging =>
    match board.syncedNsNow nowUs with
    | none => .ok board
    | some _ => .ok board.converge
  | .reading =>
    match board.syncedNsNow nowUs with
    | none => .ok board
    | some nowNs => do
      let tick ← nextTick checks nowNs
      .ok { board with pulser := .planning tick }
  | .planning tick =>
    match board.client.localUsAt tick with
    | none => .ok { board with pulser := .reading }
    | some targetLocalUs => .ok { board with pulser := .timing tick targetLocalUs }
  | .timing tick targetLocalUs =>
    if nowUs.toNat < targetLocalUs.toNat then
      let coarseWait := targetLocalUs.toNat - nowUs.toNat - 80
      let waiting : Pulser :=
        if 0 < coarseWait then .sleeping tick targetLocalUs coarseWait
        else .spinning tick targetLocalUs
      .ok { board with pulser := waiting }
    else .ok { board with pulser := .raising tick }
  | .sleeping tick targetLocalUs _ => .ok { board with pulser := .spinning tick targetLocalUs }
  | .spinning tick targetLocalUs =>
    if nowUs.toNat < targetLocalUs.toNat then .ok board
    else .ok { board with pulser := .raising tick }
  | .raising tick => .ok { board with pulser := .raisingSelf tick, pulseOut := true }
  | .raisingSelf tick => .ok { board with pulser := .capturing tick, pulseOutSelf := true }
  | .capturing tick => .ok { board with pulser := .storing tick cap }
  | .storing tick edgeCap =>
    .ok { board with
      client := board.client.storeExtraRate capTicksPerUsQ32
      pulser := .converting tick edgeCap }
  | .converting tick edgeCap => do
    let answer ← board.client.syncedNsAtExtraFiltered edgeCap capTicksPerUsQ32
    .ok { board with pulser := .converted tick edgeCap (answer.getD tick) }
  | .converted tick edgeCap actualSyncedNs => do
    let releaseAt ← checks.unsigned 64 (nowUs.toNat + pulseWidthUs)
    .ok { board with pulser := .holding tick edgeCap actualSyncedNs releaseAt }
  | .holding tick edgeCap actualSyncedNs releaseAt =>
    if nowUs.toNat < releaseAt then .ok board
    else .ok { board with pulser := .lowering tick edgeCap actualSyncedNs }
  | .lowering tick edgeCap actualSyncedNs =>
    .ok { board with pulser := .loweringSelf tick edgeCap actualSyncedNs, pulseOut := false }
  | .loweringSelf tick edgeCap actualSyncedNs =>
    .ok { board with pulser := .printing tick edgeCap actualSyncedNs, pulseOutSelf := false }
  | .printing tick edgeCap actualSyncedNs => .ok (board.printPulse mac tick edgeCap actualSyncedNs)

/-! ## The reporter -/

/-- `reporter` up to its next critical section, when the clock and the register of the
channel it polls read this. -/
def report (checks : OverflowChecks) (mac : Mac) (board : Board channel) (nowUs : U64) (raw : U32) :
    Checked (Board channel) :=
  match board.reporter with
  | .unspawned => .ok board
  | .polling port => do
    let (edge, polled) ←
      McpwmCap.poll checks board.capture.calibration nowUs (board.edges port) raw
    .ok { board with
      edges := Function.update board.edges port edge
      reporter := Reporter.afterPoll port polled }
  | .storing port capUs =>
    .ok { board with
      client := board.client.storeExtraRate capTicksPerUsQ32
      reporter := .converting port capUs }
  | .converting port capUs => do
    let syncedNs ← board.client.syncedNsAtExtraFiltered capUs capTicksPerUsQ32
    .ok { board with
      reporter := .polling port.next
      printed := board.printed ++ [.pulseRx port mac syncedNs capUs] }

end Board

/-! ## Runs -/

/-- What can happen next on a board. -/
inductive BoardAction where
  /-- The radio delivers a frame to `rx_cb`. -/
  | receive (packet : Reception)
  /-- `poll_ap_bssid` polls once. -/
  | poll (info : Option Bssid)
  /-- `consume_samples` advances. -/
  | consume
  /-- Another line is printed. -/
  | print (line : OtherLine)
  /-- `main` calibrates the capture unit, sets the hook and spawns the tasks. -/
  | spawn (first second : McpwmCap.ClockReading)
  /-- `pulser` advances. -/
  | pulse (nowUs cap : U64)
  /-- `reporter` advances. -/
  | report (nowUs : U64) (raw : U32)

/-- The client with its cells after one of its own actions. -/
def Board.clientStep {channel : Channel SnifferEvent} (checks : OverflowChecks)
    (board : Board channel) (action : Action) : Checked (Board channel) := do
  let client ← board.client.step checks action
  .ok { board with client := client }

/-- The board after one action. -/
def Board.step {channel : Channel SnifferEvent} (checks : OverflowChecks) (mac : Mac)
    (board : Board channel) : BoardAction → Checked (Board channel)
  | .receive packet => board.clientStep checks (.receive (board.hookedPacket packet))
  | .poll info => board.clientStep checks (.poll info)
  | .consume => board.clientStep checks .consume
  | .print line => .ok (board.print line)
  | .spawn first second => board.spawn checks first second
  | .pulse nowUs cap => board.pulse checks mac nowUs cap
  | .report nowUs raw => board.report checks mac nowUs raw

/-- A board as a system: any order of callbacks, polls and steps of its tasks. -/
def boardSystem (checks : OverflowChecks) (mac : Mac) (channel : Channel SnifferEvent) :
    System (Board channel) BoardAction Panic where
  start := Board.boot channel
  step board action := board.step checks mac action

end Rig

end EspClockSync
