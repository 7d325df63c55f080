import EspClockSync.Verif.ClientSteps
import EspClockSync.Rig.Board

/-!
# What a step of a board can do

`Board.Stepped` lists every outcome of every action of the test firmware once, with the
tests that lead to it. Invariants of a board are proved by cases on it, and through the
actions that each outcome passes to the client, every run of a board is a run of the client.
-/

namespace EspClockSync

open Machine

namespace Rig

variable {channel : Channel SnifferEvent} {checks : OverflowChecks} {mac : Mac}

namespace Board

/-- The outcomes of one action. -/
inductive Stepped (checks : OverflowChecks) (mac : Mac) (board : Board channel) :
    BoardAction → Board channel → Prop where
  /-- A frame reaches the callback. -/
  | received (packet : Reception) (client : Client channel)
      (returned : board.client.step checks (.receive (board.hookedPacket packet)) = .ok client) :
      Stepped checks mac board (.receive packet) { board with client := client }
  /-- The access point is polled. -/
  | polledAp (info : Option Bssid) (client : Client channel)
      (returned : board.client.step checks (.poll info) = .ok client) :
      Stepped checks mac board (.poll info) { board with client := client }
  /-- The consumer advances. -/
  | consumed (client : Client channel)
      (returned : board.client.step checks .consume = .ok client) :
      Stepped checks mac board .consume { board with client := client }
  /-- Another line is printed. -/
  | noted (line : OtherLine) : Stepped checks mac board (.print line) (board.print line)
  /-- The capture unit is calibrated and the tasks begin. -/
  | spawned (first second : McpwmCap.ClockReading) (capture : McpwmCap.Initialised)
      (unhooked : board.hooked = false)
      (returned : McpwmCap.init checks board.capture.packed first second = .ok capture) :
      Stepped checks mac board (.spawn first second)
        { board with
          capture := capture
          hooked := true
          pulser := .converging
          reporter := .polling .d5 }
  /-- They are spawned once. -/
  | respawned (first second : McpwmCap.ClockReading) (hooked : board.hooked = true) :
      Stepped checks mac board (.spawn first second) board
  /-- The pulser waits on. -/
  | waited (nowUs cap : U64) (same : board.pulse checks mac nowUs cap = .ok board) :
      Stepped checks mac board (.pulse nowUs cap) board
  /-- The clock answers for the first time. -/
  | converged (nowUs cap : U64) (nowNs : U128) (converging : board.pulser = .converging)
      (answer : board.syncedNsNow nowUs = some nowNs) :
      Stepped checks mac board (.pulse nowUs cap) board.converge
  /-- A tick is chosen from a reading of the clock. -/
  | read (nowUs cap : U64) (nowNs tick : U128) (reading : board.pulser = .reading)
      (answer : board.syncedNsNow nowUs = some nowNs)
      (chosen : nextTick checks nowNs = .ok tick) :
      Stepped checks mac board (.pulse nowUs cap) { board with pulser := .planning tick }
  /-- The tick has no uptime. -/
  | unplanned (nowUs cap : U64) (tick : U128) (planning : board.pulser = .planning tick)
      (missing : board.client.localUsAt tick = none) :
      Stepped checks mac board (.pulse nowUs cap) { board with pulser := .reading }
  /-- The tick has an uptime. -/
  | planned (nowUs cap : U64) (tick : U128) (targetLocalUs : U64)
      (planning : board.pulser = .planning tick)
      (found : board.client.localUsAt tick = some targetLocalUs) :
      Stepped checks mac board (.pulse nowUs cap)
        { board with pulser := .timing tick targetLocalUs }
  /-- The target is far enough for the timer. -/
  | slept (nowUs cap : U64) (tick : U128) (targetLocalUs : U64)
      (timing : board.pulser = .timing tick targetLocalUs)
      (early : nowUs.toNat + 80 < targetLocalUs.toNat) :
      Stepped checks mac board (.pulse nowUs cap)
        { board with
          pulser := .sleeping tick targetLocalUs (targetLocalUs.toNat - nowUs.toNat - 80) }
  /-- The busy wait begins. -/
  | spun (nowUs cap : U64) (tick : U128) (targetLocalUs : U64)
      (waiting : board.pulser = .timing tick targetLocalUs ∨
        ∃ coarseWait, board.pulser = .sleeping tick targetLocalUs coarseWait) :
      Stepped checks mac board (.pulse nowUs cap)
        { board with pulser := .spinning tick targetLocalUs }
  /-- The target is reached. -/
  | due (nowUs cap : U64) (tick : U128) (targetLocalUs : U64)
      (waiting : board.pulser = .timing tick targetLocalUs ∨
        board.pulser = .spinning tick targetLocalUs)
      (reached : targetLocalUs.toNat ≤ nowUs.toNat) :
      Stepped checks mac board (.pulse nowUs cap) { board with pulser := .raising tick }
  /-- The output rises. -/
  | raised (nowUs cap : U64) (tick : U128) (raising : board.pulser = .raising tick) :
      Stepped checks mac board (.pulse nowUs cap)
        { board with pulser := .raisingSelf tick, pulseOut := true }
  /-- The output to the board itself rises. -/
  | raisedSelf (nowUs cap : U64) (tick : U128) (raising : board.pulser = .raisingSelf tick) :
      Stepped checks mac board (.pulse nowUs cap)
        { board with pulser := .capturing tick, pulseOutSelf := true }
  /-- The edge is captured. -/
  | captured (nowUs cap : U64) (tick : U128) (capturing : board.pulser = .capturing tick) :
      Stepped checks mac board (.pulse nowUs cap) { board with pulser := .storing tick cap }
  /-- The pulser stores the rate. -/
  | stored (nowUs cap : U64) (tick : U128) (edgeCap : U64)
      (storing : board.pulser = .storing tick edgeCap) :
      Stepped checks mac board (.pulse nowUs cap)
        { board with
          client := board.client.storeExtraRate capTicksPerUsQ32
          pulser := .converting tick edgeCap }
  /-- The pulser converts its edge. -/
  | converted (nowUs cap : U64) (tick : U128) (edgeCap : U64) (answer : Option U128)
      (converting : board.pulser = .converting tick edgeCap)
      (returned : board.client.syncedNsAtExtraFiltered edgeCap capTicksPerUsQ32 = .ok answer) :
      Stepped checks mac board (.pulse nowUs cap)
        { board with pulser := .converted tick edgeCap (answer.getD tick) }
  /-- The end of the pulse is set. -/
  | held (nowUs cap : U64) (tick : U128) (edgeCap : U64) (actualSyncedNs : U128) (releaseAt : Nat)
      (converted : board.pulser = .converted tick edgeCap actualSyncedNs)
      (returned : checks.unsigned 64 (nowUs.toNat + pulseWidthUs) = .ok releaseAt) :
      Stepped checks mac board (.pulse nowUs cap)
        { board with pulser := .holding tick edgeCap actualSyncedNs releaseAt }
  /-- The end of the pulse is reached. -/
  | ended (nowUs cap : U64) (tick : U128) (edgeCap : U64) (actualSyncedNs : U128)
      (releaseAt : Nat) (holding : board.pulser = .holding tick edgeCap actualSyncedNs releaseAt)
      (reached : releaseAt ≤ nowUs.toNat) :
      Stepped checks mac board (.pulse nowUs cap)
        { board with pulser := .lowering tick edgeCap actualSyncedNs }
  /-- The output falls. -/
  | lowered (nowUs cap : U64) (tick : U128) (edgeCap : U64) (actualSyncedNs : U128)
      (lowering : board.pulser = .lowering tick edgeCap actualSyncedNs) :
      Stepped checks mac board (.pulse nowUs cap)
        { board with pulser := .loweringSelf tick edgeCap actualSyncedNs, pulseOut := false }
  /-- The output to the board itself falls. -/
  | loweredSelf (nowUs cap : U64) (tick : U128) (edgeCap : U64) (actualSyncedNs : U128)
      (lowering : board.pulser = .loweringSelf tick edgeCap actualSyncedNs) :
      Stepped checks mac board (.pulse nowUs cap)
        { board with pulser := .printing tick edgeCap actualSyncedNs, pulseOutSelf := false }
  /-- The pulse is printed. -/
  | told (nowUs cap : U64) (tick : U128) (edgeCap : U64) (actualSyncedNs : U128)
      (printing : board.pulser = .printing tick edgeCap actualSyncedNs) :
      Stepped checks mac board (.pulse nowUs cap)
        (board.printPulse mac tick edgeCap actualSyncedNs)
  /-- The reporter is not there yet. -/
  | unreported (nowUs : U64) (raw : U32) (unspawned : board.reporter = .unspawned) :
      Stepped checks mac board (.report nowUs raw) board
  /-- A channel is polled. -/
  | polled (nowUs : U64) (raw : U32) (port : Port) (edge : McpwmCap.EdgeChannel)
      (found : Option U64) (polling : board.reporter = .polling port)
      (returned : McpwmCap.poll checks board.capture.calibration nowUs (board.edges port) raw =
        .ok (edge, found)) :
      Stepped checks mac board (.report nowUs raw)
        { board with
          edges := Function.update board.edges port edge
          reporter := .afterPoll port found }
  /-- The reporter stores the rate. -/
  | storedEdge (nowUs : U64) (raw : U32) (port : Port) (capUs : U64)
      (storing : board.reporter = .storing port capUs) :
      Stepped checks mac board (.report nowUs raw)
        { board with
          client := board.client.storeExtraRate capTicksPerUsQ32
          reporter := .converting port capUs }
  /-- An edge is printed. -/
  | logged (nowUs : U64) (raw : U32) (port : Port) (capUs : U64) (syncedNs : Option U128)
      (converting : board.reporter = .converting port capUs)
      (returned : board.client.syncedNsAtExtraFiltered capUs capTicksPerUsQ32 = .ok syncedNs) :
      Stepped checks mac board (.report nowUs raw)
        { board with
          reporter := .polling port.next
          printed := board.printed ++ [.pulseRx port mac syncedNs capUs] }

/-- Every step of the pulser that returns has one of its outcomes. -/
theorem stepped_of_pulse {board after : Board channel} {nowUs cap : U64}
    (returned : board.pulse checks mac nowUs cap = .ok after) :
    board.Stepped checks mac (.pulse nowUs cap) after := by
  have waits : after = board → board.Stepped checks mac (.pulse nowUs cap) after := by
    rintro rfl
    exact .waited nowUs cap returned
  unfold pulse at returned
  cases point : board.pulser with
  | unspawned =>
    rw [point] at returned
    exact waits (Except.ok.inj returned).symm
  | converging =>
    rw [point] at returned
    dsimp only at returned
    cases answer : board.syncedNsNow nowUs with
    | none =>
      rw [answer] at returned
      exact waits (Except.ok.inj returned).symm
    | some nowNs =>
      rw [answer] at returned
      rw [← Except.ok.inj returned]
      exact .converged nowUs cap nowNs point answer
  | reading =>
    rw [point] at returned
    dsimp only at returned
    cases answer : board.syncedNsNow nowUs with
    | none =>
      rw [answer] at returned
      exact waits (Except.ok.inj returned).symm
    | some nowNs =>
      rw [answer] at returned
      obtain ⟨tick, chosen, returned⟩ := bind_eq_ok returned
      rw [← Except.ok.inj returned]
      exact .read nowUs cap nowNs tick point answer chosen
  | planning tick =>
    rw [point] at returned
    dsimp only at returned
    cases found : board.client.localUsAt tick with
    | none =>
      rw [found] at returned
      rw [← Except.ok.inj returned]
      exact .unplanned nowUs cap tick point found
    | some targetLocalUs =>
      rw [found] at returned
      rw [← Except.ok.inj returned]
      exact .planned nowUs cap tick targetLocalUs point found
  | timing tick targetLocalUs =>
    rw [point] at returned
    dsimp only at returned
    split at returned
    · rename_i early
      rw [← Except.ok.inj returned]
      split
      · exact .slept nowUs cap tick targetLocalUs point (by omega)
      · exact .spun nowUs cap tick targetLocalUs (Or.inl point)
    · rename_i reached
      rw [← Except.ok.inj returned]
      exact .due nowUs cap tick targetLocalUs (Or.inl point) (Nat.not_lt.mp reached)
  | sleeping tick targetLocalUs coarseWait =>
    rw [point] at returned
    rw [← Except.ok.inj returned]
    exact .spun nowUs cap tick targetLocalUs (Or.inr ⟨coarseWait, point⟩)
  | spinning tick targetLocalUs =>
    rw [point] at returned
    dsimp only at returned
    split at returned
    · exact waits (Except.ok.inj returned).symm
    · rename_i reached
      rw [← Except.ok.inj returned]
      exact .due nowUs cap tick targetLocalUs (Or.inr point) (Nat.not_lt.mp reached)
  | raising tick =>
    rw [point] at returned
    rw [← Except.ok.inj returned]
    exact .raised nowUs cap tick point
  | raisingSelf tick =>
    rw [point] at returned
    rw [← Except.ok.inj returned]
    exact .raisedSelf nowUs cap tick point
  | capturing tick =>
    rw [point] at returned
    rw [← Except.ok.inj returned]
    exact .captured nowUs cap tick point
  | storing tick edgeCap =>
    rw [point] at returned
    rw [← Except.ok.inj returned]
    exact .stored nowUs cap tick edgeCap point
  | converting tick edgeCap =>
    rw [point] at returned
    obtain ⟨answer, converted, returned⟩ := bind_eq_ok returned
    rw [← Except.ok.inj returned]
    exact .converted nowUs cap tick edgeCap answer point converted
  | converted tick edgeCap actualSyncedNs =>
    rw [point] at returned
    obtain ⟨releaseAt, set, returned⟩ := bind_eq_ok returned
    rw [← Except.ok.inj returned]
    exact .held nowUs cap tick edgeCap actualSyncedNs releaseAt point set
  | holding tick edgeCap actualSyncedNs releaseAt =>
    rw [point] at returned
    dsimp only at returned
    split at returned
    · exact waits (Except.ok.inj returned).symm
    · rename_i reached
      rw [← Except.ok.inj returned]
      exact .ended nowUs cap tick edgeCap actualSyncedNs releaseAt point (Nat.not_lt.mp reached)
  | lowering tick edgeCap actualSyncedNs =>
    rw [point] at returned
    rw [← Except.ok.inj returned]
    exact .lowered nowUs cap tick edgeCap actualSyncedNs point
  | loweringSelf tick edgeCap actualSyncedNs =>
    rw [point] at returned
    rw [← Except.ok.inj returned]
    exact .loweredSelf nowUs cap tick edgeCap actualSyncedNs point
  | printing tick edgeCap actualSyncedNs =>
    rw [point] at returned
    rw [← Except.ok.inj returned]
    exact .told nowUs cap tick edgeCap actualSyncedNs point

/-- Every step of the reporter that returns has one of its outcomes. -/
theorem stepped_of_report {board after : Board channel} {nowUs : U64} {raw : U32}
    (returned : board.report checks mac nowUs raw = .ok after) :
    board.Stepped checks mac (.report nowUs raw) after := by
  unfold report at returned
  cases point : board.reporter with
  | unspawned =>
    rw [point] at returned
    rw [← Except.ok.inj returned]
    exact .unreported nowUs raw point
  | polling port =>
    rw [point] at returned
    obtain ⟨⟨edge, found⟩, polled, returned⟩ := bind_eq_ok returned
    rw [← Except.ok.inj returned]
    exact .polled nowUs raw port edge found point polled
  | storing port capUs =>
    rw [point] at returned
    rw [← Except.ok.inj returned]
    exact .storedEdge nowUs raw port capUs point
  | converting port capUs =>
    rw [point] at returned
    obtain ⟨syncedNs, converted, returned⟩ := bind_eq_ok returned
    rw [← Except.ok.inj returned]
    exact .logged nowUs raw port capUs syncedNs point converted

/-- **Inversion.** Every step that returns has one of the listed outcomes. -/
theorem stepped_of_step {board after : Board channel} {action : BoardAction}
    (returned : board.step checks mac action = .ok after) :
    board.Stepped checks mac action after := by
  cases action with
  | receive packet =>
    obtain ⟨client, stepped, returned⟩ := bind_eq_ok returned
    rw [← Except.ok.inj returned]
    exact .received packet client stepped
  | poll info =>
    obtain ⟨client, stepped, returned⟩ := bind_eq_ok returned
    rw [← Except.ok.inj returned]
    exact .polledAp info client stepped
  | consume =>
    obtain ⟨client, stepped, returned⟩ := bind_eq_ok returned
    rw [← Except.ok.inj returned]
    exact .consumed client stepped
  | print line =>
    rw [← Except.ok.inj returned]
    exact .noted line
  | spawn first second =>
    simp only [step, spawn] at returned
    cases hooked : board.hooked with
    | true =>
      rw [hooked, if_pos rfl] at returned
      rw [← Except.ok.inj returned]
      exact .respawned first second hooked
    | false =>
      rw [hooked, if_neg Bool.false_ne_true] at returned
      obtain ⟨capture, calibrated, returned⟩ := bind_eq_ok returned
      rw [← Except.ok.inj returned]
      exact .spawned first second capture hooked calibrated
  | pulse nowUs cap => exact stepped_of_pulse returned
  | report nowUs raw => exact stepped_of_report returned

end Board

/-- Induction along a run of a board, one outcome at a time. -/
theorem board_induction {motive : Board channel → Prop} (start : motive (Board.boot channel))
    (step : ∀ before action after, motive before → before.Stepped checks mac action after →
      motive after)
    {actions : List BoardAction} {board : Board channel}
    (ran : (boardSystem checks mac channel).run actions = .ok board) : motive board :=
  System.run_induction (motive := fun _ board => motive board) start
    (fun _ before action after _ held stepped =>
      step before action after held (Board.stepped_of_step stepped)) ran

end Rig

end EspClockSync
