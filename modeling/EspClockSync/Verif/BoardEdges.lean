import EspClockSync.Verif.BoardSteps
import EspClockSync.Verif.Calibration

/-!
# The edges of a board

The capture registers keep 32 bits of an edge and the reporter recovers the rest from the
system clock. Through any run of a board it prints one edge for every change of a register that
it polls, in their order; and where the unit was calibrated on a sound clock, in the first year
every one of them is the edge that the register held.
-/

namespace EspClockSync

open Machine McpwmCap

namespace Rig

variable {channel : Channel SnifferEvent} {checks : OverflowChecks} {mac : Mac}

/-- What a poll reads of its channel. -/
structure EdgeReading where
  /-- The channel. -/
  port : Port
  /-- The clock. -/
  nowUs : U64
  /-- The capture register. -/
  raw : U32
  deriving DecidableEq

/-- The poll of a step of the reporter. -/
def Board.edgeReadings (board : Board channel) : BoardAction → List EdgeReading
  | .report nowUs raw =>
    match board.reporter with
    | .polling port => [⟨port, nowUs, raw⟩]
    | _ => []
  | _ => []

/-- A board with every poll of its reporter. -/
def polledBoard (checks : OverflowChecks) (mac : Mac) (channel : Channel SnifferEvent) :
    System (Board channel × List EdgeReading) BoardAction Panic :=
  (boardSystem checks mac channel).observed Board.edgeReadings

/-- What the registers held after these readings. -/
def lastRaws (last : Port → U32) (readings : List EdgeReading) : Port → U32 :=
  readings.foldl (fun last reading => Function.update last reading.port reading.raw) last

/-- The readings of a register that has changed since the one before. -/
def changes (last : Port → U32) : List EdgeReading → List EdgeReading
  | [] => []
  | reading :: rest =>
    (if reading.raw = last reading.port then [] else [reading]) ++
      changes (Function.update last reading.port reading.raw) rest

/-- One more reading is one more change, or none. -/
theorem changes_concat (last : Port → U32) (readings : List EdgeReading) (reading : EdgeReading) :
    changes last (readings ++ [reading]) = changes last readings ++
      if reading.raw = lastRaws last readings reading.port then [] else [reading] := by
  induction readings generalizing last with
  | nil => exact List.append_nil _
  | cons first rest ih =>
    rw [List.cons_append, changes, ih, changes, List.append_assoc]
    rfl

/-- The channel and the edge of a line. -/
def FirmwareLine.edge : FirmwareLine → Option (Port × U64)
  | .pulseRx port _ _ capUs => some (port, capUs)
  | _ => none

/-- The edge that the reporter has found and not printed yet. -/
def Reporter.edge : Reporter → Option (Port × U64)
  | .storing port capUs => some (port, capUs)
  | .converting port capUs => some (port, capUs)
  | _ => none

/-- The edges that a board has printed, and then the one it is about to print. -/
def Board.foundEdges (board : Board channel) : List (Port × U64) :=
  board.printed.filterMap FirmwareLine.edge ++ board.reporter.edge.toList

/-- The readings of `init` are sound: within a microsecond of a clock with this phase. -/
def Calibrates (phase : ℚ) (first second : ClockReading) : Prop :=
  first.instantUs.toNat ≤ yearUs ∧
    ∃ timer0 timer1, Sampled phase 80 0 first second timer0 timer1

/-- So are those of every spawning in a run. -/
def SoundlySpawned (phase : ℚ) (actions : List BoardAction) : Prop :=
  ∀ first second, .spawn first second ∈ actions → Calibrates phase first second

/-- An edge found by a poll is one of its channel; and after a sound calibration, in the first
year, it is the one that the register held, if it was latched in the five seconds before. -/
def Recovered (sound : Prop) (phase : ℚ) (edge : Port × U64) (reading : EdgeReading) : Prop :=
  edge.1 = reading.port ∧
    (sound → ∀ timer : U64, rawOf timer = reading.raw → reading.nowUs.toNat ≤ yearUs →
      ReadsAt 80 phase (5 * 80000000) (timer.toNat : ℚ) reading.nowUs.toNat → edge.2 = timer)

/-- The capture unit is calibrated before the first poll. -/
structure Board.Calibrated (sound : Prop) (phase : ℚ) (board : Board channel) : Prop where
  /-- Until then no capture was taken. -/
  before : board.hooked = false → board.capture.packed = 0 ∧ board.reporter = .unspawned
  /-- From then on the cells hold what `init` measured on a sound clock. -/
  measured : sound → board.hooked = true → ∃ first second timer0 timer1,
    Sampled phase 80 0 first second timer0 timer1 ∧ first.instantUs.toNat ≤ yearUs ∧
      board.capture.calibration.MeasuredBetween first second timer0 timer1

/-- Every step keeps that. -/
theorem Board.Calibrated.stepped {sound : Prop} {phase : ℚ} {before after : Board channel}
    {action : BoardAction} (held : before.Calibrated sound phase)
    (clock : sound → ∀ first second, action = .spawn first second → Calibrates phase first second)
    (stepped : before.Stepped checks mac action after) : after.Calibrated sound phase := by
  have spawned : before.reporter ≠ .unspawned → before.hooked = true := by
    intro running
    cases hooked : before.hooked with
    | true => rfl
    | false => exact absurd (held.before hooked).2 running
  cases stepped with
  | spawned first second capture unhooked returned =>
    refine ⟨fun off => Bool.noConfusion off, fun ticking _ => ?_⟩
    obtain ⟨anchored, timer0, timer1, sampled⟩ := clock ticking first second rfl
    obtain ⟨cells, initialised, _, measured, _⟩ := init_eq checks sampled
    rw [(held.before unhooked).1, initialised] at returned
    have same := Except.ok.inj returned
    exact ⟨first, second, timer0, timer1, sampled, anchored, same ▸ measured⟩
  | polled nowUs raw port edge found polling =>
    have hooked := spawned (by rw [polling]; exact Reporter.noConfusion)
    exact ⟨fun off => Bool.noConfusion (hooked.symm.trans off), held.measured⟩
  | storedEdge nowUs raw port capUs storing =>
    have hooked := spawned (by rw [storing]; exact Reporter.noConfusion)
    exact ⟨fun off => Bool.noConfusion (hooked.symm.trans off), held.measured⟩
  | logged nowUs raw port capUs syncedNs converting =>
    have hooked := spawned (by rw [converting]; exact Reporter.noConfusion)
    exact ⟨fun off => Bool.noConfusion (hooked.symm.trans off), held.measured⟩
  | _ => exact ⟨held.before, held.measured⟩

/-- What a step does to the registers seen and to the edges found. -/
inductive Board.Found (sound : Prop) (phase : ℚ) (before after : Board channel)
    (action : BoardAction) : Prop where
  /-- Nothing is polled. -/
  | kept (nothing : before.edgeReadings action = []) (sameEdges : after.edges = before.edges)
      (same : after.foundEdges = before.foundEdges) : Found sound phase before after action
  /-- A channel is polled, and a change of its register is one edge more. -/
  | polled (reading : EdgeReading) (taken : before.edgeReadings action = [reading])
      (seen : (fun port => rawOf (after.edges port).lastRaw) =
        Function.update (fun port => rawOf (before.edges port).lastRaw) reading.port reading.raw)
      (edges : List (Port × U64)) (more : after.foundEdges = before.foundEdges ++ edges)
      (recovered : List.Forall₂ (Recovered sound phase) edges
        (if reading.raw = rawOf (before.edges reading.port).lastRaw then [] else [reading])) :
      Found sound phase before after action

/-- The last readings with one of them replaced. -/
theorem lastRaws_update (edges : Port → EdgeChannel) (port : Port) (edge : EdgeChannel) :
    (fun other => rawOf (Function.update edges port edge other).lastRaw) =
      Function.update (fun other => rawOf (edges other).lastRaw) port (rawOf edge.lastRaw) := by
  funext other
  by_cases same : other = port
  · subst same
    rw [Function.update_self, Function.update_self]
  · rw [Function.update_of_ne same, Function.update_of_ne same]

/-- A poll keeps the registers seen and finds the edge of a change. -/
theorem Board.Calibrated.found_of_poll {sound : Prop} {phase : ℚ} {before : Board channel}
    (calibrated : before.Calibrated sound phase) {nowUs : U64} {raw : U32} {port : Port}
    {edge : EdgeChannel} {found : Option U64} (polling : before.reporter = .polling port)
    (returned : poll checks before.capture.calibration nowUs (before.edges port) raw =
      .ok (edge, found)) :
    Board.Found sound phase before
      { before with
        edges := Function.update before.edges port edge
        reporter := .afterPoll port found } (.report nowUs raw) := by
  have taken : before.edgeReadings (.report nowUs raw) = [⟨port, nowUs, raw⟩] := by
    simp only [edgeReadings, polling]
  rcases poll_eq returned with ⟨same, rfl, rfl⟩ | ⟨differs, capUs, rfl, unwrapped, rfl⟩
  · refine .polled ⟨port, nowUs, raw⟩ taken ?_ [] ?_ ?_
    · rw [lastRaws_update, same]
    · simp [foundEdges, polling, Reporter.edge, Reporter.afterPoll]
    · rw [if_pos same]
      exact .nil
  · refine .polled ⟨port, nowUs, raw⟩ taken ?_ [(port, capUs)] ?_ ?_
    · rw [lastRaws_update, rawOf, BitVec.setWidth_setWidth_of_le raw (by decide),
        BitVec.setWidth_eq]
    · simp [foundEdges, polling, Reporter.edge, Reporter.afterPoll]
    · rw [if_neg differs]
      refine .cons ⟨rfl, ?_⟩ .nil
      rintro ticking timer rfl early reads
      have hooked : before.hooked = true := by
        cases hooked : before.hooked with
        | true => rfl
        | false =>
          have idle := (calibrated.before hooked).2
          rw [polling] at idle
          contradiction
      obtain ⟨first, second, timer0, timer1, sampled, anchored, measured⟩ :=
        calibrated.measured ticking hooked
      rw [sampled.unwrapCapRaw_eq checks le_rfl measured anchored early reads] at unwrapped
      exact (Except.ok.inj unwrapped).symm

/-- Every outcome of a step is one of these. -/
theorem Board.Stepped.found {sound : Prop} {phase : ℚ} {before after : Board channel}
    {action : BoardAction} (calibrated : before.Calibrated sound phase)
    (stepped : before.Stepped checks mac action after) :
    Board.Found sound phase before after action := by
  cases stepped with
  | spawned first second capture unhooked returned =>
    refine .kept rfl rfl ?_
    simp [Board.foundEdges, (calibrated.before unhooked).2, Reporter.edge]
  | noted => exact .kept rfl rfl (by simp [Board.foundEdges, Board.print, FirmwareLine.edge])
  | converged => exact .kept rfl rfl (by simp [Board.foundEdges, Board.converge, FirmwareLine.edge])
  | told => exact .kept rfl rfl (by simp [Board.foundEdges, Board.printPulse, FirmwareLine.edge])
  | unreported nowUs raw unspawned =>
    exact .kept (by simp only [edgeReadings, unspawned]) rfl rfl
  | storedEdge nowUs raw port capUs storing =>
    exact .kept (by simp only [edgeReadings, storing]) rfl
      (by simp [Board.foundEdges, storing, Reporter.edge])
  | logged nowUs raw port capUs syncedNs converting =>
    exact .kept (by simp only [edgeReadings, converting]) rfl
      (by simp [Board.foundEdges, converting, Reporter.edge, FirmwareLine.edge])
  | polled nowUs raw port edge found polling returned =>
    exact calibrated.found_of_poll polling returned
  | _ => exact .kept rfl rfl rfl

/-- The registers as last polled, and one edge found for every change. -/
structure Board.Edged (sound : Prop) (phase : ℚ) (board : Board channel)
    (readings : List EdgeReading) : Prop where
  /-- The cells hold the last reading of each channel. -/
  last : (fun port => rawOf (board.edges port).lastRaw) = lastRaws (fun _ => 0) readings
  /-- The edges are those of the changes. -/
  found : List.Forall₂ (Recovered sound phase) board.foundEdges (changes (fun _ => 0) readings)

/-- Every step keeps that. -/
theorem Board.Edged.stepped {sound : Prop} {phase : ℚ} {before after : Board channel}
    {action : BoardAction} {readings : List EdgeReading} (edged : before.Edged sound phase readings)
    (found : Board.Found sound phase before after action) :
    after.Edged sound phase (readings ++ before.edgeReadings action) := by
  cases found with
  | kept nothing sameEdges same =>
    rw [nothing, List.append_nil]
    constructor
    · rw [sameEdges]
      exact edged.last
    · rw [same]
      exact edged.found
  | polled reading taken seen edges more recovered =>
    rw [taken]
    constructor
    · rw [seen, edged.last, lastRaws, lastRaws, List.foldl_append, List.foldl_cons, List.foldl_nil]
    · rw [show rawOf (before.edges reading.port).lastRaw = lastRaws (fun _ => 0) readings reading.port
        from congrFun edged.last reading.port] at recovered
      rw [more, changes_concat]
      exact List.rel_append edged.found recovered

/-- **The edges of a run.** A board prints one edge for every poll that finds its register
changed, under its channel and in the order of the polls, the last one when the reporter is done
with it. Where the capture unit is calibrated on a sound clock, the edge of a poll in the first
year is the timer that the register held, if it was latched in the five seconds before. -/
theorem edges_of_run (phase : ℚ) {actions : List BoardAction} {board : Board channel}
    {readings : List EdgeReading}
    (ran : (polledBoard checks mac channel).run actions = .ok (board, readings)) :
    List.Forall₂ (Recovered (SoundlySpawned phase actions) phase)
      (board.printed.filterMap FirmwareLine.edge ++ board.reporter.edge.toList)
      (changes (fun _ => 0) readings) := by
  -- Whether every spawning is sound is fixed for the whole run, before the induction along it.
  have along : ∀ sound : Prop, (sound → SoundlySpawned phase actions) →
      board.Calibrated sound phase ∧ board.Edged sound phase readings := by
    intro sound
    refine System.run_induction (motive := fun actions state =>
      (sound → SoundlySpawned phase actions) →
        state.1.Calibrated sound phase ∧ state.1.Edged sound phase state.2)
      (fun _ => ?_) (fun actions before action after _ held returned each => ?_) ran
    · exact ⟨⟨fun _ => ⟨rfl, rfl⟩, fun _ on => Bool.noConfusion on⟩, ⟨rfl, .nil⟩⟩
    · obtain ⟨taken, logged⟩ := System.observed_step_ok returned
      have stepped := Board.stepped_of_step taken
      obtain ⟨calibrated, edged⟩ := held fun ticking first second member =>
        each ticking first second (List.mem_append_left _ member)
      rw [logged]
      exact ⟨calibrated.stepped (fun ticking first second same =>
          each ticking first second (by simp [same])) stepped,
        edged.stepped (stepped.found calibrated)⟩
  exact (along _ id).2.found

/-- A calibrated board that finds one edge, a minute after its boot, and polls on. -/
def oneEdge : List BoardAction :=
  [.spawn ⟨5, 2000, none⟩ ⟨320000005, 4002000, none⟩, .report 60002100 505032709,
    .report 60002100 0, .report 60002101 0, .report 60002102 0, .report 60002103 505032709]

/-- Its register was latched 100 µs before the first poll, after a wrap, and is polled again. -/
theorem edges_of_run_one :
    ∃ board readings, (polledBoard .enabled (0, 0, 0)
        (Channel.ofList SnifferEvent channelDepth)).run oneEdge = .ok (board, readings) ∧
      readings.length = 3 ∧ board.printed.filterMap FirmwareLine.edge = [(.d5, 4800000005)] ∧
      SoundlySpawned 159995 oneEdge ∧
      List.Forall₂ (Recovered (SoundlySpawned 159995 oneEdge) 159995)
        (board.printed.filterMap FirmwareLine.edge ++ board.reporter.edge.toList)
        (changes (fun _ => 0) readings) := by
  obtain ⟨⟨board, readings⟩, ran, seen⟩ := exists_of_map_eq_ok (show
    ((polledBoard .enabled (0, 0, 0) (Channel.ofList SnifferEvent channelDepth)).run oneEdge).map
        (fun state => (state.2.length, state.1.printed.filterMap FirmwareLine.edge)) =
      .ok (3, [(.d5, 4800000005)]) by decide +kernel)
  obtain ⟨count, printed⟩ := Prod.mk.inj seen
  refine ⟨board, readings, ran, count, printed, fun first second member => ?_,
    edges_of_run 159995 ran⟩
  have spawned : first = ⟨5, 2000, none⟩ ∧ second = ⟨320000005, 4002000, none⟩ := by
    simpa [oneEdge] using member
  obtain ⟨rfl, rfl⟩ := spawned
  exact ⟨by decide, 5, 320000005, sampled_boot none⟩

end Rig

end EspClockSync
