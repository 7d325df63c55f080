import EspClockSync.Verif.BoardClient
import EspClockSync.Verif.PulseTicks

/-!
# The wave on the pulse outputs

Each pulse raises the output to the other board and then the one to the board itself, and lowers
them in the same order; its line comes after that. While the system clock does not run backward
no output falls before it was high for the pulse width.
-/

namespace EspClockSync

open Machine

namespace Rig

variable {channel : Channel SnifferEvent} {checks : OverflowChecks} {mac : Mac}

/-- The two pulse outputs. -/
inductive Output where
  /-- `pulse_out`, to the other board. -/
  | pulseOut
  /-- `pulse_out_self`, to the board itself. -/
  | pulseOutSelf
  deriving DecidableEq

/-- A change of an output. -/
structure OutputEdge where
  /-- The output. -/
  output : Output
  /-- Its new level. -/
  level : Bool
  /-- The clock. -/
  nowUs : U64
  deriving DecidableEq

/-- The edge of an output with these levels before and after, if they differ. -/
def levelEdge (output : Output) (before after : Bool) (nowUs : U64) : List OutputEdge :=
  if after = before then [] else [⟨output, after, nowUs⟩]

/-- The changes of the outputs in a step. -/
def Board.outputEdges (checks : OverflowChecks) (mac : Mac) (board : Board channel) :
    BoardAction → List OutputEdge
  | .pulse nowUs cap =>
    match board.pulse checks mac nowUs cap with
    | .ok after =>
      levelEdge .pulseOut board.pulseOut after.pulseOut nowUs ++
        levelEdge .pulseOutSelf board.pulseOutSelf after.pulseOutSelf nowUs
    | .error _ => []
  | _ => []

/-- A board with every edge of its outputs. -/
def drivenBoard (checks : OverflowChecks) (mac : Mac) (channel : Channel SnifferEvent) :
    System (Board channel × List OutputEdge) BoardAction Panic :=
  (boardSystem checks mac channel).observed (Board.outputEdges checks mac)

/-- The clock at a step of the pulser. -/
def BoardAction.clockReading : BoardAction → Option Nat
  | .pulse nowUs _ => some nowUs.toNat
  | _ => none

/-- The clock at its steps in order. -/
def clockReadings (actions : List BoardAction) : List Nat :=
  actions.filterMap BoardAction.clockReading

/-- The last of these readings. -/
def lastReading (actions : List BoardAction) : Nat := (clockReadings actions).getLast?.getD 0

/-- The clock at the four edges of a pulse. -/
structure Pulse where
  /-- `pulse_out` rises. -/
  rise : U64
  /-- `pulse_out_self` rises. -/
  riseSelf : U64
  /-- `pulse_out` falls. -/
  fall : U64
  /-- `pulse_out_self` falls. -/
  fallSelf : U64

/-- The edges of a pulse. -/
def Pulse.edges (pulse : Pulse) : List OutputEdge :=
  [⟨.pulseOut, true, pulse.rise⟩, ⟨.pulseOutSelf, true, pulse.riseSelf⟩,
    ⟨.pulseOut, false, pulse.fall⟩, ⟨.pulseOutSelf, false, pulse.fallSelf⟩]

/-- Both outputs are high together for the pulse width. -/
structure Pulse.Wide (pulse : Pulse) : Prop where
  /-- The second output rises after the first. -/
  rises : pulse.rise.toNat ≤ pulse.riseSelf.toNat
  /-- Neither falls before the width is over. -/
  width : pulse.riseSelf.toNat + pulseWidthUs ≤ pulse.fall.toNat
  /-- The second falls after the first. -/
  falls : pulse.fall.toNat ≤ pulse.fallSelf.toNat

/-- The part of a pulse that is under way. -/
inductive Begun where
  /-- None is. -/
  | nothing
  /-- The first output is high. -/
  | first (rise : U64)
  /-- Both are. -/
  | both (rise riseSelf : U64)
  /-- The second still is. -/
  | second (rise riseSelf fall : U64)

/-- The edges of this part. -/
def Begun.edges : Begun → List OutputEdge
  | .nothing => []
  | .first rise => [⟨.pulseOut, true, rise⟩]
  | .both rise riseSelf => [⟨.pulseOut, true, rise⟩, ⟨.pulseOutSelf, true, riseSelf⟩]
  | .second rise riseSelf fall =>
    [⟨.pulseOut, true, rise⟩, ⟨.pulseOutSelf, true, riseSelf⟩, ⟨.pulseOut, false, fall⟩]

/-- It is the beginning of a wide pulse. -/
def Begun.Wide : Begun → Prop
  | .nothing => True
  | .first _ => True
  | .both rise riseSelf => rise.toNat ≤ riseSelf.toNat
  | .second rise riseSelf fall =>
    rise.toNat ≤ riseSelf.toNat ∧ riseSelf.toNat + pulseWidthUs ≤ fall.toNat

/-- The level of `pulse_out` after it. -/
def Begun.pulseOut : Begun → Bool
  | .first _ => true
  | .both _ _ => true
  | _ => false

/-- The level of `pulse_out_self` after it. -/
def Begun.pulseOutSelf : Begun → Bool
  | .both _ _ => true
  | .second _ _ _ => true
  | _ => false

/-- The pulses that are complete and not printed. -/
def Pulser.unprinted : Pulser → Nat
  | .printing _ _ _ => 1
  | _ => 0

/-- What the pulser knows of the pulse under way. -/
def Pulser.Since (begun : Begun) (now : Nat) : Pulser → Prop
  | .raisingSelf _ => ∃ rise, begun = .first rise ∧ rise.toNat ≤ now
  | .capturing _ => ∃ rise riseSelf, begun = .both rise riseSelf ∧ riseSelf.toNat ≤ now
  | .storing _ _ => ∃ rise riseSelf, begun = .both rise riseSelf ∧ riseSelf.toNat ≤ now
  | .converting _ _ => ∃ rise riseSelf, begun = .both rise riseSelf ∧ riseSelf.toNat ≤ now
  | .converted _ _ _ => ∃ rise riseSelf, begun = .both rise riseSelf ∧ riseSelf.toNat ≤ now
  | .holding _ _ _ releaseAt =>
    ∃ rise riseSelf, begun = .both rise riseSelf ∧ riseSelf.toNat + pulseWidthUs ≤ releaseAt
  | .lowering _ _ _ =>
    ∃ rise riseSelf, begun = .both rise riseSelf ∧ riseSelf.toNat + pulseWidthUs ≤ now
  | .loweringSelf _ _ _ =>
    ∃ rise riseSelf fall, begun = .second rise riseSelf fall ∧ fall.toNat ≤ now
  | _ => begun = .nothing

/-- The outputs have carried these pulses, and the part of one under way. -/
structure Board.Driven (board : Board channel) (edges : List OutputEdge) (now : Nat)
    (pulses : List Pulse) (begun : Begun) : Prop where
  /-- The edges are theirs. -/
  wave : edges = pulses.flatMap Pulse.edges ++ begun.edges
  /-- None is short. -/
  wide : ∀ pulse ∈ pulses, pulse.Wide
  /-- Nor will the one under way be. -/
  begins : begun.Wide
  /-- Each is printed, but for the last while that is due. -/
  printed : pulses.length = (pulsesOf board.printed).length + board.pulser.unprinted
  /-- The level of the first output. -/
  level : board.pulseOut = begun.pulseOut
  /-- The level of the second. -/
  levelSelf : board.pulseOutSelf = begun.pulseOutSelf
  /-- The pulser knows how far it is. -/
  since : board.pulser.Since begun now

/-- The edges of a step of the pulser that returned. -/
theorem outputEdges_of_pulse {before after : Board channel} {nowUs cap : U64}
    (returned : before.step checks mac (.pulse nowUs cap) = .ok after) :
    before.outputEdges checks mac (.pulse nowUs cap) =
      levelEdge .pulseOut before.pulseOut after.pulseOut nowUs ++
        levelEdge .pulseOutSelf before.pulseOutSelf after.pulseOutSelf nowUs := by
  have pulsed : before.pulse checks mac nowUs cap = .ok after := returned
  simp only [Board.outputEdges, pulsed]

/-- What changes no output and completes no pulse keeps the wave. -/
theorem Board.Driven.kept {before after : Board channel} {edges : List OutputEdge}
    {now later : Nat} {pulses : List Pulse} {begun : Begun} {action : BoardAction}
    (driven : before.Driven edges now pulses begun)
    (returned : before.step checks mac action = .ok after)
    (printed : (pulsesOf after.printed).length + after.pulser.unprinted =
      (pulsesOf before.printed).length + before.pulser.unprinted)
    (sameOut : after.pulseOut = before.pulseOut)
    (sameSelf : after.pulseOutSelf = before.pulseOutSelf)
    (since : after.pulser.Since begun later) :
    after.Driven (edges ++ before.outputEdges checks mac action) later pulses begun := by
  have quiet : before.outputEdges checks mac action = [] := by
    cases action with
    | pulse nowUs cap =>
      rw [outputEdges_of_pulse returned, levelEdge, levelEdge, if_pos sameOut, if_pos sameSelf]
      rfl
    | receive | poll | consume | print | spawn | report => rfl
  rw [quiet, List.append_nil]
  constructor
  · exact driven.wave
  · exact driven.wide
  · exact driven.begins
  · rw [printed]
    exact driven.printed
  · rw [sameOut]
    exact driven.level
  · rw [sameSelf]
    exact driven.levelSelf
  · exact since

/-- A clock that goes on keeps what the pulser knows. -/
theorem Pulser.Since.mono {begun : Begun} {now later : Nat} {pulser : Pulser}
    (since : pulser.Since begun now) (forward : now ≤ later) : pulser.Since begun later := by
  cases pulser with
  | raisingSelf =>
    obtain ⟨rise, same, order⟩ := since
    exact ⟨rise, same, order.trans forward⟩
  | capturing | storing | converting | converted | lowering =>
    obtain ⟨rise, riseSelf, same, order⟩ := since
    exact ⟨rise, riseSelf, same, order.trans forward⟩
  | loweringSelf =>
    obtain ⟨rise, riseSelf, fall, same, order⟩ := since
    exact ⟨rise, riseSelf, fall, same, order.trans forward⟩
  | holding | unspawned | converging | reading | planning | timing | sleeping | spinning | raising
    | printing => exact since

/-- **Step.** A step at a later time carries the wave on. -/
theorem Board.Driven.stepped {before after : Board channel} {edges : List OutputEdge}
    {now later : Nat} {pulses : List Pulse} {begun : Begun} {action : BoardAction}
    (driven : before.Driven edges now pulses begun)
    (unhooked : before.hooked = false → before.Unhooked)
    (returned : before.step checks mac action = .ok after) (forward : now ≤ later)
    (clock : ∀ reading, action.clockReading = some reading → later = reading)
    (early : later + pulseWidthUs < 2 ^ 64) :
    ∃ pulses begun,
      after.Driven (edges ++ before.outputEdges checks mac action) later pulses begun := by
  have since := driven.since
  have onward := since.mono forward
  cases stepped_of_step returned with
  | received | polledAp | consumed | respawned | waited | unreported | polled | storedEdge =>
    exact ⟨pulses, begun, driven.kept returned rfl rfl rfl onward⟩
  | noted line =>
    have same : pulsesOf (before.print line).printed = pulsesOf before.printed :=
      (pulsesOf_append _ _).trans (List.append_nil _)
    exact ⟨pulses, begun, driven.kept returned (by rw [same]; rfl) rfl rfl onward⟩
  | logged nowUs raw port capUs syncedNs =>
    have same : pulsesOf (before.printed ++ [.pulseRx port mac syncedNs capUs]) =
        pulsesOf before.printed := (pulsesOf_append _ _).trans (List.append_nil _)
    exact ⟨pulses, begun, driven.kept returned (by rw [same]) rfl rfl onward⟩
  | spawned first second capture absent =>
    have idle := (unhooked absent).pulser
    rw [idle] at onward
    exact ⟨pulses, begun, driven.kept returned (by rw [idle]; rfl) rfl rfl onward⟩
  | converged nowUs cap nowNs point answer =>
    have same : pulsesOf before.converge.printed = pulsesOf before.printed :=
      (pulsesOf_append _ _).trans (List.append_nil _)
    rw [point] at onward
    exact ⟨pulses, begun, driven.kept returned (by rw [same, point]; rfl) rfl rfl onward⟩
  | read nowUs cap nowNs tick point | unplanned nowUs cap tick point
    | planned nowUs cap tick targetLocalUs point | slept nowUs cap tick targetLocalUs point
    | captured nowUs cap tick point | stored nowUs cap tick edgeCap point
    | converted nowUs cap tick edgeCap answer point =>
    rw [point] at onward
    exact ⟨pulses, begun, driven.kept returned (by rw [point]; rfl) rfl rfl onward⟩
  | spun nowUs cap tick targetLocalUs waiting =>
    rcases waiting with point | ⟨coarseWait, point⟩
    · rw [point] at onward
      exact ⟨pulses, begun, driven.kept returned (by rw [point]; rfl) rfl rfl onward⟩
    · rw [point] at onward
      exact ⟨pulses, begun, driven.kept returned (by rw [point]; rfl) rfl rfl onward⟩
  | due nowUs cap tick targetLocalUs waiting =>
    rcases waiting with point | point
    · rw [point] at onward
      exact ⟨pulses, begun, driven.kept returned (by rw [point]; rfl) rfl rfl onward⟩
    · rw [point] at onward
      exact ⟨pulses, begun, driven.kept returned (by rw [point]; rfl) rfl rfl onward⟩
  | raised nowUs cap tick point =>
    have count := driven.printed
    rw [point] at since count
    obtain rfl : begun = .nothing := since
    refine ⟨pulses, .first nowUs, ?_, driven.wide, trivial, count, rfl, driven.levelSelf,
      nowUs, rfl, (clock nowUs.toNat rfl).ge⟩
    rw [outputEdges_of_pulse returned, driven.level, driven.wave]
    simp [levelEdge, Begun.edges, Begun.pulseOut]
  | raisedSelf nowUs cap tick point =>
    have count := driven.printed
    rw [point] at since count
    obtain ⟨rise, rfl, order⟩ := since
    have reading := clock nowUs.toNat rfl
    refine ⟨pulses, .both rise nowUs, ?_, driven.wide, show rise.toNat ≤ nowUs.toNat by omega,
      count, driven.level, rfl, rise, nowUs, rfl, reading.ge⟩
    rw [outputEdges_of_pulse returned, driven.levelSelf, driven.wave]
    simp [levelEdge, Begun.edges, Begun.pulseOutSelf]
  | held nowUs cap tick edgeCap actualSyncedNs releaseAt point set =>
    rw [point] at onward
    obtain ⟨rise, riseSelf, same, order⟩ := onward
    refine ⟨pulses, begun, driven.kept returned (by rw [point]; rfl) rfl rfl
      ⟨rise, riseSelf, same, ?_⟩⟩
    have reading := clock nowUs.toNat rfl
    rw [checks.unsigned_ok (by omega)] at set
    have exact_end := Except.ok.inj set
    omega
  | ended nowUs cap tick edgeCap actualSyncedNs releaseAt point reached =>
    rw [point] at since
    obtain ⟨rise, riseSelf, same, order⟩ := since
    have reading := clock nowUs.toNat rfl
    exact ⟨pulses, begun, driven.kept returned (by rw [point]; rfl) rfl rfl
      ⟨rise, riseSelf, same, by omega⟩⟩
  | lowered nowUs cap tick edgeCap actualSyncedNs point =>
    have count := driven.printed
    rw [point] at since count
    obtain ⟨rise, riseSelf, rfl, order⟩ := since
    have reading := clock nowUs.toNat rfl
    refine ⟨pulses, .second rise riseSelf nowUs, ?_, driven.wide, ⟨driven.begins, by omega⟩, count,
      rfl, driven.levelSelf, rise, riseSelf, nowUs, rfl, reading.ge⟩
    rw [outputEdges_of_pulse returned, driven.level, driven.wave]
    simp [levelEdge, Begun.edges, Begun.pulseOut]
  | loweredSelf nowUs cap tick edgeCap actualSyncedNs point =>
    have count := driven.printed
    rw [point] at since count
    obtain ⟨rise, riseSelf, fall, rfl, order⟩ := since
    obtain ⟨rises, width⟩ := driven.begins
    have reading := clock nowUs.toNat rfl
    have last : Pulse.Wide ⟨rise, riseSelf, fall, nowUs⟩ :=
      ⟨rises, width, show fall.toNat ≤ nowUs.toNat by omega⟩
    refine ⟨pulses ++ [⟨rise, riseSelf, fall, nowUs⟩], .nothing, ?_,
      List.forall_mem_append.mpr ⟨driven.wide, List.forall_mem_singleton.mpr last⟩, trivial, ?_,
      driven.level, rfl, rfl⟩
    · rw [outputEdges_of_pulse returned, driven.levelSelf, driven.wave]
      simp [levelEdge, Begun.edges, Begun.pulseOutSelf, Pulse.edges]
    · rw [List.length_append, count]
      rfl
  | told nowUs cap tick edgeCap actualSyncedNs point =>
    have one : pulsesOf (before.printPulse mac tick edgeCap actualSyncedNs).printed =
        pulsesOf before.printed ++ [(before.seq, tick)] := pulsesOf_append _ _
    rw [point] at onward
    refine ⟨pulses, begun, driven.kept returned ?_ rfl rfl onward⟩
    rw [one, point, List.length_append]
    rfl

/-- The readings with those of one more action. -/
theorem clockReadings_concat (actions : List BoardAction) (action : BoardAction) :
    clockReadings (actions ++ [action]) = clockReadings actions ++ action.clockReading.toList := by
  unfold clockReadings
  rw [List.filterMap_append]
  cases reading : action.clockReading with
  | none => simp [reading]
  | some now => simp [reading]

/-- A bound of the readings bounds the last one. -/
theorem lastReading_le {actions : List BoardAction} {bound : Nat}
    (each : ∀ now ∈ clockReadings actions, now ≤ bound) : lastReading actions ≤ bound := by
  unfold lastReading
  cases last : (clockReadings actions).getLast? with
  | none => exact Nat.zero_le bound
  | some now => exact each now (List.mem_of_getLast? last)

/-- The last reading goes on with the clock. -/
theorem lastReading_concat {actions : List BoardAction} {action : BoardAction}
    (forward : (clockReadings (actions ++ [action])).Pairwise (· ≤ ·)) :
    lastReading actions ≤ lastReading (actions ++ [action]) ∧
      ∀ now, action.clockReading = some now → lastReading (actions ++ [action]) = now := by
  rw [clockReadings_concat] at forward
  cases reading : action.clockReading with
  | none =>
    unfold lastReading
    simp [clockReadings_concat, reading]
  | some now =>
    have last : lastReading (actions ++ [action]) = now := by
      unfold lastReading
      rw [clockReadings_concat, reading, Option.toList_some, List.getLast?_concat]
      rfl
    rw [reading] at forward
    constructor
    · rw [last]
      exact lastReading_le fun earlier member =>
        (List.pairwise_append.mp forward).2.2 earlier member now (by simp)
    · intro other same
      rw [last]
      exact Option.some.inj same

/-- **The wave of a run.** While the clock at the pulser's steps does not run backward, short of
the last pulse width of its range, the outputs carry complete pulses and the beginning of one
more, after every statement of the pulser: in each the first output rises, then the second, the
first falls and then the second, and both are high together for the width. There is one
complete pulse for every line printed, and one more exactly when the pulser is at its line. -/
theorem wave_of_run {actions : List BoardAction} {board : Board channel}
    {edges : List OutputEdge}
    (ran : (drivenBoard checks mac channel).run actions = .ok (board, edges))
    (forward : (clockReadings actions).Pairwise (· ≤ ·))
    (early : ∀ now ∈ clockReadings actions, now + pulseWidthUs < 2 ^ 64) :
    ∃ (pulses : List Pulse) (begun : Begun), edges = pulses.flatMap Pulse.edges ++ begun.edges ∧
      (∀ pulse ∈ pulses, pulse.Wide) ∧ begun.Wide ∧
      pulses.length = (pulsesOf board.printed).length + board.pulser.unprinted ∧
      board.pulseOut = begun.pulseOut ∧ board.pulseOutSelf = begun.pulseOutSelf := by
  have along : (clockReadings actions).Pairwise (· ≤ ·) →
      (∀ now ∈ clockReadings actions, now + pulseWidthUs < 2 ^ 64) →
      ∃ pulses begun, board.Driven edges (lastReading actions) pulses begun := by
    refine System.run_induction (motive := fun actions state =>
      (clockReadings actions).Pairwise (· ≤ ·) →
      (∀ now ∈ clockReadings actions, now + pulseWidthUs < 2 ^ 64) →
      ∃ pulses begun, state.1.Driven state.2 (lastReading actions) pulses begun)
      (fun _ _ => ⟨[], .nothing, rfl, fun _ member => absurd member List.not_mem_nil, trivial, rfl,
        rfl, rfl, rfl⟩)
      (fun actions before action after earlier held stepped forward early => ?_) ran
    obtain ⟨taken, logged⟩ := System.observed_step_ok stepped
    have onward := lastReading_concat forward
    have width : pulseWidthUs = 1000 := rfl
    have bounded : lastReading (actions ++ [action]) ≤ 2 ^ 64 - 1 - pulseWidthUs :=
      lastReading_le fun now member => by
        have below := early now member
        omega
    rw [clockReadings_concat] at forward early
    obtain ⟨pulses, begun, driven⟩ := held (List.pairwise_append.mp forward).1
      fun now member => early now (List.mem_append_left _ member)
    rw [logged]
    exact driven.stepped (unhooked_of_run (System.run_of_observed earlier)) taken onward.1 onward.2
      (by omega)
  obtain ⟨pulses, begun, driven⟩ := along forward early
  exact ⟨pulses, begun, driven.wave, driven.wide, driven.begins, driven.printed, driven.level,
    driven.levelSelf⟩

/-- A pulse of exactly the width, and one that has fallen on the first output only. -/
theorem wave_of_run_two :
    ∃ board edges, (drivenBoard .enabled (0, 0, 0) (Channel.ofList SnifferEvent channelDepth)).run
        (synchronisedSession ++ onePulse 4002200 4092500 ++
          (onePulse 4094000 4192500).take 13) = .ok (board, edges) ∧
      edges.map (fun edge => (edge.level, edge.nowUs)) =
        [(true, 4092500), (true, 4092500), (false, 4093500), (false, 4093500), (true, 4192500),
          (true, 4192500), (false, 4193500)] ∧
      board.pulseOut = false ∧ board.pulseOutSelf = true ∧
      ∃ (pulses : List Pulse) (begun : Begun), edges = pulses.flatMap Pulse.edges ++ begun.edges ∧
        pulses.length = (pulsesOf board.printed).length + board.pulser.unprinted := by
  obtain ⟨⟨board, edges⟩, ran, seen⟩ := exists_of_map_eq_ok (show
    ((drivenBoard .enabled (0, 0, 0) (Channel.ofList SnifferEvent channelDepth)).run
      (synchronisedSession ++ onePulse 4002200 4092500 ++ (onePulse 4094000 4192500).take 13)).map
        (fun state => (state.2.map fun edge => (edge.level, edge.nowUs), state.1.pulseOut,
          state.1.pulseOutSelf)) =
      .ok ([(true, 4092500), (true, 4092500), (false, 4093500), (false, 4093500), (true, 4192500),
        (true, 4192500), (false, 4193500)], false, true) by
    decide +kernel)
  obtain ⟨levels, low, high⟩ : _ ∧ _ ∧ _ := by simpa only [Prod.mk.injEq] using seen
  obtain ⟨pulses, begun, wave, _, _, count, _⟩ :=
    wave_of_run ran (by decide +kernel) (by decide +kernel)
  exact ⟨board, edges, ran, levels, low, high, pulses, begun, wave, count⟩

end Rig

end EspClockSync
