import EspClockSync.Verif.BoardSteps

/-!
# The ticks of the pulser

A tick is chosen as the first multiple of the period that leaves the scheduler its slack. The
pulses that a board prints are numbered from zero without a gap, each at a multiple of the
period; they advance by one period each exactly as far as the readings of the clock between
them do.
-/

namespace EspClockSync

open Machine

variable {channel : Channel SnifferEvent} {checks : OverflowChecks}

/-! ## One tick -/

/-- An answer of the estimator is a nonnegative `i128`. -/
theorem Estimator.syncedNsAt_lt {est : Estimator} {localUs : U64} {serverNs : U128}
    (answer : est.syncedNsAt localUs = some serverNs) : serverNs.toNat < 2 ^ 127 := by
  unfold syncedNsAt at answer
  split at answer
  · contradiction
  · dsimp only at answer
    split at answer
    · contradiction
    · rename_i nonnegative
      have fits := saturateI128_fits (est.offsetNs + saturateI128 ((localUs.toNat : Int) * 1000))
      unfold I128Fits at fits
      rw [← Option.some.inj answer, BitVec.toNat_ofInt]
      omega

/-- So is an answer of the clock. -/
theorem Client.syncedNsAt_lt {client : Client channel} {instantUs : U64} {serverNs : U128}
    (answer : client.syncedNsAt instantUs = some serverNs) : serverNs.toNat < 2 ^ 127 := by
  obtain ⟨apTsfUs, _, answer⟩ := Option.bind_eq_some_iff.mp answer
  exact Estimator.syncedNsAt_lt answer

namespace Rig

/-- **The choice of a tick.** From every answer of the clock the tick is the first multiple of
the period at least the slack ahead, and nothing overflows. -/
theorem nextTick_spec (checks : OverflowChecks) {nowNs : U128} (range : nowNs.toNat < 2 ^ 127) :
    ∃ tick, nextTick checks nowNs = .ok tick ∧ pulsePeriodNs ∣ tick.toNat ∧
      nowNs.toNat + slackNs ≤ tick.toNat ∧
      tick.toNat < nowNs.toNat + slackNs + pulsePeriodNs := by
  have period : pulsePeriodNs = 100000000 := rfl
  have slack : slackNs = 5000000 := rfl
  have split := Nat.div_add_mod nowNs.toNat pulsePeriodNs
  have part := Nat.mod_lt nowNs.toNat (show 0 < pulsePeriodNs by decide)
  set whole := nowNs.toNat / pulsePeriodNs
  have aligned : (whole + 1) * pulsePeriodNs < 2 ^ 128 := by
    rw [period] at split part ⊢
    omega
  have order : nowNs.toNat ≤ (whole + 1) * pulsePeriodNs := by
    rw [period] at split part ⊢
    omega
  unfold nextTick
  rw [checks.unsigned_ok aligned, ok_bind, checks.unsignedSub_ok order, ok_bind]
  by_cases near : (whole + 1) * pulsePeriodNs - nowNs.toNat < slackNs
  · have later : (whole + 1) * pulsePeriodNs + pulsePeriodNs < 2 ^ 128 := by
      rw [period] at split part ⊢
      omega
    have twice : (whole + 1) * pulsePeriodNs + pulsePeriodNs = (whole + 2) * pulsePeriodNs := by
      ring
    rw [if_pos near, checks.unsigned_ok later, ok_bind]
    refine ⟨_, rfl, ?_, ?_, ?_⟩
    · rw [BitVec.toNat_ofNat, Nat.mod_eq_of_lt later, twice]
      exact Nat.dvd_mul_left _ _
    · rw [BitVec.toNat_ofNat, Nat.mod_eq_of_lt later]
      omega
    · rw [BitVec.toNat_ofNat, Nat.mod_eq_of_lt later]
      omega
  · rw [if_neg near, ok_bind]
    refine ⟨_, rfl, ?_, ?_, ?_⟩
    · rw [BitVec.toNat_ofNat, Nat.mod_eq_of_lt aligned]
      exact Nat.dvd_mul_left _ _
    · rw [BitVec.toNat_ofNat, Nat.mod_eq_of_lt aligned]
      omega
    · rw [BitVec.toNat_ofNat, Nat.mod_eq_of_lt aligned]
      rw [period] at split part ⊢
      omega

/-- A tick of the pulser. -/
def IsTick (tick : U128) : Prop := 0 < tick.toNat ∧ pulsePeriodNs ∣ tick.toNat

/-- What the clock answers leads to a tick. -/
theorem isTick_of_nextTick {nowNs tick : U128} (range : nowNs.toNat < 2 ^ 127)
    (chosen : nextTick checks nowNs = .ok tick) : IsTick tick := by
  obtain ⟨spec, same, aligned, ahead, _⟩ := nextTick_spec checks range
  obtain rfl := Except.ok.inj (same.symm.trans chosen)
  have slack : 0 < slackNs := by decide
  exact ⟨by omega, aligned⟩

/-- A later tick is chosen exactly from a reading short of the slack before the last one. -/
theorem lt_nextTick_iff {nowNs last tick : U128} (range : nowNs.toNat < 2 ^ 127)
    (aligned : IsTick last) (chosen : nextTick checks nowNs = .ok tick) :
    last.toNat < tick.toNat ↔ last.toNat < nowNs.toNat + slackNs := by
  obtain ⟨spec, same, dvd, ahead, near⟩ := nextTick_spec checks range
  obtain rfl := Except.ok.inj (same.symm.trans chosen)
  constructor
  · intro later
    have gap := Nat.le_of_dvd (by omega) (Nat.dvd_sub dvd aligned.2)
    omega
  · intro soon
    omega

/-- The tick after the last one is chosen exactly from the readings of one period. -/
theorem nextTick_eq_succ_iff {nowNs last tick : U128} (range : nowNs.toNat < 2 ^ 127)
    (aligned : IsTick last) (chosen : nextTick checks nowNs = .ok tick) :
    tick.toNat = last.toNat + pulsePeriodNs ↔
      last.toNat < nowNs.toNat + slackNs ∧
        nowNs.toNat + slackNs ≤ last.toNat + pulsePeriodNs := by
  obtain ⟨spec, same, dvd, ahead, near⟩ := nextTick_spec checks range
  obtain rfl := Except.ok.inj (same.symm.trans chosen)
  have period : 0 < pulsePeriodNs := by decide
  constructor
  · intro next
    exact ⟨by omega, by omega⟩
  · rintro ⟨soon, early⟩
    have gap := Nat.le_of_dvd (by omega) (Nat.dvd_sub dvd aligned.2)
    by_contra differs
    have excess := Nat.le_of_dvd (by omega)
      (Nat.dvd_sub dvd (Nat.dvd_add aligned.2 (Nat.dvd_refl pulsePeriodNs)))
    omega

/-! ## The pulses printed -/

/-- The number and the tick of a printed pulse. -/
def FirmwareLine.pulse : FirmwareLine → Option (U32 × U128)
  | .pulseTx _ seq _ targetNs _ => some (seq, targetNs)
  | _ => none

/-- The pulses among these lines, in order. -/
def pulsesOf (lines : List FirmwareLine) : List (U32 × U128) :=
  lines.filterMap FirmwareLine.pulse

@[simp] theorem pulsesOf_append (lines more : List FirmwareLine) :
    pulsesOf (lines ++ more) = pulsesOf lines ++ pulsesOf more := List.filterMap_append

/-- The tick that the pulser is about. -/
def Pulser.tick : Pulser → Option U128
  | .planning tick => some tick
  | .timing tick _ => some tick
  | .sleeping tick _ _ => some tick
  | .spinning tick _ => some tick
  | .raising tick => some tick
  | .raisingSelf tick => some tick
  | .capturing tick => some tick
  | .storing tick _ => some tick
  | .converting tick _ => some tick
  | .converted tick _ _ => some tick
  | .holding tick _ _ _ => some tick
  | .lowering tick _ _ => some tick
  | .loweringSelf tick _ _ => some tick
  | .printing tick _ _ => some tick
  | _ => none

variable {mac : Mac}

/-- What a step does to the tick in hand and to the printed pulses. -/
inductive Board.Ticked (checks : OverflowChecks) (before after : Board channel) :
    BoardAction → Prop where
  /-- The pulser stays with its tick, or gives it up. -/
  | kept (action : BoardAction) (samePulses : pulsesOf after.printed = pulsesOf before.printed)
      (sameSeq : after.seq = before.seq)
      (tick : after.pulser.tick = before.pulser.tick ∨ after.pulser.tick = none) :
      Ticked checks before after action
  /-- The pulser chooses a tick. -/
  | chose (nowUs cap : U64) (nowNs tick : U128)
      (samePulses : pulsesOf after.printed = pulsesOf before.printed)
      (sameSeq : after.seq = before.seq) (reading : before.pulser = .reading)
      (answer : before.syncedNsNow nowUs = some nowNs)
      (chosen : nextTick checks nowNs = .ok tick) (inHand : after.pulser.tick = some tick) :
      Ticked checks before after (.pulse nowUs cap)
  /-- The pulser prints a pulse at its tick. -/
  | printed (action : BoardAction) (tick : U128) (inHand : before.pulser.tick = some tick)
      (onePulse : pulsesOf after.printed = pulsesOf before.printed ++ [(before.seq, tick)])
      (nextSeq : after.seq = before.seq + 1) (done : after.pulser.tick = none) :
      Ticked checks before after action

/-- Every outcome of a step is one of these. -/
theorem Board.Stepped.ticked {before after : Board channel} {action : BoardAction}
    (stepped : before.Stepped checks mac action after) :
    Board.Ticked checks before after action := by
  cases stepped with
  | received | polledAp | consumed | respawned | waited | unreported | polled | storedEdge =>
    exact .kept _ rfl rfl (Or.inl rfl)
  | spawned | unplanned => exact .kept _ rfl rfl (Or.inr rfl)
  | noted line => exact .kept _ ((pulsesOf_append _ _).trans (List.append_nil _)) rfl (Or.inl rfl)
  | converged nowUs cap nowNs converging answer =>
    exact .kept _ ((pulsesOf_append _ _).trans (List.append_nil _)) rfl (Or.inr rfl)
  | read nowUs cap nowNs tick reading answer chosen =>
    exact .chose nowUs cap nowNs tick rfl rfl reading answer chosen rfl
  | planned nowUs cap tick targetLocalUs point | slept nowUs cap tick targetLocalUs point
    | raised nowUs cap tick point | raisedSelf nowUs cap tick point
    | captured nowUs cap tick point | stored nowUs cap tick edgeCap point
    | converted nowUs cap tick edgeCap answer point
    | held nowUs cap tick edgeCap actualSyncedNs releaseAt point
    | ended nowUs cap tick edgeCap actualSyncedNs releaseAt point
    | lowered nowUs cap tick edgeCap actualSyncedNs point
    | loweredSelf nowUs cap tick edgeCap actualSyncedNs point =>
    refine .kept _ rfl rfl (Or.inl ?_)
    rw [point]
    rfl
  | spun nowUs cap tick targetLocalUs waiting =>
    refine .kept _ rfl rfl (Or.inl ?_)
    rcases waiting with point | ⟨coarseWait, point⟩
    · rw [point]
      rfl
    · rw [point]
      rfl
  | due nowUs cap tick targetLocalUs waiting =>
    refine .kept _ rfl rfl (Or.inl ?_)
    rcases waiting with point | point
    · rw [point]
      rfl
    · rw [point]
      rfl
  | told nowUs cap tick edgeCap actualSyncedNs printing =>
    exact .printed _ tick (by rw [printing]; rfl) (pulsesOf_append _ _) rfl rfl
  | logged nowUs raw port capUs syncedNs =>
    exact .kept _ ((pulsesOf_append _ _).trans (List.append_nil _)) rfl (Or.inl rfl)

/-- The numbers are the first ones, and `seq` is the next. -/
structure Board.Numbered (board : Board channel) : Prop where
  /-- The pulses are numbered in order. -/
  numbers : (pulsesOf board.printed).map Prod.fst =
    (List.range (pulsesOf board.printed).length).map (BitVec.ofNat 32)
  /-- The next number is their count. -/
  next : board.seq = BitVec.ofNat 32 (pulsesOf board.printed).length
  /-- All are at ticks. -/
  aligned : ∀ pulse ∈ pulsesOf board.printed, IsTick pulse.2
  /-- The pulser is about a tick. -/
  tick : ∀ tick ∈ board.pulser.tick, IsTick tick

/-- Every step keeps the count. -/
theorem Board.Numbered.stepped {before after : Board channel} {action : BoardAction}
    (numbered : before.Numbered) (stepped : before.Stepped checks mac action after) :
    after.Numbered := by
  cases stepped.ticked with
  | kept _ samePulses sameSeq tick =>
    refine ⟨?_, ?_, ?_, fun other member => ?_⟩
    · rw [samePulses]
      exact numbered.numbers
    · rw [sameSeq, samePulses]
      exact numbered.next
    · rw [samePulses]
      exact numbered.aligned
    · rcases tick with same | dropped
      · exact numbered.tick other (same ▸ member)
      · rw [dropped] at member
        contradiction
  | chose nowUs cap nowNs tick samePulses sameSeq reading answer chosen inHand =>
    refine ⟨?_, ?_, ?_, fun other member => ?_⟩
    · rw [samePulses]
      exact numbered.numbers
    · rw [sameSeq, samePulses]
      exact numbered.next
    · rw [samePulses]
      exact numbered.aligned
    · rw [inHand] at member
      obtain rfl := Option.mem_some.mp member
      exact isTick_of_nextTick (Client.syncedNsAt_lt answer) chosen
  | printed _ tick inHand onePulse nextSeq done =>
    refine ⟨?_, ?_, ?_, fun other member => ?_⟩
    · rw [onePulse, List.map_append, numbered.numbers, List.length_append, List.length_singleton,
        List.range_succ, List.map_append, List.map_singleton, List.map_singleton, numbered.next]
    · rw [onePulse, nextSeq, List.length_append, List.length_singleton, BitVec.ofNat_add]
      exact congrArg (· + 1) numbered.next
    · rw [onePulse]
      intro pulse member
      rcases List.mem_append.mp member with earlier | now
      · exact numbered.aligned pulse earlier
      · rw [List.mem_singleton.mp now]
        exact numbered.tick tick inHand
    · rw [done] at member
      contradiction

/-- Every board reached has numbered its pulses. -/
theorem numbered_of_run {actions : List BoardAction} {board : Board channel}
    (ran : (boardSystem checks mac channel).run actions = .ok board) : board.Numbered :=
  board_induction
    ⟨rfl, rfl, fun _ member => absurd member List.not_mem_nil, fun _ member => by contradiction⟩
    (fun _ _ _ numbered stepped => numbered.stepped stepped) ran

/-! ## From pulse to pulse -/

/-- The reading of the clock from which this step chooses a tick, after the last tick printed. -/
def Board.tickReadings (board : Board channel) : BoardAction → List (Option U128 × U128)
  | .pulse nowUs _ =>
    match board.pulser with
    | .reading =>
      match board.syncedNsNow nowUs with
      | some nowNs => [((pulsesOf board.printed).getLast?.map Prod.snd, nowNs)]
      | none => []
    | _ => []
  | _ => []

/-- A board with every reading from which it chose a tick. -/
def readBoard (checks : OverflowChecks) (mac : Mac) (channel : Channel SnifferEvent) :
    System (Board channel × List (Option U128 × U128)) BoardAction Panic :=
  (boardSystem checks mac channel).observed Board.tickReadings

/-- The printed ticks, and the one the pulser is about, stand in this relation. -/
structure Board.Following (follows : U128 → U128 → Prop) (board : Board channel) : Prop where
  /-- Every printed tick follows the one before it. -/
  chain : (pulsesOf board.printed).IsChain fun earlier later => follows earlier.2 later.2
  /-- The next one will follow the last. -/
  next : ∀ tick ∈ board.pulser.tick, ∀ last ∈ (pulsesOf board.printed).getLast?,
    follows last.2 tick

/-- Every step keeps the chain while the ticks chosen follow the last one. -/
theorem Board.Following.stepped {follows : U128 → U128 → Prop} {before after : Board channel}
    {action : BoardAction} (following : before.Following follows)
    (chosenFollow : ∀ nowNs tick, nextTick checks nowNs = .ok tick → nowNs.toNat < 2 ^ 127 →
      ((pulsesOf before.printed).getLast?.map Prod.snd, nowNs) ∈ before.tickReadings action →
      ∀ last ∈ (pulsesOf before.printed).getLast?, follows last.2 tick)
    (stepped : before.Stepped checks mac action after) : after.Following follows := by
  cases stepped.ticked with
  | kept _ samePulses sameSeq tick =>
    constructor
    · rw [samePulses]
      exact following.chain
    · rw [samePulses]
      intro other member
      rcases tick with same | dropped
      · exact following.next other (same ▸ member)
      · rw [dropped] at member
        contradiction
  | chose nowUs cap nowNs tick samePulses sameSeq reading answer chosen inHand =>
    constructor
    · rw [samePulses]
      exact following.chain
    · rw [samePulses, inHand]
      intro other member
      obtain rfl := Option.mem_some.mp member
      refine chosenFollow nowNs _ chosen (Client.syncedNsAt_lt answer) ?_
      simp only [tickReadings, reading, answer, List.mem_singleton]
  | printed _ tick inHand onePulse nextSeq done =>
    constructor
    · rw [onePulse]
      refine following.chain.append (.singleton _) fun last isLast first isFirst => ?_
      obtain rfl := Option.some.inj isFirst
      exact following.next tick inHand last isLast
    · rw [done]
      intro other member
      contradiction

/-- The ticks of a run follow one another as far as their readings follow the last tick. -/
theorem following_of_run {holds follows : U128 → U128 → Prop}
    (follow : ∀ last nowNs tick, IsTick last → nowNs.toNat < 2 ^ 127 →
      nextTick checks nowNs = .ok tick → holds last nowNs → follows last tick)
    {actions : List BoardAction} {board : Board channel} {readings : List (Option U128 × U128)}
    (ran : (readBoard checks mac channel).run actions = .ok (board, readings))
    (each : ∀ reading ∈ readings, ∀ last ∈ reading.1, holds last reading.2) :
    board.Following follows := by
  have along : (∀ reading ∈ readings, ∀ last ∈ reading.1, holds last reading.2) →
      board.Following follows := by
    refine System.run_induction (motive := fun _ state =>
      (∀ reading ∈ state.2, ∀ last ∈ reading.1, holds last reading.2) →
        state.1.Following follows)
      (fun _ => ⟨.nil, fun _ member => by contradiction⟩)
      (fun actions before action after earlier held stepped each => ?_) ran
    obtain ⟨taken, logged⟩ := System.observed_step_ok stepped
    rw [logged] at each
    have numbered := numbered_of_run (System.run_of_observed earlier)
    refine (held fun reading member => each reading (List.mem_append_left _ member)).stepped
      (fun nowNs tick chosen range member last isLast => ?_) (Board.stepped_of_step taken)
    apply follow last.2 nowNs tick (numbered.aligned last (List.mem_of_getLast? isLast)) range
      chosen
    apply each _ (List.mem_append_right _ member)
    exact Option.mem_map_of_mem Prod.snd isLast
  exact along each

/-- The clock reads past the last tick, less the slack. -/
def Onward (last nowNs : U128) : Prop := last.toNat < nowNs.toNat + slackNs

/-- It reads no more than a period past that. -/
def OnTime (last nowNs : U128) : Prop :=
  last.toNat < nowNs.toNat + slackNs ∧ nowNs.toNat + slackNs ≤ last.toNat + pulsePeriodNs

instance (last nowNs : U128) : Decidable (OnTime last nowNs) := inferInstanceAs (Decidable (_ ∧ _))

/-- A chain of steps of one period counts from its first tick. -/
theorem tick_eq_of_chain {pulses : List (U32 × U128)}
    (chain : pulses.IsChain fun earlier later =>
      later.2.toNat = earlier.2.toNat + pulsePeriodNs) {first : U32 × U128}
    (head : first ∈ pulses.head?) :
    ∀ i (inside : i < pulses.length), pulses[i].2.toNat = first.2.toNat + i * pulsePeriodNs := by
  intro i
  induction i with
  | zero =>
    intro inside
    rw [List.head?_eq_getElem?, List.getElem?_eq_getElem inside] at head
    rw [Option.some.inj head, Nat.zero_mul, Nat.add_zero]
  | succ i ih =>
    intro inside
    have step := List.isChain_iff_getElem.mp chain i inside
    rw [step, ih (by omega), Nat.succ_mul, Nat.add_assoc]

/-- **The pulses of a run.** A board numbers its pulses from zero without a gap, modulo
`2 ^ 32`, each at a positive multiple of the period. No tick is repeated while the clock never
reads back past the slack before the last one; and there is exactly one pulse in every period
while it also reads no later than the slack before the next. -/
theorem pulses_of_run {actions : List BoardAction} {board : Board channel}
    {readings : List (Option U128 × U128)}
    (ran : (readBoard checks mac channel).run actions = .ok (board, readings)) :
    ((pulsesOf board.printed).map Prod.fst =
        (List.range (pulsesOf board.printed).length).map (BitVec.ofNat 32) ∧
      ∀ pulse ∈ pulsesOf board.printed, IsTick pulse.2) ∧
    ((∀ reading ∈ readings, ∀ last ∈ reading.1, Onward last reading.2) →
      (pulsesOf board.printed).Pairwise fun earlier later =>
        earlier.2.toNat < later.2.toNat) ∧
    ((∀ reading ∈ readings, ∀ last ∈ reading.1, OnTime last reading.2) →
      ∀ first ∈ (pulsesOf board.printed).head?, ∀ i (inside : i < (pulsesOf board.printed).length),
        (pulsesOf board.printed)[i].2.toNat = first.2.toNat + i * pulsePeriodNs) := by
  have numbered := numbered_of_run (System.run_of_observed ran)
  refine ⟨⟨numbered.numbers, numbered.aligned⟩, fun each => ?_, fun each first head => ?_⟩
  · have following : board.Following fun last tick => last.toNat < tick.toNat :=
      following_of_run (fun last nowNs tick aligned range chosen onward =>
        (lt_nextTick_iff range aligned chosen).mpr onward) ran each
    exact List.isChain_iff_pairwise.mp following.chain
  · have following : board.Following fun last tick => tick.toNat = last.toNat + pulsePeriodNs :=
      following_of_run (fun last nowNs tick aligned range chosen onTime =>
        (nextTick_eq_succ_iff range aligned chosen).mpr onTime) ran each
    exact tick_eq_of_chain following.chain head

/-- A packet that is received and consumed. -/
def onePacket : List BoardAction :=
  [.receive (.ofPacket ⟨magicBytes, 1, 9000000⟩ 1500 5500), .consume, .consume, .consume]

/-- A beacon and eight packets synchronise the client. -/
def synchronising : List BoardAction :=
  .poll (some homeBssid) :: .receive (.ofBeacon homeBssid 7000 1000 5000) :: .consume ::
    .consume :: (List.replicate 8 onePacket).flatten

/-- A synchronised client and both tasks. -/
def synchronisedSession : List BoardAction :=
  List.append synchronising
    [.spawn ⟨5, 2000, none⟩ ⟨320000005, 4002000, none⟩, .pulse 4002100 0]

/-- The steps of one pulse that is planned at one uptime for another. -/
def onePulse (nowUs targetLocalUs : U64) : List BoardAction :=
  List.replicate 3 (.pulse nowUs 0) ++ List.replicate 4 (.pulse targetLocalUs 0) ++
    [.pulse targetLocalUs 324005005] ++ List.replicate 3 (.pulse targetLocalUs 0) ++
    List.replicate 4 (.pulse (targetLocalUs + 1000) 0)

/-- Two pulses in successive periods. -/
theorem pulses_of_run_two :
    ∃ board, (boardSystem .enabled (0, 0, 0) (Channel.ofList SnifferEvent channelDepth)).run
        (synchronisedSession ++ onePulse 4002200 4092500 ++ onePulse 4094000 4192500) =
          .ok board ∧
      (pulsesOf board.printed).length = 2 ∧
      ∀ first ∈ (pulsesOf board.printed).head?, ∀ i (inside : i < (pulsesOf board.printed).length),
        (pulsesOf board.printed)[i].2.toNat = first.2.toNat + i * pulsePeriodNs := by
  obtain ⟨⟨board, readings⟩, ran, seen⟩ := exists_of_map_eq_ok (show
    ((readBoard .enabled (0, 0, 0) (Channel.ofList SnifferEvent channelDepth)).run
      (synchronisedSession ++ onePulse 4002200 4092500 ++ onePulse 4094000 4192500)).map
        (fun state => ((pulsesOf state.1.printed).length, state.2)) =
      .ok (2, [(none, 4009700000), (some 4100000000, 4101500000)]) by decide +kernel)
  obtain ⟨count, read⟩ := Prod.mk.inj seen
  have onTime : ∀ reading ∈ readings, ∀ last ∈ reading.1, OnTime last reading.2 := by
    rw [show readings = _ from read, List.forall_mem_cons, List.forall_mem_singleton]
    constructor
    · exact fun last member => absurd member (Option.not_mem_none last)
    · intro last member
      rw [← Option.mem_some.mp member]
      decide
  exact ⟨board, System.run_of_observed ran, count, (pulses_of_run ran).2.2 onTime⟩

end Rig

end EspClockSync
