import EspClockSync.Verif.ClientTrace

/-!
# Conservation of events

Every accepted beacon and every matched frame is offered to the channel. What the
channel refuses is counted in `SAMPLES_DROPPED` on the packet path and forgotten
on the beacon path, so the counters balance exactly as long as no accepted beacon
meets a full channel.
-/

namespace EspClockSync

open Machine

variable {channel : Channel SnifferEvent} {checks : OverflowChecks}

/-- The frame an action delivers. -/
def Action.frame : Action → Option Reception
  | .receive packet => some packet
  | _ => none

/-- The beacons among some events. -/
def beaconCount (events : List SnifferEvent) : Nat := events.countP SnifferEvent.isBeacon
/-- The packets among some events. -/
def packetCount (events : List SnifferEvent) : Nat := events.countP fun event => !event.isBeacon

/-- Every event is a beacon or a packet. -/
theorem beaconCount_add_packetCount (events : List SnifferEvent) :
    beaconCount events + packetCount events = events.length := by
  unfold beaconCount packetCount
  rw [List.length_eq_countP_add_countP SnifferEvent.isBeacon]
  simp

/-- Counting goes on at the end of a list. -/
@[simp] theorem beaconCount_append (events more : List SnifferEvent) :
    beaconCount (events ++ more) = beaconCount events + beaconCount more := List.countP_append

/-- Counting goes on at the end of a list. -/
@[simp] theorem packetCount_append (events more : List SnifferEvent) :
    packetCount (events ++ more) = packetCount events + packetCount more := List.countP_append

/-- The counters hold what the trace says, modulo `2 ^ 64`. -/
structure Client.Counted (client : Client channel) (log : List Effect) (frames : Nat) : Prop where
  /-- Every accepted beacon was offered to the channel. -/
  offered : (acceptedAnchors log).length =
    beaconCount (enqueuedEvents log) + beaconCount (refusedEvents log)
  /-- `BEACONS_USED` counts the accepted beacons. -/
  used : client.beaconsUsed = BitVec.ofNat 64 (acceptedAnchors log).length
  /-- `FRAMES_MATCHED` counts the packets offered to the channel. -/
  matched : client.framesMatched =
    BitVec.ofNat 64 (packetCount (enqueuedEvents log) + packetCount (refusedEvents log))
  /-- `SAMPLES_DROPPED` counts the refused packets alone. -/
  dropped : client.samplesDropped = BitVec.ofNat 64 (packetCount (refusedEvents log))
  /-- A frame makes one event at most. -/
  frames : (enqueuedEvents log).length + (refusedEvents log).length ≤ frames

/-- A step keeps the account when its counters move by its own effects. -/
theorem Client.Counted.moved {client after : Client channel} {log effects : List Effect}
    {frames later : Nat} (held : client.Counted log frames)
    (offered : (acceptedAnchors effects).length =
      beaconCount (enqueuedEvents effects) + beaconCount (refusedEvents effects))
    (used : after.beaconsUsed =
      client.beaconsUsed + BitVec.ofNat 64 (acceptedAnchors effects).length)
    (matched : after.framesMatched = client.framesMatched +
      BitVec.ofNat 64 (packetCount (enqueuedEvents effects) + packetCount (refusedEvents effects)))
    (dropped : after.samplesDropped =
      client.samplesDropped + BitVec.ofNat 64 (packetCount (refusedEvents effects)))
    (bound : frames + (enqueuedEvents effects).length + (refusedEvents effects).length ≤ later) :
    after.Counted (log ++ effects) later where
  offered := by
    simp only [acceptedAnchors_append, enqueuedEvents_append, refusedEvents_append,
      List.length_append, beaconCount_append]
    have before := held.offered
    omega
  used := by
    rw [used, held.used, acceptedAnchors_append, List.length_append, BitVec.ofNat_add]
  matched := by
    simp only [enqueuedEvents_append, refusedEvents_append, packetCount_append]
    rw [matched, held.matched, ← BitVec.ofNat_add]
    congr 1
    omega
  dropped := by
    rw [dropped, held.dropped, refusedEvents_append, packetCount_append, BitVec.ofNat_add]
  frames := by
    simp only [enqueuedEvents_append, refusedEvents_append, List.length_append]
    have before := held.frames
    omega

/-- Every step keeps the account of the counters. -/
theorem Client.Counted.stepped {client after : Client channel} {log effects : List Effect}
    {frames : Nat} {action : Action} (held : client.Counted log frames)
    (stepped : client.Stepped checks action after effects) :
    after.Counted (log ++ effects) (frames + [action.frame].reduceOption.length) := by
  have same : ∀ counter : U64, counter = counter + BitVec.ofNat 64 0 :=
    fun counter => (BitVec.add_zero counter).symm
  cases stepped with
  | usedBeacon | lostBeacon =>
    exact held.moved rfl rfl (same _) (same _) (Nat.le_refl _)
  | matchedFrame => exact held.moved rfl (same _) rfl (same _) (Nat.le_refl _)
  | droppedFrame => exact held.moved rfl (same _) rfl rfl (Nat.le_refl _)
  | polled info =>
    obtain ⟨locked, prev, next⟩ := client.pollApBssid_eq info
    rw [next]
    exact held.moved rfl (same _) (same _) (same _) (Nat.le_add_right _ _)
  | foreignBeacon | unmatchedFrame | waited | tookBeacon | tookUdp | fedBeacon | droppedUdp
    | convertedUdp | fedUdp | queried =>
    exact held.moved rfl (same _) (same _) (same _) (Nat.le_add_right _ _)

/-- The counters of every reached state account for its trace. -/
theorem counted_of_run {actions : List Action} {client : Client channel} {log : List Effect}
    (ran : (tracedClient checks channel).run actions = .ok (client, log)) :
    client.Counted log (actions.filterMap Action.frame).length := by
  refine traced_induction (motive := fun actions client log =>
    client.Counted log (actions.filterMap Action.frame).length)
    ⟨rfl, rfl, rfl, rfl, Nat.le_refl _⟩ (fun actions _ _ action _ _ _ held stepped => ?_) ran
  have next := held.stepped stepped
  rwa [List.filterMap_append, List.length_append]

/-- The balance of a reached state: what is missing from the dropped samples is the
number of beacons a full channel refused. -/
theorem events_balance (fifo : channel.Fifo channelDepth) {actions : List Action}
    {client : Client channel} {log : List Effect}
    (ran : (tracedClient checks channel).run actions = .ok (client, log))
    (unwrapped : (actions.filterMap Action.frame).length < 2 ^ 64) :
    client.beaconsUsed.toNat + client.framesMatched.toNat =
      (receivedEvents log).length + (fifo.contents client.samples).length +
        client.samplesDropped.toNat + beaconCount (refusedEvents log) := by
  obtain ⟨offered, used, matched, dropped, bound⟩ := counted_of_run ran
  have queue := congrArg List.length (queued_of_run fifo ran).queue
  have enqueued := beaconCount_add_packetCount (enqueuedEvents log)
  have refused := beaconCount_add_packetCount (refusedEvents log)
  rw [List.length_append] at queue
  rw [used, matched, dropped, BitVec.toNat_ofNat, BitVec.toNat_ofNat, BitVec.toNat_ofNat,
    Nat.mod_eq_of_lt (by omega), Nat.mod_eq_of_lt (by omega), Nat.mod_eq_of_lt (by omega)]
  omega

/-- If this action is a beacon that passes the BSSID filter, the channel has room for it. -/
def BeaconHasRoom (fifo : channel.Fifo channelDepth) (state : Client channel × List Effect)
    (action : Action) : Prop :=
  ∀ packet, action = .receive packet → packet.isBeacon = true →
    state.1.locks packet.bssid = true → (fifo.contents state.1.samples).length < channelDepth

/-- A step refuses a beacon exactly when an accepted one has no room. -/
theorem Client.Stepped.beaconHasRoom_iff (fifo : channel.Fifo channelDepth)
    {client after : Client channel} {log effects : List Effect} {action : Action}
    (stepped : client.Stepped checks action after effects) :
    BeaconHasRoom fifo (client, log) action ↔ beaconCount (refusedEvents effects) = 0 := by
  have unlocked := stepped.unlocked
  cases stepped with
  | usedBeacon packet updated instant extra samples accepts sent =>
    refine iff_of_true (fun _ _ _ _ => ?_) rfl
    by_contra full
    rw [fifo.trySend_full _ _ (Nat.not_lt.mp full)] at sent
    contradiction
  | lostBeacon packet updated instant extra accepts full =>
    refine iff_of_false (fun room => ?_) Nat.one_ne_zero
    have free := room packet rfl accepts.beacon accepts.locked
    have occupied := (fifo.trySend_eq_none_iff _ _).mp full
    exact absurd occupied (Nat.not_le.mpr free)
  | foreignBeacon | unmatchedFrame | matchedFrame | droppedFrame | polled | waited | tookBeacon
    | tookUdp | fedBeacon | droppedUdp | convertedUdp | fedUdp | queried =>
    apply iff_of_true _ rfl
    intro packet received beacon locked
    have foreign := unlocked rfl packet received beacon
    rw [locked] at foreign
    contradiction

/-- A run lost no beacon exactly when each accepted one had room. -/
theorem no_beacon_lost_iff (fifo : channel.Fifo channelDepth) {actions : List Action}
    {client : Client channel} {log : List Effect}
    (ran : (tracedClient checks channel).run actions = .ok (client, log)) :
    beaconCount (refusedEvents log) = 0 ↔
      (tracedClient checks channel).EachStep (BeaconHasRoom fifo) actions := by
  refine traced_eachStep_iff (fun log => beaconCount (refusedEvents log) = 0) rfl
    (fun log more => ?_) (fun _ _ _ _ _ stepped => stepped.beaconHasRoom_iff fifo) ran
  rw [refusedEvents_append, beaconCount_append, Nat.add_eq_zero_iff]

/-- **Conservation of events.** With a bounded queue for a channel and fewer than
`2 ^ 64` frames, beacons used and frames matched are the events taken, queued or
counted as dropped exactly when no accepted beacon met a full channel. -/
theorem events_conserved_iff (fifo : channel.Fifo channelDepth) {actions : List Action}
    {client : Client channel} {log : List Effect}
    (ran : (tracedClient checks channel).run actions = .ok (client, log))
    (unwrapped : (actions.filterMap Action.frame).length < 2 ^ 64) :
    client.beaconsUsed.toNat + client.framesMatched.toNat =
        (receivedEvents log).length + (fifo.contents client.samples).length +
          client.samplesDropped.toNat ↔
      (tracedClient checks channel).EachStep (BeaconHasRoom fifo) actions := by
  rw [← no_beacon_lost_iff fifo ran, events_balance fifo ran unwrapped]
  omega

/-- Beacons of one access point every 100 ms while the consumer does not run. -/
def beaconBurst (count : Nat) : List Action :=
  .poll (some homeBssid) :: (List.range count).map fun i =>
    .receive (.ofBeacon homeBssid (BitVec.ofNat 64 (7000 + 102400 * i))
      (BitVec.ofNat 64 (1000 + 102400 * i)) (BitVec.ofNat 64 (5000 + 102400 * i)))

/-- Two beacons are both queued, and the counters balance. -/
theorem events_conserved_two :
    ∃ client log, (tracedClient .enabled (Channel.ofList SnifferEvent channelDepth)).run
        (beaconBurst 2) = .ok (client, log) ∧
      (tracedClient .enabled (Channel.ofList SnifferEvent channelDepth)).EachStep
        (BeaconHasRoom (Channel.ofListFifo SnifferEvent channelDepth)) (beaconBurst 2) := by
  obtain ⟨⟨client, log⟩, ran, balance⟩ := exists_of_map_eq_ok (show
    ((tracedClient .enabled (Channel.ofList SnifferEvent channelDepth)).run
      (beaconBurst 2)).map (fun state => (state.1.beaconsUsed.toNat + state.1.framesMatched.toNat,
        (receivedEvents state.2).length + ((Channel.ofListFifo SnifferEvent channelDepth).contents
          state.1.samples).length + state.1.samplesDropped.toNat)) = .ok (2, 2) by decide +kernel)
  obtain ⟨used, kept⟩ := Prod.mk.inj balance
  exact ⟨client, log, ran, (events_conserved_iff (Channel.ofListFifo SnifferEvent channelDepth)
    ran (by decide)).mp (used.trans kept.symm)⟩

/-- The beacon that meets a full channel is in no counter but `BEACONS_USED`. -/
theorem events_not_conserved_full :
    ∃ client log, (tracedClient .enabled (Channel.ofList SnifferEvent channelDepth)).run
        (beaconBurst 33) = .ok (client, log) ∧
      client.beaconsUsed.toNat + client.framesMatched.toNat = 33 ∧
      (receivedEvents log).length + ((Channel.ofListFifo SnifferEvent channelDepth).contents
        client.samples).length + client.samplesDropped.toNat = 32 := by
  obtain ⟨⟨client, log⟩, ran, balance⟩ := exists_of_map_eq_ok (show
    ((tracedClient .enabled (Channel.ofList SnifferEvent channelDepth)).run
      (beaconBurst 33)).map (fun state => (state.1.beaconsUsed.toNat + state.1.framesMatched.toNat,
        (receivedEvents state.2).length + ((Channel.ofListFifo SnifferEvent channelDepth).contents
          state.1.samples).length + state.1.samplesDropped.toNat)) = .ok (33, 32) by
    decide +kernel)
  obtain ⟨used, kept⟩ := Prod.mk.inj balance
  exact ⟨client, log, ran, used, kept⟩

end EspClockSync
