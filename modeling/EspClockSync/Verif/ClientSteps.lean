import EspClockSync.Client.Trace

/-!
# What a step can do

`Client.Stepped` lists every outcome of every action once, with the tests that
lead to it and the effects it has. Invariants of the client and of its traces are
proved by cases on it.
-/

namespace EspClockSync

open Machine

variable {channel : Channel SnifferEvent}

namespace Client

/-- The cells after the telemetry of one callback. -/
def counted (client : Client channel) (updated : Int) : Client channel :=
  { client with
    framesSeen := client.framesSeen + 1
    instantMinusTsf := updated }

/-- The cells after a beacon that passed the BSSID filter, before it is sent. -/
def anchored (client : Client channel) (updated : Int) (packet : Reception)
    (instant extra : AlphaBetaFilter) : Client channel :=
  { client.counted updated with
    beaconsSeen := client.beaconsSeen + 1
    beaconsUsed := client.beaconsUsed + 1
    latestBeacon := some packet.anchor
    apTsfMinusInstantFilter := instant
    apTsfMinusExtraFilter := extra }

/-- A beacon passes the BSSID filter and both filters take it. -/
structure Accepts (checks : OverflowChecks) (client : Client channel) (packet : Reception)
    (updated : Int) (instant extra : AlphaBetaFilter) : Prop where
  /-- The average has a next value. -/
  averaged : averageDelta checks client.instantMinusTsf packet = .ok updated
  /-- The frame is a beacon. -/
  beacon : packet.isBeacon = true
  /-- Its BSSID is the locked one. -/
  locked : client.locks packet.bssid = true
  /-- The instant filter has a next state. -/
  observed : client.apTsfMinusInstantFilter.observe checks packet.instantUsAtCb.toInt
    (wrapI64 (packet.apTsfUs.toInt - packet.instantUsAtCb.toInt)) = .ok instant
  /-- The extra filter has a next state. -/
  fed : client.feedExtra checks packet = .ok extra

/-- A frame that is no beacon carries a packet. -/
structure Matches (checks : OverflowChecks) (client : Client channel) (packet : Reception)
    (updated : Int) (pkt : SyncPacket) : Prop where
  /-- The average has a next value. -/
  averaged : averageDelta checks client.instantMinusTsf packet = .ok updated
  /-- The frame is no beacon. -/
  other : packet.isBeacon = false
  /-- The search finds the packet. -/
  found : SyncPacket.findInFrame packet.data = .ok (some pkt)

/-- The outcomes of one action, with their effects. -/
inductive Stepped (checks : OverflowChecks) (client : Client channel) :
    Action → Client channel → List Effect → Prop where
  /-- An accepted beacon is queued. -/
  | usedBeacon (packet : Reception) (updated : Int) (instant extra : AlphaBetaFilter)
      (samples : channel.Buffer) (accepts : client.Accepts checks packet updated instant extra)
      (sent : channel.trySend client.samples (.beacon packet.anchor) = some samples) :
      Stepped checks client (.receive packet)
        { client.anchored updated packet instant extra with samples := samples }
        [.accepted packet.bssid packet.anchor
          (client.apTsfMinusInstantFilter.absorbs packet.instantUsAtCb.toInt),
          .enqueued (.beacon packet.anchor)]
  /-- An accepted beacon meets a full channel. -/
  | lostBeacon (packet : Reception) (updated : Int) (instant extra : AlphaBetaFilter)
      (accepts : client.Accepts checks packet updated instant extra)
      (full : channel.trySend client.samples (.beacon packet.anchor) = none) :
      Stepped checks client (.receive packet) (client.anchored updated packet instant extra)
        [.accepted packet.bssid packet.anchor
          (client.apTsfMinusInstantFilter.absorbs packet.instantUsAtCb.toInt),
          .refused (.beacon packet.anchor)]
  /-- Any other beacon is counted. -/
  | foreignBeacon (packet : Reception) (updated : Int)
      (averaged : averageDelta checks client.instantMinusTsf packet = .ok updated)
      (beacon : packet.isBeacon = true) (unlocked : client.locks packet.bssid = false) :
      Stepped checks client (.receive packet)
        { client.counted updated with beaconsSeen := client.beaconsSeen + 1 } []
  /-- A frame without a packet is counted. -/
  | unmatchedFrame (packet : Reception) (updated : Int)
      (averaged : averageDelta checks client.instantMinusTsf packet = .ok updated)
      (other : packet.isBeacon = false)
      (found : SyncPacket.findInFrame packet.data = .ok none) :
      Stepped checks client (.receive packet) (client.counted updated) []
  /-- A packet is queued. -/
  | matchedFrame (packet : Reception) (updated : Int) (pkt : SyncPacket)
      (samples : channel.Buffer) (matched : client.Matches checks packet updated pkt)
      (sent : channel.trySend client.samples (.udp pkt.sendUnixNs packet.ownTsfUs) =
        some samples) :
      Stepped checks client (.receive packet)
        { client.counted updated with
          framesMatched := client.framesMatched + 1
          samples := samples }
        [.enqueued (.udp pkt.sendUnixNs packet.ownTsfUs)]
  /-- A packet meets a full channel. -/
  | droppedFrame (packet : Reception) (updated : Int) (pkt : SyncPacket)
      (matched : client.Matches checks packet updated pkt)
      (full : channel.trySend client.samples (.udp pkt.sendUnixNs packet.ownTsfUs) = none) :
      Stepped checks client (.receive packet)
        { client.counted updated with
          framesMatched := client.framesMatched + 1
          samplesDropped := client.samplesDropped + 1 }
        [.refused (.udp pkt.sendUnixNs packet.ownTsfUs)]
  /-- A poll may lock another BSSID. -/
  | polled (info : Option Bssid) : Stepped checks client (.poll info) (client.pollApBssid info) []
  /-- The consumer waits on an empty channel. -/
  | waited (receiving : client.consumer = .receiving)
      (empty : channel.receive client.samples = none) : Stepped checks client .consume client []
  /-- The consumer takes a beacon. -/
  | tookBeacon (anchor : BeaconAnchor) (samples : channel.Buffer)
      (receiving : client.consumer = .receiving)
      (taken : channel.receive client.samples = some (.beacon anchor, samples)) :
      Stepped checks client .consume
        { client with
          samples := samples
          consumer := .beaconReceived anchor }
        [.received (.beacon anchor)]
  /-- The consumer takes a packet. -/
  | tookUdp (serverNs : U128) (ownTsfUs : U64) (samples : channel.Buffer)
      (receiving : client.consumer = .receiving)
      (taken : channel.receive client.samples = some (.udp serverNs ownTsfUs, samples)) :
      Stepped checks client .consume
        { client with
          samples := samples
          consumer := .udpReceived serverNs ownTsfUs }
        [.received (.udp serverNs ownTsfUs)]
  /-- The consumer feeds a beacon to the diagnostic estimator. -/
  | fedBeacon (anchor : BeaconAnchor) (est : Estimator)
      (holding : client.consumer = .beaconReceived anchor)
      (observed : client.beaconEst.observe checks (beaconSample anchor) = .ok est) :
      Stepped checks client .consume
        { client with
          beaconEst := est
          consumer := .receiving }
        [.consumed (.beacon anchor)]
  /-- The consumer drops a packet without an AP time. -/
  | droppedUdp (serverNs : U128) (ownTsfUs : U64)
      (holding : client.consumer = .udpReceived serverNs ownTsfUs)
      (missing : client.ownTsfToApTsf ownTsfUs = none) :
      Stepped checks client .consume { client with consumer := .receiving }
        [.consumed (.udp serverNs ownTsfUs)]
  /-- The consumer converts a packet by the anchor of this moment. -/
  | convertedUdp (serverNs : U128) (ownTsfUs apTsfUs : U64)
      (holding : client.consumer = .udpReceived serverNs ownTsfUs)
      (converted : client.ownTsfToApTsf ownTsfUs = some apTsfUs) :
      Stepped checks client .consume
        { client with consumer := .udpConverted serverNs ownTsfUs apTsfUs }
        [.converted serverNs ownTsfUs apTsfUs]
  /-- The consumer feeds a converted packet to the estimator. -/
  | fedUdp (serverNs : U128) (ownTsfUs apTsfUs : U64) (est : Estimator)
      (holding : client.consumer = .udpConverted serverNs ownTsfUs apTsfUs)
      (observed : client.udpEst.observe checks ⟨serverNs, apTsfUs⟩ = .ok est) :
      Stepped checks client .consume
        { client with
          udpEst := est
          consumer := .receiving }
        [.fed ⟨serverNs, apTsfUs⟩, .consumed (.udp serverNs ownTsfUs)]
  /-- A query stores its rate. -/
  | queried (extraUs extraPerUsQ32 : U64) :
      Stepped checks client (.queryExtra extraUs extraPerUsQ32)
        (client.storeExtraRate extraPerUsQ32) []

/-- A callback that gets past the BSSID filter has one of two outcomes. -/
theorem stepped_of_accepts {checks : OverflowChecks} {client : Client channel}
    {packet : Reception} {updated : Int} {instant extra : AlphaBetaFilter}
    (accepts : client.Accepts checks packet updated instant extra) :
    client.Stepped checks (.receive packet)
      ((client.anchored updated packet instant extra).sendIgnoring (.beacon packet.anchor))
      (client.frameEffects packet) := by
  unfold frameEffects
  rw [if_pos accepts.beacon, if_pos accepts.locked]
  unfold sendEffect sendIgnoring
  change client.Stepped checks _ { client.anchored updated packet instant extra with
    samples := (channel.trySend client.samples (.beacon packet.anchor)).getD client.samples } _
  cases sent : channel.trySend client.samples (.beacon packet.anchor) with
  | none => exact .lostBeacon packet updated instant extra accepts sent
  | some samples => exact .usedBeacon packet updated instant extra samples accepts sent

/-- A callback that finds a packet has one of two outcomes. -/
theorem stepped_of_matches {checks : OverflowChecks} {client : Client channel}
    {packet : Reception} {updated : Int} {pkt : SyncPacket}
    (matched : client.Matches checks packet updated pkt) :
    client.Stepped checks (.receive packet)
      ({ client.counted updated with framesMatched := client.framesMatched + 1 }.sendCounting
        (.udp pkt.sendUnixNs packet.ownTsfUs)) (client.frameEffects packet) := by
  have sameSamples : (client.counted updated).samples = client.samples := rfl
  unfold frameEffects
  rw [if_neg (by simp [matched.other]), matched.found]
  unfold sendEffect sendCounting
  dsimp only
  rw [sameSamples]
  cases sent : channel.trySend client.samples (.udp pkt.sendUnixNs packet.ownTsfUs) with
  | none => exact .droppedFrame packet updated pkt matched sent
  | some samples => exact .matchedFrame packet updated pkt samples matched sent

/-- Every callback that returns has one of the outcomes of a frame. -/
theorem stepped_of_rxCb {checks : OverflowChecks} {client after : Client channel}
    {packet : Reception} (returned : client.rxCb checks packet = .ok after) :
    client.Stepped checks (.receive packet) after (client.frameEffects packet) := by
  obtain ⟨updated, averaged, handled⟩ := bind_eq_ok returned
  dsimp only at handled
  by_cases beacon : packet.isBeacon = true
  · rw [if_pos beacon] at handled
    split at handled
    · rename_i locked
      obtain ⟨instant, observed, handled⟩ := bind_eq_ok handled
      obtain ⟨extra, fed, handled⟩ := bind_eq_ok handled
      rw [← Except.ok.inj handled]
      exact stepped_of_accepts ⟨averaged, beacon, locked, observed, fed⟩
    · rename_i unlocked
      have nothing : client.frameEffects packet = [] := by
        unfold frameEffects
        rw [if_pos beacon]
        exact if_neg unlocked
      rw [← Except.ok.inj handled, nothing]
      exact .foreignBeacon packet updated averaged beacon (Bool.eq_false_iff.mpr unlocked)
  · rw [if_neg beacon] at handled
    obtain ⟨found, searched, handled⟩ := bind_eq_ok handled
    have other := Bool.eq_false_iff.mpr beacon
    cases found with
    | none =>
      have nothing : client.frameEffects packet = [] := by
        unfold frameEffects
        rw [if_neg beacon, searched]
      rw [← Except.ok.inj handled, nothing]
      exact .unmatchedFrame packet updated averaged other searched
    | some pkt =>
      rw [← Except.ok.inj handled]
      exact stepped_of_matches ⟨averaged, other, searched⟩

/-- Every consumer step that returns has one of the outcomes of a consumer step. -/
theorem stepped_of_consumeSamples {checks : OverflowChecks} {client after : Client channel}
    (returned : client.consumeSamples checks = .ok after) :
    client.Stepped checks .consume after client.consumerEffects := by
  unfold consumeSamples at returned
  unfold consumerEffects
  cases holding : client.consumer with
  | receiving =>
    rw [holding] at returned
    dsimp only at returned ⊢
    cases taken : channel.receive client.samples with
    | none =>
      rw [taken] at returned
      rw [← Except.ok.inj returned]
      exact .waited holding taken
    | some message =>
      obtain ⟨event, samples⟩ := message
      rw [taken] at returned
      cases event with
      | beacon anchor =>
        rw [← Except.ok.inj returned]
        exact .tookBeacon anchor samples holding taken
      | udp serverNs ownTsfUs =>
        rw [← Except.ok.inj returned]
        exact .tookUdp serverNs ownTsfUs samples holding taken
  | beaconReceived anchor =>
    rw [holding] at returned
    obtain ⟨est, observed, returned⟩ := bind_eq_ok returned
    rw [← Except.ok.inj returned]
    exact .fedBeacon anchor est holding observed
  | udpReceived serverNs ownTsfUs =>
    rw [holding] at returned
    dsimp only at returned ⊢
    cases converted : client.ownTsfToApTsf ownTsfUs with
    | none =>
      rw [converted] at returned
      rw [← Except.ok.inj returned]
      exact .droppedUdp serverNs ownTsfUs holding converted
    | some apTsfUs =>
      rw [converted] at returned
      rw [← Except.ok.inj returned]
      exact .convertedUdp serverNs ownTsfUs apTsfUs holding converted
  | udpConverted serverNs ownTsfUs apTsfUs =>
    rw [holding] at returned
    obtain ⟨est, observed, returned⟩ := bind_eq_ok returned
    rw [← Except.ok.inj returned]
    exact .fedUdp serverNs ownTsfUs apTsfUs est holding observed

/-- **Inversion.** Every step that returns has one of the listed outcomes. -/
theorem stepped_of_step {checks : OverflowChecks} {client after : Client channel}
    {action : Action} (returned : client.step checks action = .ok after) :
    client.Stepped checks action after (client.effects action) := by
  cases action with
  | receive packet => exact stepped_of_rxCb returned
  | poll info =>
    rw [← Except.ok.inj returned]
    exact .polled info
  | consume => exact stepped_of_consumeSamples returned
  | queryExtra extraUs extraPerUsQ32 =>
    obtain ⟨answer, _, returned⟩ := bind_eq_ok returned
    rw [← Except.ok.inj returned]
    exact .queried extraUs extraPerUsQ32

/-- A poll changes the locked BSSID and the task's own copy at most. -/
theorem pollApBssid_eq (client : Client channel) (info : Option Bssid) :
    ∃ locked prev, client.pollApBssid info =
      { client with
        lockedBssid := locked
        pollPrev := prev } := by
  unfold pollApBssid
  split
  · exact ⟨client.lockedBssid, client.pollPrev, rfl⟩
  · rename_i bssid
    split
    · exact ⟨some bssid, some bssid, rfl⟩
    · exact ⟨client.lockedBssid, client.pollPrev, rfl⟩

/-- A step that accepts no anchor delivers no beacon of the locked BSSID. -/
theorem Stepped.unlocked {checks : OverflowChecks} {client after : Client channel}
    {action : Action} {effects : List Effect} (stepped : client.Stepped checks action after effects)
    (unaccepted : acceptedAnchors effects = []) (packet : Reception)
    (received : action = .receive packet) (beacon : packet.isBeacon = true) :
    client.locks packet.bssid = false := by
  cases stepped with
  | usedBeacon | lostBeacon => contradiction
  | foreignBeacon other updated averaged _ unlocked =>
    have same := Action.receive.inj received
    rwa [same] at unlocked
  | unmatchedFrame other updated averaged noBeacon =>
    have same := Action.receive.inj received
    rw [same, beacon] at noBeacon
    contradiction
  | matchedFrame other updated pkt samples matched | droppedFrame other updated pkt matched =>
    have same := Action.receive.inj received
    have noBeacon := matched.other
    rw [same, beacon] at noBeacon
    contradiction
  | polled | waited | tookBeacon | tookUdp | fedBeacon | droppedUdp | convertedUdp | fedUdp
    | queried => contradiction

end Client

/-! ## Frames -/

/-- An access point for concrete runs. -/
def homeBssid : Bssid := #v[1, 1, 1, 1, 1, 1]
/-- Another access point for concrete runs. -/
def neighbourBssid : Bssid := #v[2, 2, 2, 2, 2, 2]

/-- A beacon of this access point, received with all clocks of the device at hand. -/
def Reception.ofBeacon (bssid : Bssid) (apTsfUs instantUs ownTsfUs : U64) : Reception where
  data := 0x80#8 :: List.replicate 15 0 ++ bssid.toList ++ [0, 0] ++ leBytes 8 apTsfUs.toNat ++
    List.replicate 4 0
  timestamp := ownTsfUs.setWidth 32
  extraUs := 0
  instantUsAtCb := instantUs
  ownTsfAtCb := ownTsfUs

/-- A frame of nothing but this packet. -/
def Reception.ofPacket (pkt : SyncPacket) (instantUs ownTsfUs : U64) : Reception where
  data := pkt.toBytes
  timestamp := ownTsfUs.setWidth 32
  extraUs := 0
  instantUsAtCb := instantUs
  ownTsfAtCb := ownTsfUs

end EspClockSync
