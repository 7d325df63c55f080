import EspClockSync.Verif.EstimatorAgreement
import EspClockSync.Verif.SamplePipeline

/-!
# Clients of one access point

Every device hears a broadcast at the same moment of the access point's clock. A client whose
beacons and packets are read with bounded errors feeds its estimator those moments up to the
errors, through every interleaving of its callback and its tasks. So its clock is as accurate
as the packets, and two clients of one access point agree within their errors.
-/

namespace EspClockSync

open Machine

variable {channel : Channel SnifferEvent} {checks : OverflowChecks}

/-- What a client hears is read within these errors: an own clock that stands `skew` behind the
one of the access point, and packets on the air at these moments of the latter. -/
structure Hearing (airTime : U128 → Int) (skew anchorError packetError : Int)
    (log : List Effect) : Prop where
  /-- The readings of a beacon are sound. -/
  anchorRange : ∀ anchor ∈ acceptedAnchors log,
    anchor.apTsfUs.toNat < 2 ^ 60 ∧ anchor.ownTsfUs.toNat < 2 ^ 60
  /-- They stand one skew apart. -/
  anchors : ∀ anchor ∈ acceptedAnchors log,
    |(anchor.apTsfUs.toNat : Int) - anchor.ownTsfUs.toNat - skew| ≤ anchorError
  /-- The times of a packet are plausible. -/
  packetRange : ∀ serverNs own, .udp serverNs own ∈ enqueuedEvents log →
    serverNs.toNat < 2 ^ 72 ∧ own.toNat < 2 ^ 60
  /-- It is read when it was on the air. -/
  packets : ∀ serverNs own, .udp serverNs own ∈ enqueuedEvents log →
    |(own.toNat : Int) + skew - airTime serverNs| ≤ packetError

/-- A part of a trace hears no more than the trace. -/
theorem Hearing.of_append {airTime : U128 → Int} {skew anchorError packetError : Int}
    {log more : List Effect} (hearing : Hearing airTime skew anchorError packetError (log ++ more)) :
    Hearing airTime skew anchorError packetError log := by
  obtain ⟨anchorRange, anchors, packetRange, packets⟩ := hearing
  rw [acceptedAnchors_append] at anchorRange anchors
  rw [enqueuedEvents_append] at packetRange packets
  exact ⟨fun anchor member => anchorRange anchor (List.mem_append_left _ member),
    fun anchor member => anchors anchor (List.mem_append_left _ member),
    fun serverNs own member => packetRange serverNs own (List.mem_append_left _ member),
    fun serverNs own member => packets serverNs own (List.mem_append_left _ member)⟩

/-- A sample of a packet that was on the air at about its local time. -/
structure Sample.Heard (airTime : U128 → Int) (error : Int) (s : Sample) : Prop where
  /-- It is plausible. -/
  bounded : s.Bounded
  /-- It is close. -/
  near : |(s.localUs.toNat : Int) - airTime s.serverNs| ≤ error

/-- A client with a sound anchor converts by its difference, exactly. -/
theorem Client.ownTsfToApTsf_eq_some_iff {client : Client channel} {anchor : BeaconAnchor}
    (anchored : client.latestBeacon = some anchor) (apRange : anchor.apTsfUs.toNat < 2 ^ 60)
    (ownRange : anchor.ownTsfUs.toNat < 2 ^ 60) {own : U64} (small : own.toNat < 2 ^ 60) (ap : U64) :
    client.ownTsfToApTsf own = some ap ↔
      (ap.toNat : Int) = own.toNat + (anchor.apTsfUs.toNat - anchor.ownTsfUs.toNat) := by
  have value : (own + (anchor.apTsfUs - anchor.ownTsfUs)).toNat =
      (own.toNat + (2 ^ 64 - anchor.ownTsfUs.toNat + anchor.apTsfUs.toNat) % 2 ^ 64) % 2 ^ 64 := by
    rw [BitVec.toNat_add, BitVec.toNat_sub]
  have range := ap.isLt
  rw [Client.ownTsfToApTsf_eq anchored]
  split
  · rename_i below
    rw [Option.some.injEq, ← BitVec.toNat_inj, value]
    omega
  · rename_i above
    rw [value] at above
    constructor
    · intro absent
      contradiction
    · intro same
      omega

/-- The sample that the consumer has converted and not fed yet. -/
def Consumer.sample : Consumer → Option Sample
  | .udpConverted serverNs _ apTsfUs => some ⟨serverNs, apTsfUs⟩
  | _ => none

/-- The samples converted so far, oldest first. -/
def Client.convertedSamples (client : Client channel) (log : List Effect) : List Sample :=
  fedSamples log ++ client.consumer.sample.toList

/-- One step converts at most one packet, by the anchor of that moment. -/
theorem Client.Stepped.convertedSamples {client after : Client channel} {log effects : List Effect}
    {action : Action} (stepped : client.Stepped checks action after effects) :
    after.convertedSamples (log ++ effects) = client.convertedSamples log ∨
      ∃ serverNs own ap, client.consumer = .udpReceived serverNs own ∧
        client.ownTsfToApTsf own = some ap ∧
        after.convertedSamples (log ++ effects) =
          client.convertedSamples log ++ [⟨serverNs, ap⟩] := by
  unfold Client.convertedSamples
  rw [fedSamples_append]
  cases stepped with
  | convertedUdp serverNs own ap inHand converted =>
    refine Or.inr ⟨serverNs, own, ap, inHand, converted, ?_⟩
    rw [inHand]
    simp [Consumer.sample, fedSamples, Effect.fedSample]
  | fedUdp serverNs own ap est inHand observed =>
    rw [inHand]
    exact Or.inl (List.append_nil _)
  | polled info =>
    obtain ⟨locked, prev, same⟩ := client.pollApBssid_eq info
    rw [same]
    left
    simp [fedSamples]
  | tookBeacon anchor samples receiving taken =>
    rw [receiving]
    exact Or.inl (by simp [Consumer.sample, fedSamples, Effect.fedSample])
  | tookUdp serverNs own samples receiving taken =>
    rw [receiving]
    exact Or.inl (by simp [Consumer.sample, fedSamples, Effect.fedSample])
  | fedBeacon anchor est inHand observed =>
    rw [inHand]
    exact Or.inl (by simp [Consumer.sample, fedSamples, Effect.fedSample])
  | droppedUdp serverNs own inHand missing =>
    rw [inHand]
    exact Or.inl (by simp [Consumer.sample, fedSamples, Effect.fedSample])
  | usedBeacon | lostBeacon | foreignBeacon | unmatchedFrame | matchedFrame | droppedFrame
    | waited | queried =>
    left
    simp [fedSamples, Effect.fedSample, Client.anchored, Client.counted, Client.storeExtraRate]

/-- The samples converted are heard, by an anchor. -/
structure Client.Hears (airTime : U128 → Int) (error : Int) (client : Client channel)
    (log : List Effect) : Prop where
  /-- Each is close to its moment on the air. -/
  heard : ∀ s ∈ client.convertedSamples log, s.Heard airTime error
  /-- None is converted without an anchor. -/
  anchored : client.convertedSamples log ≠ [] → acceptedAnchors log ≠ []

/-- What is converted by a sound anchor is heard. -/
theorem Hearing.heard {airTime : U128 → Int} {skew anchorError packetError : Int}
    {client : Client channel} {log : List Effect}
    (hearing : Hearing airTime skew anchorError packetError log)
    (recorded : client.Recorded checks log) {serverNs : U128} {own ap : U64}
    (queued : .udp serverNs own ∈ enqueuedEvents log)
    (converted : client.ownTsfToApTsf own = some ap) :
    (⟨serverNs, ap⟩ : Sample).Heard airTime (anchorError + packetError) ∧
      acceptedAnchors log ≠ [] := by
  obtain ⟨anchor, latest, _⟩ := Option.bind_eq_some_iff.mp converted
  have accepted : anchor ∈ acceptedAnchors log :=
    List.mem_of_getLast? (recorded.anchor.symm.trans latest)
  obtain ⟨apRange, ownRange⟩ := hearing.anchorRange anchor accepted
  obtain ⟨serverRange, small⟩ := hearing.packetRange serverNs own queued
  have anchorNear := abs_le.mp (hearing.anchors anchor accepted)
  have packetNear := abs_le.mp (hearing.packets serverNs own queued)
  have value := (Client.ownTsfToApTsf_eq_some_iff latest apRange ownRange small ap).mp converted
  refine ⟨⟨⟨serverRange, ?_⟩, abs_le.mpr ⟨?_, ?_⟩⟩, List.ne_nil_of_mem accepted⟩
  · change ap.toNat < 2 ^ 62
    omega
  · change _ ≤ (ap.toNat : Int) - airTime serverNs
    omega
  · change (ap.toNat : Int) - airTime serverNs ≤ _
    omega

/-- Every step keeps that. -/
theorem Client.Hears.stepped {airTime : U128 → Int} {skew anchorError packetError : Int}
    {client after : Client channel} {log effects : List Effect} {action : Action}
    (hears : client.Hears airTime (anchorError + packetError) log)
    (hearing : Hearing airTime skew anchorError packetError log)
    (recorded : client.Recorded checks log)
    (holding : ∀ event ∈ client.consumer.inHand, event ∈ enqueuedEvents log)
    (stepped : client.Stepped checks action after effects) :
    after.Hears airTime (anchorError + packetError) (log ++ effects) := by
  have grown : acceptedAnchors log ≠ [] → acceptedAnchors (log ++ effects) ≠ [] := by
    intro anchored
    rw [acceptedAnchors_append]
    exact List.append_ne_nil_of_left_ne_nil anchored _
  rcases stepped.convertedSamples with same | ⟨serverNs, own, ap, inHand, converted, one⟩
  · constructor
    · rw [same]
      exact hears.heard
    · rw [same]
      exact fun some => grown (hears.anchored some)
  · have queued : .udp serverNs own ∈ enqueuedEvents log := by
      apply holding
      rw [inHand]
      exact List.mem_cons_self
    obtain ⟨heard, anchored⟩ := hearing.heard recorded queued converted
    constructor
    · rw [one]
      exact List.forall_mem_append.mpr ⟨hears.heard, List.forall_mem_singleton.mpr heard⟩
    · exact fun _ => grown anchored

/-- **Every sample is a moment on the air.** In every run that hears within its errors, each
sample fed is a packet at the moment it was on the air, up to the error of an anchor and of
the packet. -/
theorem hears_of_run (fifo : channel.Fifo channelDepth) {airTime : U128 → Int}
    {skew anchorError packetError : Int} {actions : List Action} {client : Client channel}
    {log : List Effect} (ran : (tracedClient checks channel).run actions = .ok (client, log))
    (hearing : Hearing airTime skew anchorError packetError log) :
    client.Hears airTime (anchorError + packetError) log := by
  refine traced_induction (motive := fun _ client log =>
    Hearing airTime skew anchorError packetError log →
      client.Hears airTime (anchorError + packetError) log)
    (fun _ => ⟨fun _ member => absurd member List.not_mem_nil, fun some => absurd rfl some⟩)
    (fun _ before log _ after effects reached held stepped hearing => ?_) ran hearing
  have queued := queued_of_run fifo reached
  refine (held hearing.of_append).stepped hearing.of_append (recorded_of_run reached)
    (fun event member => ?_) stepped
  rw [queued.queue, queued.taken]
  exact List.mem_append_left _ (List.mem_append_right _ member)

/-- The estimator of such a client has observed heard samples only. -/
theorem Client.Hears.tracks {airTime : U128 → Int} {error : Int} {client : Client channel}
    {log : List Effect} (hears : client.Hears airTime error log)
    (recorded : client.Recorded checks log) :
    (∀ s ∈ fedSamples log, s.Heard airTime error) ∧ client.udpEst.Tracks (fedSamples log) := by
  have heard : ∀ s ∈ fedSamples log, s.Heard airTime error :=
    fun s member => hears.heard s (List.mem_append_left _ member)
  refine ⟨heard, ?_⟩
  obtain ⟨est, observed, tracks⟩ := observeAll_of_bounded fun s member => (heard s member).bounded
  have same := (observed checks).symm.trans recorded.udp
  rw [← Except.ok.inj same]
  exact tracks

/-- The estimator of a hearing client answers by the mean of its window. -/
theorem Client.Hears.syncedNsAt_eq_some_iff {airTime : U128 → Int} {error : Int}
    {client : Client channel} {log : List Effect} (hears : client.Hears airTime error log)
    (recorded : client.Recorded checks log) (enough : 8 ≤ (fedSamples log).length)
    (ap : U64) (serverNs : U128) :
    client.udpEst.syncedNsAt ap = some serverNs ↔
      (serverNs.toNat : Int) =
        meanOffset (window windowSize (fedSamples log)) + 1000 * ap.toNat := by
  obtain ⟨heard, tracks⟩ := hears.tracks recorded
  have size := minSamples_le_window enough
  have counted : minSamples ≤ client.udpEst.n := tracks.count ▸ size
  have range := tracks.offset_range (fun s member => (heard s member).bounded) counted
  have answers := Estimator.syncedNsAt_eq_some_iff counted range ap serverNs
  rwa [(tracks.fitted size).offset] at answers

/-- An answer of a hearing client is a translation of its own clock. -/
theorem Client.syncedNsAtOwnTsf_eq_some_iff {airTime : U128 → Int} {error : Int}
    {client : Client channel} {log : List Effect} (hears : client.Hears airTime error log)
    (recorded : client.Recorded checks log) (enough : 8 ≤ (fedSamples log).length)
    {own ap : U64} (converted : client.ownTsfToApTsf own = some ap) (serverNs : U128) :
    client.syncedNsAtOwnTsf own = some serverNs ↔
      (serverNs.toNat : Int) =
        meanOffset (window windowSize (fedSamples log)) + 1000 * ap.toNat := by
  unfold Client.syncedNsAtOwnTsf
  rw [converted, Option.bind_eq_bind, Option.bind_some]
  exact hears.syncedNsAt_eq_some_iff recorded enough ap serverNs

/-- Its mean is what the packets of the window say, up to the errors they are heard with. -/
theorem Client.Hears.mean_between {airTime : U128 → Int} {error : Int} {client : Client channel}
    {log : List Effect} (hears : client.Hears airTime error log)
    (recorded : client.Recorded checks log) (enough : 8 ≤ (fedSamples log).length) {low high : Int}
    (offsets : ∀ s ∈ window windowSize (fedSamples log),
      low ≤ s.serverNs.toNat - 1000 * airTime s.serverNs ∧
        s.serverNs.toNat - 1000 * airTime s.serverNs ≤ high) :
    low - 1000 * error ≤ meanOffset (window windowSize (fedSamples log)) ∧
      meanOffset (window windowSize (fedSamples log)) ≤ high + 1000 * error := by
  have heard := (hears.tracks recorded).1
  have nonempty : window windowSize (fedSamples log) ≠ [] := by
    intro empty
    have size := minSamples_le_window enough
    rw [empty] at size
    exact absurd size (by decide)
  refine meanOffset_between nonempty fun s member => ?_
  have near := abs_le.mp (heard s (mem_of_mem_window member)).near
  have offset := offsets s member
  unfold Sample.exactOffset
  constructor
  · omega
  · omega

/-- It answers every time of the access point that is not before server time zero. -/
theorem Client.Hears.exists_syncedNsAt {airTime : U128 → Int} {error : Int}
    {client : Client channel} {log : List Effect} (hears : client.Hears airTime error log)
    (recorded : client.Recorded checks log) (enough : 8 ≤ (fedSamples log).length) {ap : U64}
    (nonneg : 0 ≤ meanOffset (window windowSize (fedSamples log)) + 1000 * ap.toNat) :
    ∃ serverNs, client.udpEst.syncedNsAt ap = some serverNs := by
  obtain ⟨heard, tracks⟩ := hears.tracks recorded
  have size := minSamples_le_window enough
  have range := tracks.offset_range (fun s member => (heard s member).bounded) (tracks.count ▸ size)
  rw [(tracks.fitted size).offset] at range
  have reading := ap.isLt
  refine ⟨BitVec.ofNat 128 (meanOffset (window windowSize (fedSamples log)) +
    1000 * ap.toNat).toNat, (hears.syncedNsAt_eq_some_iff recorded enough ap _).mpr ?_⟩
  rw [BitVec.toNat_ofNat, Nat.mod_eq_of_lt (by omega)]
  omega

/-- The conversion of an own reading taken at about this moment. -/
theorem Client.Hears.conversion {airTime : U128 → Int} {skew anchorError packetError error : Int}
    {client : Client channel} {log : List Effect} (hears : client.Hears airTime error log)
    (hearing : Hearing airTime skew anchorError packetError log)
    (recorded : client.Recorded checks log) (fed : fedSamples log ≠ []) {own : U64}
    (small : own.toNat < 2 ^ 60) {moment readError : Int}
    (read : |(own.toNat : Int) + skew - moment| ≤ readError) :
    (∀ ap, client.ownTsfToApTsf own = some ap →
      |(ap.toNat : Int) - moment| ≤ anchorError + readError) ∧
    (anchorError + readError ≤ moment → ∃ ap, client.ownTsfToApTsf own = some ap) := by
  have anchored := hears.anchored (List.append_ne_nil_of_left_ne_nil fed _)
  obtain ⟨anchor, last⟩ : ∃ anchor, (acceptedAnchors log).getLast? = some anchor :=
    ⟨_, List.getLast?_eq_getLast_of_ne_nil anchored⟩
  have accepted := List.mem_of_getLast? last
  have latest := recorded.anchor.trans last
  obtain ⟨apRange, ownRange⟩ := hearing.anchorRange anchor accepted
  have converts := Client.ownTsfToApTsf_eq_some_iff latest apRange ownRange small
  have near := abs_le.mp (hearing.anchors anchor accepted)
  have close := abs_le.mp read
  constructor
  · intro ap converted
    have value := (converts ap).mp converted
    exact abs_le.mpr ⟨by omega, by omega⟩
  · intro late
    refine ⟨BitVec.ofNat 64 (own.toNat + anchor.apTsfUs.toNat - anchor.ownTsfUs.toNat),
      (converts _).mpr ?_⟩
    rw [BitVec.toNat_ofNat, Nat.mod_eq_of_lt (by omega)]
    omega

/-- **The clock of a client is as accurate as its packets.** In every run that hears within its
errors, once eight samples are fed, an own reading below `2 ^ 60` taken at a moment of the access
point's clock is answered by the server time of that moment, up to the spread of what the packets
of the window say of it and the errors of the readings. It is answered when the moment is past
the zero of that clock by the errors of an anchor and the reading, and past server time zero
by all errors. -/
theorem clock_accurate (fifo : channel.Fifo channelDepth) {airTime : U128 → Int}
    {skew anchorError packetError : Int} {actions : List Action} {client : Client channel}
    {log : List Effect} (ran : (tracedClient checks channel).run actions = .ok (client, log))
    (hearing : Hearing airTime skew anchorError packetError log)
    (enough : 8 ≤ (fedSamples log).length) {low high : Int}
    (offsets : ∀ s ∈ window windowSize (fedSamples log),
      low ≤ s.serverNs.toNat - 1000 * airTime s.serverNs ∧
        s.serverNs.toNat - 1000 * airTime s.serverNs ≤ high)
    {own : U64} (small : own.toNat < 2 ^ 60) {moment readError : Int}
    (read : |(own.toNat : Int) + skew - moment| ≤ readError) :
    (∀ serverNs, client.syncedNsAtOwnTsf own = some serverNs →
      low + 1000 * moment - 1000 * (2 * anchorError + packetError + readError) ≤ serverNs.toNat ∧
        serverNs.toNat ≤ high + 1000 * moment + 1000 * (2 * anchorError + packetError + readError)) ∧
    (anchorError + readError ≤ moment →
      1000 * (2 * anchorError + packetError + readError) ≤ low + 1000 * moment →
        ∃ serverNs, client.syncedNsAtOwnTsf own = some serverNs) := by
  have hears := hears_of_run fifo ran hearing
  have recorded := recorded_of_run ran
  have fed : fedSamples log ≠ [] := by
    rintro empty
    rw [empty] at enough
    exact absurd enough (by decide)
  obtain ⟨close, converts⟩ := hears.conversion hearing recorded fed small read
  have mean := hears.mean_between recorded enough offsets
  constructor
  · intro serverNs answer
    obtain ⟨ap, converted, _⟩ := Option.bind_eq_some_iff.mp answer
    have value := (Client.syncedNsAtOwnTsf_eq_some_iff hears recorded enough converted
      serverNs).mp answer
    have near := abs_le.mp (close ap converted)
    omega
  · intro late positive
    obtain ⟨ap, converted⟩ := converts late
    have near := abs_le.mp (close ap converted)
    have nonneg : 0 ≤ meanOffset (window windowSize (fedSamples log)) + 1000 * ap.toNat := by omega
    obtain ⟨serverNs, answer⟩ := hears.exists_syncedNsAt recorded enough nonneg
    refine ⟨serverNs, ?_⟩
    unfold Client.syncedNsAtOwnTsf
    rw [converted, Option.bind_eq_bind, Option.bind_some]
    exact answer

/-- A client that hears one beacon and eight packets, its own clock at this when the one of the
access point is at 7000 µs. -/
def hearingSession (ownTsfUs : U64) : List Action :=
  .poll (some homeBssid) :: .receive (.ofBeacon homeBssid 7000 1000 ownTsfUs) :: .consume ::
    .consume :: (List.replicate 8 [.receive (.ofPacket ⟨magicBytes, 1, 9000000⟩ 1500
      (ownTsfUs + 500)), .consume, .consume, .consume]).flatten

/-- A trace of such a session hears without errors. -/
theorem hearing_of_session {log : List Effect} {ownTsfUs : U64} (range : ownTsfUs.toNat < 2 ^ 59)
    (anchors : acceptedAnchors log = [⟨1000, ownTsfUs, 7000, 0⟩])
    (events : enqueuedEvents log = .beacon ⟨1000, ownTsfUs, 7000, 0⟩ ::
      List.replicate 8 (.udp 9000000 (ownTsfUs + 500))) :
    Hearing (fun _ => 7500) (7000 - ownTsfUs.toNat) 0 0 log := by
  have packet : ∀ serverNs own, .udp serverNs own ∈ enqueuedEvents log →
      serverNs = 9000000 ∧ own.toNat = ownTsfUs.toNat + 500 := by
    intro serverNs own member
    rw [events, List.mem_cons, List.mem_replicate] at member
    rcases member with beacon | ⟨_, same⟩
    · contradiction
    · obtain ⟨rfl, rfl⟩ := SnifferEvent.udp.inj same
      refine ⟨rfl, ?_⟩
      rw [BitVec.toNat_add]
      change (ownTsfUs.toNat + 500) % 2 ^ 64 = _
      omega
  refine ⟨?_, ?_, fun serverNs own member => ?_, fun serverNs own member => ?_⟩
  · rw [anchors, List.forall_mem_singleton]
    exact ⟨show 7000 < 2 ^ 60 by decide, show ownTsfUs.toNat < 2 ^ 60 by omega⟩
  · rw [anchors, List.forall_mem_singleton]
    change |(7000 : Int) - ownTsfUs.toNat - _| ≤ 0
    rw [sub_self, abs_zero]
  · obtain ⟨rfl, own⟩ := packet serverNs own member
    exact ⟨by decide, by omega⟩
  · obtain ⟨_, same⟩ := packet serverNs own member
    exact abs_le.mpr ⟨by omega, by omega⟩

/-- Two such sessions run to their ends. -/
theorem hearingSession_ran {ownTsfUs : U64} (either : ownTsfUs = 5000 ∨ ownTsfUs = 6000) :
    ∃ client log, (tracedClient .enabled (Channel.ofList SnifferEvent channelDepth)).run
        (hearingSession ownTsfUs) = .ok (client, log) ∧
      Hearing (fun _ => 7500) (7000 - ownTsfUs.toNat) 0 0 log ∧
      acceptedAnchors log = [⟨1000, ownTsfUs, 7000, 0⟩] ∧
      fedSamples log = List.replicate 8 ⟨9000000, 7500⟩ := by
  have range : ownTsfUs.toNat < 2 ^ 59 := by
    rcases either with rfl | rfl
    · decide
    · decide
  obtain ⟨⟨client, log⟩, ran, seen⟩ := exists_of_map_eq_ok (show
    ((tracedClient .enabled (Channel.ofList SnifferEvent channelDepth)).run
      (hearingSession ownTsfUs)).map (fun state =>
        (acceptedAnchors state.2, enqueuedEvents state.2, fedSamples state.2)) =
      .ok ([⟨1000, ownTsfUs, 7000, 0⟩], .beacon ⟨1000, ownTsfUs, 7000, 0⟩ ::
        List.replicate 8 (.udp 9000000 (ownTsfUs + 500)), List.replicate 8 ⟨9000000, 7500⟩) by
          rcases either with rfl | rfl
          · decide +kernel
          · decide +kernel)
  obtain ⟨anchors, seen⟩ := Prod.mk.inj seen
  obtain ⟨events, fed⟩ := Prod.mk.inj seen
  exact ⟨client, log, ran, hearing_of_session range anchors events, anchors, fed⟩

/-- Every sample of a session says the same of the server time. -/
theorem hearingSession_offsets {log : List Effect}
    (fed : fedSamples log = List.replicate 8 ⟨9000000, 7500⟩) :
    8 ≤ (fedSamples log).length ∧ ∀ s ∈ window windowSize (fedSamples log),
      (1500000 : Int) ≤ s.serverNs.toNat - 1000 * 7500 ∧
        s.serverNs.toNat - 1000 * 7500 ≤ (1500000 : Int) := by
  constructor
  · rw [fed, List.length_replicate]
  · intro s member
    have inside := mem_of_mem_window member
    rw [fed] at inside
    rw [List.eq_of_mem_replicate inside]
    decide

/-- A microsecond after the packets. -/
theorem clock_accurate_session :
    ∃ client log, (tracedClient .enabled (Channel.ofList SnifferEvent channelDepth)).run
        (hearingSession 5000) = .ok (client, log) ∧
      ∃ serverNs, client.syncedNsAtOwnTsf 5501 = some serverNs ∧ serverNs.toNat = 9001000 := by
  obtain ⟨client, log, ran, hearing, _, fed⟩ := hearingSession_ran (.inl rfl)
  obtain ⟨enough, offsets⟩ := hearingSession_offsets fed
  have read : |((5501 : U64).toNat : Int) + (7000 - (5000 : U64).toNat) - 7501| ≤ 0 := by decide
  obtain ⟨accurate, answered⟩ := clock_accurate (Channel.ofListFifo SnifferEvent channelDepth) ran
    hearing enough offsets (by decide) read
  obtain ⟨serverNs, answer⟩ := answered (by decide) (by decide)
  have bounds := accurate serverNs answer
  exact ⟨client, log, ran, serverNs, answer, by omega⟩

end EspClockSync
