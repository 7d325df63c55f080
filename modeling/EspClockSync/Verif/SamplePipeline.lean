import EspClockSync.Verif.ClientTrace
import EspClockSync.Verif.TsfConversion

/-!
# The sample pipeline

A packet is converted to AP time when it is consumed, by the anchor of that
moment. While all anchors stand at one difference between the two TSF clocks that
moment does not matter: the estimator is fed what immediate conversion of the
consumed packets would have fed it.
-/

namespace EspClockSync

open Machine

variable {channel : Channel SnifferEvent} {checks : OverflowChecks}

/-- A trace from its first accepted beacon on. -/
def sinceAnchored (log : List Effect) : List Effect :=
  log.dropWhile fun effect => effect.anchor.isNone

/-- The sample of a packet under one difference between the TSF clocks; beacons make
no sample, and readings with the sign bit set are refused. -/
def convertedSample (delta : U64) : SnifferEvent → Option Sample
  | .beacon _ => none
  | .udp serverNs ownTsfUs =>
    if (ownTsfUs + delta).toNat < 2 ^ 63 then some ⟨serverNs, ownTsfUs + delta⟩ else none

/-- The sample of a packet is made of its translated reading. -/
theorem convertedSample_udp (delta : U64) (serverNs : U128) (own : U64) :
    convertedSample delta (.udp serverNs own) =
      (if (own + delta).toNat < 2 ^ 63 then some (own + delta) else none).map fun ap =>
        ⟨serverNs, ap⟩ := by
  unfold convertedSample
  dsimp only
  split
  · rfl
  · rfl

/-- A trace without accepted beacons has no part after the first. -/
theorem sinceAnchored_eq_nil_iff (log : List Effect) :
    sinceAnchored log = [] ↔ acceptedAnchors log = [] := by
  unfold sinceAnchored acceptedAnchors
  rw [List.dropWhile_eq_nil_iff, List.filterMap_eq_nil_iff]
  simp only [Option.isNone_iff_eq_none]

/-- After a first accepted beacon everything is after it. -/
theorem sinceAnchored_append_of_ne {log : List Effect} (anchored : acceptedAnchors log ≠ [])
    (more : List Effect) : sinceAnchored (log ++ more) = sinceAnchored log ++ more := by
  have nonempty := (sinceAnchored_eq_nil_iff log).not.mpr anchored
  unfold sinceAnchored at nonempty ⊢
  rw [List.dropWhile_append, if_neg (by simpa using nonempty)]

/-- Before one, nothing earlier counts. -/
theorem sinceAnchored_append_of_eq {log : List Effect} (unanchored : acceptedAnchors log = [])
    (more : List Effect) : sinceAnchored (log ++ more) = sinceAnchored more := by
  have empty := (sinceAnchored_eq_nil_iff log).mpr unanchored
  unfold sinceAnchored at empty ⊢
  rw [List.dropWhile_append, empty, if_pos List.isEmpty_nil]

/-- The samples fed are the conversions of the packets consumed. -/
structure Client.Delivered (delta : U64) (client : Client channel) (log : List Effect) : Prop where
  /-- Everything consumed since the first anchor was converted and fed. -/
  fed : fedSamples log = (consumedEvents (sinceAnchored log)).filterMap (convertedSample delta)
  /-- A packet in conversion will be fed as its conversion. -/
  inHand : ∀ serverNs own ap, client.consumer = .udpConverted serverNs own ap →
    acceptedAnchors log ≠ [] ∧ convertedSample delta (.udp serverNs own) = some ⟨serverNs, ap⟩

/-- One difference for all anchors makes the conversion a fixed translation. -/
theorem Client.ownTsfToApTsf_of_delta {client : Client channel} {log : List Effect} {delta : U64}
    (recorded : client.Recorded checks log)
    (oneDelta : ∀ anchor ∈ acceptedAnchors log, anchor.apTsfUs - anchor.ownTsfUs = delta)
    (anchored : acceptedAnchors log ≠ []) (own : U64) :
    client.ownTsfToApTsf own =
      if (own + delta).toNat < 2 ^ 63 then some (own + delta) else none := by
  obtain ⟨anchor, last⟩ : ∃ anchor, (acceptedAnchors log).getLast? = some anchor :=
    ⟨_, List.getLast?_eq_getLast_of_ne_nil anchored⟩
  rw [Client.ownTsfToApTsf_eq (recorded.anchor.trans last),
    oneDelta anchor (List.mem_of_getLast? last)]

/-- What neither consumes nor feeds keeps the delivery. -/
theorem Client.Delivered.kept {delta : U64} {client after : Client channel}
    {log effects : List Effect} (delivered : client.Delivered delta log)
    (noSample : fedSamples effects = [])
    (noConversion : (consumedEvents effects).filterMap (convertedSample delta) = [])
    (noConversionSince :
      (consumedEvents (sinceAnchored effects)).filterMap (convertedSample delta) = [])
    (inHand : ∀ serverNs own ap, after.consumer = .udpConverted serverNs own ap →
      acceptedAnchors (log ++ effects) ≠ [] ∧
        convertedSample delta (.udp serverNs own) = some ⟨serverNs, ap⟩) :
    after.Delivered delta (log ++ effects) where
  fed := by
    rw [fedSamples_append, noSample, List.append_nil, delivered.fed]
    by_cases unanchored : acceptedAnchors log = []
    · rw [sinceAnchored_append_of_eq unanchored, noConversionSince,
        (sinceAnchored_eq_nil_iff log).mpr unanchored]
      rfl
    · rw [sinceAnchored_append_of_ne unanchored, consumedEvents_append, List.filterMap_append,
        noConversion, List.append_nil]
  inHand := inHand

/-- A packet in conversion stays so while the consumer does not run. -/
theorem Client.Delivered.inHand_append {delta : U64} {client : Client channel}
    {log : List Effect} (delivered : client.Delivered delta log) (effects : List Effect) :
    ∀ serverNs own ap, client.consumer = .udpConverted serverNs own ap →
      acceptedAnchors (log ++ effects) ≠ [] ∧
        convertedSample delta (.udp serverNs own) = some ⟨serverNs, ap⟩ := by
  intro serverNs own ap same
  obtain ⟨anchored, converted⟩ := delivered.inHand serverNs own ap same
  refine ⟨?_, converted⟩
  rw [acceptedAnchors_append]
  exact List.append_ne_nil_of_left_ne_nil anchored _

/-- Every step keeps the delivery while the anchors agree. -/
theorem Client.Delivered.stepped {delta : U64} {client after : Client channel}
    {log effects : List Effect} {action : Action} (delivered : client.Delivered delta log)
    (recorded : client.Recorded checks log)
    (oneDelta : ∀ anchor ∈ acceptedAnchors log, anchor.apTsfUs - anchor.ownTsfUs = delta)
    (stepped : client.Stepped checks action after effects) :
    after.Delivered delta (log ++ effects) := by
  cases stepped with
  | usedBeacon | lostBeacon | foreignBeacon | unmatchedFrame | matchedFrame | droppedFrame
    | waited | queried =>
    exact delivered.kept rfl rfl rfl (delivered.inHand_append _)
  | polled info =>
    obtain ⟨locked, prev, same⟩ := client.pollApBssid_eq info
    rw [same]
    exact delivered.kept rfl rfl rfl (delivered.inHand_append _)
  | tookBeacon | tookUdp | fedBeacon =>
    refine delivered.kept rfl rfl rfl fun _ _ _ same => ?_
    contradiction
  | droppedUdp serverNs own holding missing =>
    by_cases unanchored : acceptedAnchors log = []
    · refine ⟨?_, fun _ _ _ same => by contradiction⟩
      rw [fedSamples_append, delivered.fed, sinceAnchored_append_of_eq unanchored,
        (sinceAnchored_eq_nil_iff log).mpr unanchored]
      rfl
    · rw [Client.ownTsfToApTsf_of_delta recorded oneDelta unanchored] at missing
      have refused : convertedSample delta (.udp serverNs own) = none := by
        rw [convertedSample_udp, missing]
        rfl
      refine delivered.kept rfl ?_ rfl fun _ _ _ same => by contradiction
      simp only [consumedEvents, Effect.consumedEvent, List.filterMap_cons, refused,
        List.filterMap_nil]
  | convertedUdp serverNs own ap holding converted =>
    have anchored : acceptedAnchors log ≠ [] := by
      intro unanchored
      obtain ⟨anchor, latest, _⟩ := Option.bind_eq_some_iff.mp converted
      rw [recorded.anchor, unanchored] at latest
      contradiction
    rw [Client.ownTsfToApTsf_of_delta recorded oneDelta anchored] at converted
    refine delivered.kept rfl rfl rfl fun _ _ _ same => ?_
    obtain ⟨rfl, rfl, rfl⟩ := Consumer.udpConverted.inj same
    constructor
    · rw [acceptedAnchors_append]
      exact List.append_ne_nil_of_left_ne_nil anchored _
    · rw [convertedSample_udp, converted]
      rfl
  | fedUdp serverNs own ap est holding observed =>
    obtain ⟨anchored, converted⟩ := delivered.inHand serverNs own ap holding
    refine ⟨?_, fun _ _ _ same => by contradiction⟩
    rw [fedSamples_append, delivered.fed, sinceAnchored_append_of_ne anchored,
      consumedEvents_append, List.filterMap_append]
    simp only [fedSamples, Effect.fedSample, consumedEvents, Effect.consumedEvent,
      List.filterMap_cons, List.filterMap_nil, converted]

/-- Every reached state delivered while the anchors agree. -/
theorem delivered_of_run {delta : U64} {actions : List Action} {client : Client channel}
    {log : List Effect} (ran : (tracedClient checks channel).run actions = .ok (client, log))
    (oneDelta : ∀ anchor ∈ acceptedAnchors log, anchor.apTsfUs - anchor.ownTsfUs = delta) :
    client.Delivered delta log := by
  refine traced_induction (motive := fun _ client log =>
    (∀ anchor ∈ acceptedAnchors log, anchor.apTsfUs - anchor.ownTsfUs = delta) →
      client.Delivered delta log) (fun _ => ⟨rfl, fun _ _ _ same => by contradiction⟩)
    (fun _ before log _ after effects reached held stepped oneDelta => ?_) ran oneDelta
  have earlier : ∀ anchor ∈ acceptedAnchors log, anchor.apTsfUs - anchor.ownTsfUs = delta := by
    intro anchor member
    apply oneDelta
    rw [acceptedAnchors_append]
    exact List.mem_append_left _ member
  exact (held earlier).stepped (recorded_of_run reached) earlier stepped

/-- **The pipeline does not depend on the consumer's delay.** In a run whose accepted
beacons all stand at one difference between the TSF clocks, the samples fed are the
conversions of the packets consumed since the first of them, in order; what was
consumed, what is in the consumer's hands and what is queued is everything the
channel took, in order of arrival; and the estimator holds the samples fed. -/
theorem pipeline_independent_of_delay (fifo : channel.Fifo channelDepth) {actions : List Action}
    {client : Client channel} {log : List Effect} {delta : U64}
    (ran : (tracedClient checks channel).run actions = .ok (client, log))
    (oneDelta : ∀ anchor ∈ acceptedAnchors log, anchor.apTsfUs - anchor.ownTsfUs = delta) :
    fedSamples log = (consumedEvents (sinceAnchored log)).filterMap (convertedSample delta) ∧
      consumedEvents log ++ client.consumer.inHand ++ fifo.contents client.samples =
        enqueuedEvents log ∧
      Estimator.observeAll checks (fedSamples log) = .ok client.udpEst := by
  have queued := queued_of_run fifo ran
  refine ⟨(delivered_of_run ran oneDelta).fed, ?_, (recorded_of_run ran).udp⟩
  rw [queued.queue, queued.taken]

/-- A packet that waits while a second beacon replaces the anchor. -/
theorem pipeline_independent_of_delay_replaced :
    ∃ client log, (tracedClient .enabled (Channel.ofList SnifferEvent channelDepth)).run
        [.poll (some homeBssid),
          .receive (.ofBeacon homeBssid 7000 1000 5000),
          .receive (.ofPacket ⟨magicBytes, 1, 9000000⟩ 1500 5500),
          .receive (.ofBeacon homeBssid 9000 3000 7000),
          .consume, .consume, .consume, .consume, .consume] = .ok (client, log) ∧
      consumedEvents log = [.beacon ⟨1000, 5000, 7000, 0⟩, .udp 9000000 5500] ∧
      fedSamples log = [⟨9000000, 7500⟩] := by
  obtain ⟨⟨client, log⟩, ran, seen⟩ := exists_of_map_eq_ok (show
    ((tracedClient .enabled (Channel.ofList SnifferEvent channelDepth)).run
      [.poll (some homeBssid),
        .receive (.ofBeacon homeBssid 7000 1000 5000),
        .receive (.ofPacket ⟨magicBytes, 1, 9000000⟩ 1500 5500),
        .receive (.ofBeacon homeBssid 9000 3000 7000),
        .consume, .consume, .consume, .consume, .consume]).map (fun state =>
          (acceptedAnchors state.2, consumedEvents state.2,
            consumedEvents (sinceAnchored state.2))) =
      .ok ([⟨1000, 5000, 7000, 0⟩, ⟨3000, 7000, 9000, 0⟩],
        [.beacon ⟨1000, 5000, 7000, 0⟩, .udp 9000000 5500],
        [.beacon ⟨1000, 5000, 7000, 0⟩, .udp 9000000 5500]) by decide +kernel)
  obtain ⟨anchors, rest⟩ := Prod.mk.inj seen
  obtain ⟨consumed, since⟩ := Prod.mk.inj rest
  have oneDelta : ∀ anchor ∈ acceptedAnchors log, anchor.apTsfUs - anchor.ownTsfUs = 2000 := by
    rw [anchors]
    decide
  have fed := (pipeline_independent_of_delay (Channel.ofListFifo SnifferEvent channelDepth) ran
    oneDelta).1
  refine ⟨client, log, ran, consumed, ?_⟩
  rw [fed, since]
  decide

end EspClockSync
