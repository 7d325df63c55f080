import EspClockSync.Verif.ClientSteps

/-!
# Traces account for the cells

The trace of a run determines the cells: the latest anchor is the last accepted
one, the estimator and the instant filter have observed exactly the samples and
anchors of the trace, and the channel holds what was enqueued and not yet taken.
-/

namespace EspClockSync

open Machine

variable {channel : Channel SnifferEvent} {checks : OverflowChecks}

/-- The client reaches exactly the states that some trace reaches. -/
theorem reached_iff_traced {actions : List Action} {client : Client channel} :
    (clientSystem checks channel).run actions = .ok client ↔
      ∃ log, (tracedClient checks channel).run actions = .ok (client, log) := by
  constructor
  · intro reached
    exact System.observed_of_run Client.effects reached
  · rintro ⟨log, ran⟩
    exact System.run_of_observed ran

/-- Induction along a traced run, one outcome at a time. -/
theorem traced_induction {motive : List Action → Client channel → List Effect → Prop}
    (start : motive [] (Client.boot channel) [])
    (step : ∀ actions before log action after effects,
      (tracedClient checks channel).run actions = .ok (before, log) → motive actions before log →
      before.Stepped checks action after effects → motive (actions ++ [action]) after (log ++ effects))
    {actions : List Action} {client : Client channel} {log : List Effect}
    (ran : (tracedClient checks channel).run actions = .ok (client, log)) :
    motive actions client log := by
  refine System.run_induction (motive := fun actions state => motive actions state.1 state.2) start
    (fun actions before action after earlier held stepped => ?_) ran
  obtain ⟨taken, logged⟩ := System.observed_step_ok stepped
  rw [logged]
  exact step actions before.1 before.2 action after.1 _ earlier held (Client.stepped_of_step taken)

/-- A condition on every step of a run that amounts to a condition on the effects of
each step is that condition on the trace. -/
theorem traced_eachStep_iff {holds : Client channel × List Effect → Action → Prop}
    (clean : List Effect → Prop) (nothing : clean [])
    (append : ∀ log more, clean (log ++ more) ↔ clean log ∧ clean more)
    (step : ∀ before log action after effects,
      before.Stepped checks action after effects → (holds (before, log) action ↔ clean effects))
    {actions : List Action} {client : Client channel} {log : List Effect}
    (ran : (tracedClient checks channel).run actions = .ok (client, log)) :
    clean log ↔ (tracedClient checks channel).EachStep holds actions := by
  refine traced_induction (motive := fun actions _ log => clean log ↔
    (tracedClient checks channel).EachStep holds actions)
    (iff_of_true nothing (System.eachStep_nil _ _))
    (fun actions before log action after effects reached same stepped => ?_) ran
  rw [System.eachStep_concat reached, ← same, step before log action after effects stepped, append]

/-! ## Anchors and samples -/

/-- What the instant filter observes of an anchor. -/
def BeaconAnchor.instantObservation (anchor : BeaconAnchor) : Int × Int :=
  (anchor.instantUs.toInt, wrapI64 (anchor.apTsfUs.toInt - anchor.instantUs.toInt))

/-- The cells fed by beacons and packets hold what the trace says. -/
structure Client.Recorded (checks : OverflowChecks) (client : Client channel)
    (log : List Effect) : Prop where
  /-- The anchor is the last accepted one. -/
  anchor : client.latestBeacon = (acceptedAnchors log).getLast?
  /-- The instant filter has observed the accepted anchors. -/
  filter : AlphaBetaFilter.observeAll checks (AlphaBetaFilter.new 16 2048)
    ((acceptedAnchors log).map BeaconAnchor.instantObservation) = .ok client.apTsfMinusInstantFilter
  /-- The estimator has observed the fed samples. -/
  udp : Estimator.observeAll checks (fedSamples log) = .ok client.udpEst
  /-- Fed readings are below the sign bit. -/
  readings : ∀ s ∈ fedSamples log, s.localUs.toNat < 2 ^ 63
  /-- So is a reading about to be fed. -/
  converted : ∀ serverNs own ap, client.consumer = .udpConverted serverNs own ap →
    ap.toNat < 2 ^ 63

/-- A converted reading is below the sign bit. -/
theorem Client.ownTsfToApTsf_lt {client : Client channel} {own ap : U64}
    (converted : client.ownTsfToApTsf own = some ap) : ap.toNat < 2 ^ 63 := by
  obtain ⟨anchor, _, converted⟩ := Option.bind_eq_some_iff.mp converted
  dsimp only at converted
  split at converted
  · contradiction
  · rename_i nonnegative
    have range := wrapI64_fits (anchor.apTsfUs.toInt + wrapI64 (own.toInt - anchor.ownTsfUs.toInt))
    rw [← Option.some.inj converted, BitVec.toNat_ofInt]
    obtain ⟨_, upper⟩ := range
    omega

/-- An accepted beacon is recorded. -/
theorem Client.Recorded.anchored {client : Client channel} {log effects : List Effect}
    (recorded : client.Recorded checks log) {packet : Reception} {updated : Int}
    {instant extra : AlphaBetaFilter}
    (accepts : client.Accepts checks packet updated instant extra) (samples : channel.Buffer)
    (oneAnchor : acceptedAnchors effects = [packet.anchor]) (noSample : fedSamples effects = []) :
    { client.anchored updated packet instant extra with samples := samples }.Recorded checks
      (log ++ effects) where
  anchor := by
    rw [acceptedAnchors_append, oneAnchor, List.getLast?_concat]
    rfl
  filter := by
    have earlier := recorded.filter
    unfold AlphaBetaFilter.observeAll at earlier ⊢
    rw [acceptedAnchors_append, oneAnchor, List.map_append, List.map_singleton, foldlM_concat,
      earlier]
    exact accepts.observed
  udp := by
    rw [fedSamples_append, noSample, List.append_nil]
    exact recorded.udp
  readings := by
    rw [fedSamples_append, noSample, List.append_nil]
    exact recorded.readings
  converted := recorded.converted

/-- What leaves anchors and samples alone keeps the record. -/
theorem Client.Recorded.kept {client after : Client channel} {log effects : List Effect}
    (recorded : client.Recorded checks log) (noAnchor : acceptedAnchors effects = [])
    (noSample : fedSamples effects = []) (sameAnchor : after.latestBeacon = client.latestBeacon)
    (sameFilter : after.apTsfMinusInstantFilter = client.apTsfMinusInstantFilter)
    (sameUdp : after.udpEst = client.udpEst)
    (converted : ∀ serverNs own ap, after.consumer = .udpConverted serverNs own ap →
      ap.toNat < 2 ^ 63) :
    after.Recorded checks (log ++ effects) where
  anchor := by
    rw [acceptedAnchors_append, noAnchor, List.append_nil, sameAnchor]
    exact recorded.anchor
  filter := by
    rw [acceptedAnchors_append, noAnchor, List.append_nil, sameFilter]
    exact recorded.filter
  udp := by
    rw [fedSamples_append, noSample, List.append_nil, sameUdp]
    exact recorded.udp
  readings := by
    rw [fedSamples_append, noSample, List.append_nil]
    exact recorded.readings
  converted := converted

/-- Every step keeps the record. -/
theorem Client.Recorded.stepped {client after : Client channel} {log effects : List Effect}
    {action : Action} (recorded : client.Recorded checks log)
    (stepped : client.Stepped checks action after effects) :
    after.Recorded checks (log ++ effects) := by
  cases stepped with
  | usedBeacon packet updated instant extra samples accepts sent =>
    exact recorded.anchored accepts samples rfl rfl
  | lostBeacon packet updated instant extra accepts full =>
    exact recorded.anchored accepts client.samples rfl rfl
  | polled info =>
    obtain ⟨locked, prev, same⟩ := client.pollApBssid_eq info
    rw [same]
    exact recorded.kept rfl rfl rfl rfl rfl recorded.converted
  | tookBeacon | tookUdp | fedBeacon | droppedUdp =>
    refine recorded.kept rfl rfl rfl rfl rfl fun _ _ _ same => ?_
    contradiction
  | convertedUdp serverNs own ap holding converted =>
    refine recorded.kept rfl rfl rfl rfl rfl fun _ _ _ same => ?_
    obtain ⟨_, _, rfl⟩ := Consumer.udpConverted.inj same
    exact Client.ownTsfToApTsf_lt converted
  | fedUdp serverNs own ap est holding observed =>
    have noAnchor : acceptedAnchors
      [.fed ⟨serverNs, ap⟩, .consumed (.udp serverNs own)] = [] := rfl
    have oneSample : fedSamples
      [.fed ⟨serverNs, ap⟩, .consumed (.udp serverNs own)] = [⟨serverNs, ap⟩] := rfl
    refine ⟨?_, ?_, ?_, ?_, fun _ _ _ same => ?_⟩
    · rw [acceptedAnchors_append, noAnchor, List.append_nil]
      exact recorded.anchor
    · rw [acceptedAnchors_append, noAnchor, List.append_nil]
      exact recorded.filter
    · have earlier := recorded.udp
      unfold Estimator.observeAll at earlier ⊢
      rw [fedSamples_append, oneSample, foldlM_concat, earlier]
      exact observed
    · rw [fedSamples_append, oneSample]
      intro s member
      rcases List.mem_append.mp member with member | member
      · exact recorded.readings s member
      · rw [List.mem_singleton.mp member]
        exact recorded.converted serverNs own ap holding
    · contradiction
  | foreignBeacon | unmatchedFrame | matchedFrame | droppedFrame | waited | queried =>
    exact recorded.kept rfl rfl rfl rfl rfl recorded.converted

/-- Every reached state is recorded by its trace. -/
theorem recorded_of_run {actions : List Action} {client : Client channel} {log : List Effect}
    (ran : (tracedClient checks channel).run actions = .ok (client, log)) :
    client.Recorded checks log :=
  traced_induction (motive := fun _ client log => client.Recorded checks log)
    ⟨rfl, rfl, rfl, fun _ member => absurd member List.not_mem_nil, fun _ _ _ same => by
      contradiction⟩
    (fun _ _ _ _ _ _ _ recorded stepped => recorded.stepped stepped) ran

/-! ## Events -/

/-- The channel and the consumer hold what the trace says. -/
structure Client.Queued (fifo : channel.Fifo channelDepth) (client : Client channel)
    (log : List Effect) : Prop where
  /-- What was enqueued was taken in order or is still queued. -/
  queue : enqueuedEvents log = receivedEvents log ++ fifo.contents client.samples
  /-- What was taken was consumed in order or is in the consumer's hands. -/
  taken : receivedEvents log = consumedEvents log ++ client.consumer.inHand

/-- An event joins the queue. -/
theorem Client.Queued.enqueued {fifo : channel.Fifo channelDepth} {client after : Client channel}
    {log effects : List Effect} (queued : client.Queued fifo log) {event : SnifferEvent}
    (sent : channel.trySend client.samples event = some after.samples)
    (sameConsumer : after.consumer = client.consumer) (one : enqueuedEvents effects = [event])
    (noReceived : receivedEvents effects = []) (noConsumed : consumedEvents effects = []) :
    after.Queued fifo (log ++ effects) where
  queue := by
    simp only [enqueuedEvents_append, receivedEvents_append, one, noReceived, queued.queue,
      fifo.contents_of_trySend sent, List.append_nil, List.append_assoc]
  taken := by
    simp only [receivedEvents_append, consumedEvents_append, noReceived, noConsumed,
      List.append_nil, sameConsumer]
    exact queued.taken

/-- The consumer takes an event off the queue. -/
theorem Client.Queued.received {fifo : channel.Fifo channelDepth} {client after : Client channel}
    {log effects : List Effect} (queued : client.Queued fifo log) {event : SnifferEvent}
    (receiving : client.consumer = .receiving)
    (taken : channel.receive client.samples = some (event, after.samples))
    (inHand : after.consumer.inHand = [event]) (noEnqueued : enqueuedEvents effects = [])
    (one : receivedEvents effects = [event]) (noConsumed : consumedEvents effects = []) :
    after.Queued fifo (log ++ effects) where
  queue := by
    simp only [enqueuedEvents_append, receivedEvents_append, noEnqueued, one, queued.queue,
      fifo.contents_of_receive taken, List.append_nil, List.append_assoc, List.cons_append,
      List.nil_append]
  taken := by
    have nothing : client.consumer.inHand = [] := by
      rw [receiving]
      rfl
    simp only [receivedEvents_append, consumedEvents_append, one, noConsumed, queued.taken,
      nothing, inHand, List.append_nil]

/-- The consumer goes on with the event in its hands, or finishes it. -/
theorem Client.Queued.handled {fifo : channel.Fifo channelDepth} {client after : Client channel}
    {log effects : List Effect} (queued : client.Queued fifo log)
    (sameSamples : after.samples = client.samples)
    (inHand : client.consumer.inHand = consumedEvents effects ++ after.consumer.inHand)
    (noEnqueued : enqueuedEvents effects = []) (noReceived : receivedEvents effects = []) :
    after.Queued fifo (log ++ effects) where
  queue := by
    simp only [enqueuedEvents_append, receivedEvents_append, noEnqueued, noReceived,
      List.append_nil, sameSamples]
    exact queued.queue
  taken := by
    simp only [receivedEvents_append, consumedEvents_append, noReceived, queued.taken, inHand,
      List.append_nil, List.append_assoc]

/-- Every step keeps the account of the queue. -/
theorem Client.Queued.stepped {fifo : channel.Fifo channelDepth} {client after : Client channel}
    {log effects : List Effect} {action : Action} (queued : client.Queued fifo log)
    (stepped : client.Stepped checks action after effects) :
    after.Queued fifo (log ++ effects) := by
  cases stepped with
  | usedBeacon packet updated instant extra samples accepts sent =>
    exact queued.enqueued sent rfl rfl rfl rfl
  | matchedFrame packet updated pkt samples matched sent =>
    exact queued.enqueued sent rfl rfl rfl rfl
  | tookBeacon anchor samples receiving taken =>
    exact queued.received receiving taken rfl rfl rfl rfl
  | tookUdp serverNs own samples receiving taken =>
    exact queued.received receiving taken rfl rfl rfl rfl
  | fedBeacon anchor est holding observed =>
    exact queued.handled rfl (by rw [holding]; rfl) rfl rfl
  | droppedUdp serverNs own holding missing =>
    exact queued.handled rfl (by rw [holding]; rfl) rfl rfl
  | convertedUdp serverNs own ap holding converted =>
    exact queued.handled rfl (by rw [holding]; rfl) rfl rfl
  | fedUdp serverNs own ap est holding observed =>
    exact queued.handled rfl (by rw [holding]; rfl) rfl rfl
  | polled info =>
    obtain ⟨locked, prev, same⟩ := client.pollApBssid_eq info
    rw [same]
    exact queued.handled rfl rfl rfl rfl
  | lostBeacon | foreignBeacon | unmatchedFrame | droppedFrame | waited | queried =>
    exact queued.handled rfl rfl rfl rfl

/-- Every reached state accounts for its events. -/
theorem queued_of_run (fifo : channel.Fifo channelDepth) {actions : List Action}
    {client : Client channel} {log : List Effect}
    (ran : (tracedClient checks channel).run actions = .ok (client, log)) :
    client.Queued fifo log :=
  traced_induction (motive := fun _ client log => client.Queued fifo log)
    ⟨fifo.contents_new.symm, rfl⟩
    (fun _ _ _ _ _ _ _ queued stepped => queued.stepped stepped) ran

end EspClockSync
