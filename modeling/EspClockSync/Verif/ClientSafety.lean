import EspClockSync.Verif.ArithmeticSafety
import EspClockSync.Verif.ExtraTimer
import EspClockSync.Verif.FilterSafety
import EspClockSync.Verif.ForeignBeacons
import EspClockSync.Verif.PacketSearch
import EspClockSync.Verif.RxTimestamp
import EspClockSync.Verif.Timebases

/-!
# The client does not stop

The callback runs inside the radio driver: a panic there stops the device. The
client's arithmetic is plain in the moving average, in both filters and in both
estimators, and its divisions are unguarded. With times below the sign bit of a
microsecond count none of it leaves its range, in any order of callbacks, polls,
consumer steps and queries: the one way to stop a client is a query by a zero rate.
-/

namespace EspClockSync

open Machine

variable {channel : Channel SnifferEvent} {checks : OverflowChecks}

/-! ## The estimators -/

/-- A sample of two times below the sign bit of a microsecond count. -/
structure Sample.InRange (s : Sample) : Prop where
  /-- Server time. -/
  server : s.serverNs.toNat < 1000 * 2 ^ 63
  /-- Local time. -/
  reading : s.localUs.toNat < 2 ^ 63

/-- The offset of a sample in range, with room to its bounds. -/
theorem Sample.InRange.offset {s : Sample} (inRange : s.InRange) :
    -(1000 * 2 ^ 63 - 1000) ≤ s.exactOffset ∧ s.exactOffset ≤ 1000 * 2 ^ 63 - 1 := by
  obtain ⟨server, reading⟩ := inRange
  unfold Sample.exactOffset
  constructor
  · omega
  · omega

/-- Samples in range make windows that fit. -/
theorem windowFits_of_inRange {samples : List Sample} (short : samples.length ≤ windowSize)
    (inRange : ∀ s ∈ samples, s.InRange) : WindowFits samples where
  times s member := Nat.lt_trans (inRange s member).server (by decide)
  total := by
    have total := sum_between fun s member => (inRange s member).offset
    have length : samples.length ≤ 256 := short
    unfold offsetSum
    constructor
    · omega
    · omega
  spread enough s member := by
    have nonempty : samples ≠ [] := List.ne_nil_of_mem member
    have offset := (inRange s member).offset
    have mean := meanOffset_between nonempty fun t inside => (inRange t inside).offset
    omega

/-- A history of samples in range fits. -/
theorem historyFits_of_inRange {history : List Sample} (inRange : ∀ s ∈ history, s.InRange) :
    HistoryFits history := by
  intro part before
  apply windowFits_of_inRange (window_length_le windowSize part)
  intro s member
  exact inRange s (before.subset (mem_of_mem_window member))

/-- An estimator that every build has fed with samples in range and nothing else. -/
def Estimator.Ready (est : Estimator) : Prop :=
  ∃ history, (∀ checks, Estimator.observeAll checks history = .ok est) ∧
    ∀ s ∈ history, s.InRange

/-- A fresh estimator is ready. -/
theorem Estimator.Ready.fresh : Estimator.new.Ready :=
  ⟨[], fun _ => rfl, fun _ member => absurd member List.not_mem_nil⟩

/-- A ready estimator takes any sample in range, in every build. -/
theorem Estimator.Ready.observe {est : Estimator} (ready : est.Ready) {s : Sample}
    (sample : s.InRange) :
    ∃ after, (∀ checks, est.observe checks s = .ok after) ∧ after.Ready := by
  obtain ⟨history, observed, inRange⟩ := ready
  have longer : ∀ t ∈ history ++ [s], t.InRange := by
    intro t member
    rcases List.mem_append.mp member with earlier | last
    · exact inRange t earlier
    · rwa [List.mem_singleton.mp last]
  obtain ⟨after, whole, _⟩ := observeAll_of_historyFits (historyFits_of_inRange longer)
    fun t member => (longer t member).reading
  refine ⟨after, fun checks => ?_, history ++ [s], whole, longer⟩
  have returned := whole checks
  have earlier := observed checks
  unfold Estimator.observeAll at returned earlier
  rwa [foldlM_concat, earlier, ok_bind] at returned

/-! ## The filters -/

namespace AlphaBetaFilter

/-- A filter whose gains divide, seeded at most this many observations ago. -/
structure Ready (f : AlphaBetaFilter) (count : Nat) : Prop where
  /-- The gains divide. -/
  gains : 0 < f.alpha.toNat ∧ 0 < f.beta.toNat
  /-- Once seeded, the filter is bounded. -/
  bounded : f.initialized = true → ∃ first, f.Bounded first count

/-- The bounds only widen with the number of observations. -/
theorem Bounded.mono {f : AlphaBetaFilter} {first : Int} {count more : Nat}
    (bounded : f.Bounded first count) (longer : count ≤ more) : f.Bounded first more where
  running := bounded.running
  gains := bounded.gains
  seeded := bounded.seeded
  last := bounded.last
  later := bounded.later
  rate := by
    have rate := bounded.rate
    omega
  offset := by
    have offset := bounded.offset
    omega

/-- A ready filter stays ready for longer. -/
theorem Ready.mono {f : AlphaBetaFilter} {count more : Nat} (ready : f.Ready count)
    (longer : count ≤ more) : f.Ready more where
  gains := ready.gains
  bounded running := by
    obtain ⟨first, bounded⟩ := ready.bounded running
    exact ⟨first, bounded.mono longer⟩

/-- A ready filter takes any two `i64` readings, in every build. -/
theorem Ready.observe {f : AlphaBetaFilter} {count : Nat} (ready : f.Ready count)
    (short : count < 2 ^ 32) {xUs observedOffsetUs : Int} (x : I64Fits xUs)
    (y : I64Fits observedOffsetUs) :
    ∃ after : AlphaBetaFilter, (∀ checks, f.observe checks xUs observedOffsetUs = .ok after) ∧
      after.Ready (count + 1) := by
  refine ⟨f.next xUs observedOffsetUs, ?_⟩
  cases running : f.initialized with
  | false =>
    obtain ⟨fits, bounded⟩ := Bounded.seed running ready.gains x y
    exact ⟨fun checks => observe_eq_next fits, bounded.gains,
      fun _ => ⟨xUs, bounded.mono (Nat.zero_le _)⟩⟩
  | true =>
    obtain ⟨first, bounded⟩ := ready.bounded running
    have next := bounded.next short x observedOffsetUs
    exact ⟨fun checks => observe_eq_next (bounded.observeFits short x y), next.gains,
      fun _ => ⟨first, next⟩⟩

end AlphaBetaFilter

/-! ## Frames in range -/

/-- A frame whose readings are below the sign bit: the device has not run for 146,000
years, the frame was received while it ran, an access point that was polled does not
claim more than twice that age, and a packet is of the first 292,000 years. -/
structure Reception.InRange (polled : Bssid → Prop) (packet : Reception) : Prop where
  /-- The uptime. -/
  instant : packet.instantUsAtCb.toNat < 2 ^ 62
  /-- The own TSF. -/
  own : packet.ownTsfAtCb.toNat < 2 ^ 62
  /-- The hardware timestamp is one of this counter. -/
  received : packet.age.toNat ≤ packet.ownTsfAtCb.toNat
  /-- The TSF of a polled access point. -/
  beacon : packet.isBeacon = true → polled packet.bssid → packet.apTsfUs.toNat < 2 ^ 63
  /-- The time of a packet. -/
  server : ∀ pkt, SyncPacket.findInFrame packet.data = .ok (some pkt) →
    pkt.sendUnixNs.toNat < 1000 * 2 ^ 63

/-- The reconstructed timestamp is below the sign bit as well. -/
theorem Reception.InRange.ownTsf {polled : Bssid → Prop} {packet : Reception}
    (inRange : packet.InRange polled) : packet.ownTsfUs.toNat < 2 ^ 63 := by
  have own := packet.ownTsfUs_toNat
  have reading := inRange.own
  have age := inRange.received
  omega

/-- Its two clocks are a steady reading of the average. -/
theorem Reception.InRange.steady {polled : Bssid → Prop} {packet : Reception}
    (inRange : packet.InRange polled) : packet.Steady := by
  have instant := inRange.instant
  have own := inRange.own
  have instantValue := toInt_of_lt packet.instantUsAtCb (by omega)
  have ownValue := toInt_of_lt packet.ownTsfAtCb (by omega)
  have near : I64Fits (packet.instantUsAtCb.toInt - packet.ownTsfAtCb.toInt) :=
    ⟨by omega, by omega⟩
  unfold Reception.Steady
  rw [wrapI64_of_fits near]
  constructor
  · omega
  · omega

/-! ## The invariant -/

/-- An event whose sample is in range as soon as its local time is. -/
def SnifferEvent.InRange : SnifferEvent → Prop
  | .beacon anchor => (Client.beaconSample anchor).InRange
  | .udp serverNs _ => serverNs.toNat < 1000 * 2 ^ 63

/-- What keeps a client that has taken this many actions from stopping. -/
structure Client.Healthy (fifo : channel.Fifo channelDepth) (polled : Bssid → Prop) (count : Nat)
    (client : Client channel) : Prop where
  /-- The moving average. -/
  average : SteadyAverage client.instantMinusTsf
  /-- The instant filter. -/
  instant : client.apTsfMinusInstantFilter.Ready count
  /-- The extra filter. -/
  extra : client.apTsfMinusExtraFilter.Ready count
  /-- The estimator of the beacons. -/
  beacons : client.beaconEst.Ready
  /-- The estimator of the packets. -/
  packets : client.udpEst.Ready
  /-- The events in the channel. -/
  queued : ∀ event ∈ fifo.contents client.samples, event.InRange
  /-- The event in the consumer's hands. -/
  held : ∀ event ∈ client.consumer.inHand, event.InRange
  /-- A converted reading. -/
  converted : ∀ serverNs own ap, client.consumer = .udpConverted serverNs own ap →
    ap.toNat < 2 ^ 63
  /-- Only polls lock a BSSID. -/
  locked : ∀ bssid, client.lockedBssid = some bssid → polled bssid

/-- An action that a client survives. -/
def Action.InRange (polled : Bssid → Prop) : Action → Prop
  | .receive packet => packet.InRange polled
  | .poll info => ∀ bssid, info = some bssid → polled bssid
  | .consume => True
  | .queryExtra _ extraPerUsQ32 => extraPerUsQ32 ≠ 0

/-- A client is healthy as it starts. -/
theorem Client.Healthy.boot (fifo : channel.Fifo channelDepth) (polled : Bssid → Prop) :
    (Client.boot channel).Healthy fifo polled 0 where
  average := .inl rfl
  instant := ⟨(by decide : 0 < (16 : U32).toNat ∧ 0 < (2048 : U32).toNat),
    fun running => by contradiction⟩
  extra := ⟨(by decide : 0 < (512 : U32).toNat ∧ 0 < (2048 : U32).toNat),
    fun running => by contradiction⟩
  beacons := .fresh
  packets := .fresh
  queued := by
    change ∀ event ∈ fifo.contents channel.new, event.InRange
    rw [fifo.contents_new]
    exact fun _ member => absurd member List.not_mem_nil
  held := fun _ member => absurd member List.not_mem_nil
  converted := fun _ _ _ same => by contradiction
  locked := fun _ same => by contradiction

variable {fifo : channel.Fifo channelDepth} {polled : Bssid → Prop} {count : Nat}
  {client : Client channel}

/-- A locked beacon is one of a polled access point. -/
theorem Client.Healthy.polled_of_locks (healthy : client.Healthy fifo polled count)
    {bssid : Bssid} (locks : client.locks bssid = true) : polled bssid := by
  unfold Client.locks at locks
  cases locked : client.lockedBssid with
  | none =>
    rw [locked] at locks
    contradiction
  | some other =>
    rw [locked] at locks
    obtain rfl : other = bssid := of_decide_eq_true locks
    exact healthy.locked other locked

/-- A beacon in range makes a sample in range. -/
theorem Reception.InRange.beaconSample {packet : Reception} (inRange : packet.InRange polled)
    (beacon : packet.isBeacon = true) (known : polled packet.bssid) :
    (Client.beaconSample packet.anchor).InRange where
  server := by
    have ap := inRange.beacon beacon known
    have same : (Client.beaconSample packet.anchor).serverNs.toNat =
        min (packet.apTsfUs.toNat * 1000) (2 ^ 128 - 1) % 2 ^ 128 := BitVec.toNat_ofNat _ _
    rw [same, min_eq_left (by omega), Nat.mod_eq_of_lt (by omega)]
    omega
  reading := inRange.ownTsf

/-! ## Progress -/

/-- The extra filter takes any reading of the hook, once its rate is not zero. -/
theorem Client.Healthy.feedExtra (healthy : client.Healthy fifo polled count)
    (short : count < 2 ^ 32) (packet : Reception) :
    ∃ extra, (∀ checks, client.feedExtra checks packet = .ok extra) ∧ extra.Ready (count + 1) := by
  unfold Client.feedExtra
  by_cases unset : client.extraPerUsQ32 = 0
  · exact ⟨_, fun _ => if_pos unset, healthy.extra.mono (Nat.le_succ count)⟩
  · obtain ⟨extra, converted⟩ := extraInUs_ok packet.extraUs unset
    have reading : I64Fits extra := by
      obtain ⟨us, _, same⟩ := bind_eq_ok converted
      rw [← Except.ok.inj same]
      exact wrapI64_fits us
    obtain ⟨filter, observed, ready⟩ := healthy.extra.observe short reading
      (wrapI64_fits (packet.apTsfUs.toInt - extra))
    refine ⟨filter, fun checks => ?_, ready⟩
    rw [if_neg unset, converted, ok_bind]
    exact observed checks

/-- The callback returns from every frame in range. -/
theorem Client.Healthy.rxCb_ok (healthy : client.Healthy fifo polled count)
    (short : count < 2 ^ 32) {packet : Reception} (inRange : packet.InRange polled) :
    ∃ after, ∀ checks, client.rxCb checks packet = .ok after := by
  obtain ⟨updated, averaged, _⟩ := averageDelta_steady healthy.average inRange.steady
  unfold rxCb
  by_cases beacon : packet.isBeacon = true
  · by_cases locks : client.locks packet.bssid = true
    · obtain ⟨instant, observed, _⟩ := healthy.instant.observe short
        (toInt_fits packet.instantUsAtCb)
        (wrapI64_fits (packet.apTsfUs.toInt - packet.instantUsAtCb.toInt))
      obtain ⟨extra, fed, _⟩ := healthy.feedExtra short packet
      refine ⟨(client.anchored updated packet instant extra).sendIgnoring (.beacon packet.anchor),
        fun checks => ?_⟩
      rw [averaged checks, ok_bind]
      dsimp only
      rw [if_pos beacon]
      refine (if_pos locks).trans ?_
      unfold useBeacon
      dsimp only
      rw [observed checks, ok_bind]
      exact congrArg (· >>= _) (fed checks)
    · refine ⟨{ client.counted updated with beaconsSeen := client.beaconsSeen + 1 },
        fun checks => ?_⟩
      rw [averaged checks, ok_bind]
      dsimp only
      rw [if_pos beacon]
      exact if_neg locks
  · have searched := SyncPacket.findInFrame_eq packet.data
    generalize (((List.range' 0 (packet.data.length + 1 - SyncPacket.size)).find? fun j =>
      decide (SyncPacket.MagicAt packet.data j)).map fun j =>
        SyncPacket.fields (packet.data.drop j)) = found at searched
    have handled : ∃ after, (client.counted updated).matchFrame packet = .ok after := by
      unfold matchFrame
      rw [searched, ok_bind]
      cases found with
      | none => exact ⟨_, rfl⟩
      | some pkt => exact ⟨_, rfl⟩
    obtain ⟨after, handled⟩ := handled
    refine ⟨after, fun checks => ?_⟩
    rw [averaged checks, ok_bind]
    dsimp only
    rw [if_neg beacon]
    exact handled

/-- The consumer gets to its next suspension point. -/
theorem Client.Healthy.consumeSamples_ok (healthy : client.Healthy fifo polled count) :
    ∃ after, ∀ checks, client.consumeSamples checks = .ok after := by
  have held := healthy.held
  have converted := healthy.converted
  unfold consumeSamples
  cases holding : client.consumer with
  | receiving =>
    dsimp only
    split
    · exact ⟨_, fun _ => rfl⟩
    · exact ⟨_, fun _ => rfl⟩
    · exact ⟨_, fun _ => rfl⟩
  | beaconReceived anchor =>
    rw [holding] at held
    have sample : (beaconSample anchor).InRange := held (.beacon anchor) List.mem_cons_self
    obtain ⟨est, observed, _⟩ := healthy.beacons.observe sample
    refine ⟨{ client with
      beaconEst := est
      consumer := .receiving }, fun checks => ?_⟩
    dsimp only
    rw [observed checks, ok_bind]
  | udpReceived serverNs ownTsfUs =>
    dsimp only
    split
    · exact ⟨_, fun _ => rfl⟩
    · exact ⟨_, fun _ => rfl⟩
  | udpConverted serverNs ownTsfUs apTsfUs =>
    rw [holding] at held
    have server : serverNs.toNat < 1000 * 2 ^ 63 :=
      held (.udp serverNs ownTsfUs) List.mem_cons_self
    have sample : (⟨serverNs, apTsfUs⟩ : Sample).InRange :=
      ⟨server, converted serverNs ownTsfUs apTsfUs holding⟩
    obtain ⟨est, observed, _⟩ := healthy.packets.observe sample
    refine ⟨{ client with
      udpEst := est
      consumer := .receiving }, fun checks => ?_⟩
    dsimp only
    rw [observed checks, ok_bind]

/-- **Progress.** A healthy client returns from every action in range, to the same cells
in every build. -/
theorem Client.Healthy.step_ok (healthy : client.Healthy fifo polled count)
    (short : count < 2 ^ 32) {action : Action} (inRange : action.InRange polled) :
    ∃ after, ∀ checks, client.step checks action = .ok after := by
  cases action with
  | receive packet => exact healthy.rxCb_ok short inRange
  | poll info => exact ⟨_, fun _ => rfl⟩
  | consume => exact healthy.consumeSamples_ok
  | queryExtra extraUs extraPerUsQ32 =>
    obtain ⟨answer, answered⟩ :=
      (client.storeExtraRate extraPerUsQ32).syncedNsAtExtraFiltered_ok extraUs inRange
    refine ⟨client.storeExtraRate extraPerUsQ32, fun checks => ?_⟩
    unfold step
    dsimp only
    rw [answered, ok_bind]

/-! ## Preservation -/

/-- What no callback or consumer touches stays; what it touches is in range again. -/
theorem Client.Healthy.anchored (healthy : client.Healthy fifo polled count)
    (short : count < 2 ^ 32) {packet : Reception} (inRange : packet.InRange polled) {updated : Int}
    {instant extra : AlphaBetaFilter} (accepts : client.Accepts checks packet updated instant extra)
    {samples : channel.Buffer} (queued : ∀ event ∈ fifo.contents samples, event.InRange) :
    { client.anchored updated packet instant extra with samples := samples }.Healthy fifo polled
      (count + 1) where
  average := by
    obtain ⟨same, averaged, average⟩ := averageDelta_steady healthy.average inRange.steady
    obtain rfl := Except.ok.inj ((averaged checks).symm.trans accepts.averaged)
    exact average
  instant := by
    obtain ⟨same, observed, ready⟩ := healthy.instant.observe short
      (toInt_fits packet.instantUsAtCb)
      (wrapI64_fits (packet.apTsfUs.toInt - packet.instantUsAtCb.toInt))
    obtain rfl := Except.ok.inj ((observed checks).symm.trans accepts.observed)
    exact ready
  extra := by
    obtain ⟨same, fed, ready⟩ := healthy.feedExtra short packet
    obtain rfl := Except.ok.inj ((fed checks).symm.trans accepts.fed)
    exact ready
  beacons := healthy.beacons
  packets := healthy.packets
  queued := queued
  held := healthy.held
  converted := healthy.converted
  locked := healthy.locked

/-- An action without a beacon of the locked BSSID leaves both filters alone. -/
theorem Client.Healthy.kept {after : Client channel} (healthy : client.Healthy fifo polled count)
    (average : SteadyAverage after.instantMinusTsf)
    (sameInstant : after.apTsfMinusInstantFilter = client.apTsfMinusInstantFilter)
    (sameExtra : after.apTsfMinusExtraFilter = client.apTsfMinusExtraFilter)
    (beacons : after.beaconEst.Ready) (packets : after.udpEst.Ready)
    (queued : ∀ event ∈ fifo.contents after.samples, event.InRange)
    (held : ∀ event ∈ after.consumer.inHand, event.InRange)
    (converted : ∀ serverNs own ap, after.consumer = .udpConverted serverNs own ap →
      ap.toNat < 2 ^ 63)
    (locked : ∀ bssid, after.lockedBssid = some bssid → polled bssid) :
    after.Healthy fifo polled (count + 1) where
  average := average
  instant := sameInstant ▸ healthy.instant.mono (Nat.le_succ count)
  extra := sameExtra ▸ healthy.extra.mono (Nat.le_succ count)
  beacons := beacons
  packets := packets
  queued := queued
  held := held
  converted := converted
  locked := locked

/-- A poll locks the BSSID it was told, or keeps the one before. -/
theorem Client.locked_pollApBssid {info : Option Bssid} {bssid : Bssid}
    (locked : (client.pollApBssid info).lockedBssid = some bssid) :
    client.lockedBssid = some bssid ∨ info = some bssid := by
  cases info with
  | none => exact .inl locked
  | some other =>
    unfold pollApBssid at locked
    dsimp only at locked
    split at locked
    · exact .inr locked
    · exact .inl locked

/-- An event in range joins a queue of events in range. -/
theorem inRange_of_trySend {before after : channel.Buffer} {event : SnifferEvent}
    (queued : ∀ held ∈ fifo.contents before, held.InRange) (inRange : event.InRange)
    (sent : channel.trySend before event = some after) :
    ∀ held ∈ fifo.contents after, held.InRange := by
  rw [fifo.contents_of_trySend sent]
  intro held member
  rcases List.mem_append.mp member with earlier | last
  · exact queued held earlier
  · rwa [List.mem_singleton.mp last]

/-- What is taken from a queue of events in range is in range, and so is the rest. -/
theorem inRange_of_receive {before after : channel.Buffer} {event : SnifferEvent}
    (queued : ∀ held ∈ fifo.contents before, held.InRange)
    (taken : channel.receive before = some (event, after)) :
    event.InRange ∧ ∀ held ∈ fifo.contents after, held.InRange := by
  rw [fifo.contents_of_receive taken] at queued
  exact List.forall_mem_cons.mp queued

/-- **Preservation.** Every action in range leaves a healthy client healthy. -/
theorem Client.Healthy.stepped {after : Client channel} {effects : List Effect} {action : Action}
    (healthy : client.Healthy fifo polled count) (short : count < 2 ^ 32)
    (inRange : action.InRange polled) (stepped : client.Stepped checks action after effects) :
    after.Healthy fifo polled (count + 1) := by
  have sameAverage : ∀ {packet : Reception} {updated : Int}, packet.InRange polled →
      averageDelta checks client.instantMinusTsf packet = .ok updated →
      SteadyAverage updated := by
    intro packet updated inRange returned
    obtain ⟨same, averaged, average⟩ := averageDelta_steady healthy.average inRange.steady
    obtain rfl := Except.ok.inj ((averaged checks).symm.trans returned)
    exact average
  cases stepped with
  | usedBeacon packet updated instant extra samples accepts sent =>
    have event : SnifferEvent.InRange (.beacon packet.anchor) :=
      inRange.beaconSample accepts.beacon (healthy.polled_of_locks accepts.locked)
    exact healthy.anchored short inRange accepts (inRange_of_trySend healthy.queued event sent)
  | lostBeacon packet updated instant extra accepts full =>
    exact healthy.anchored short inRange accepts healthy.queued
  | foreignBeacon packet updated averaged beacon unlocked
  | unmatchedFrame packet updated averaged other found =>
    exact healthy.kept (sameAverage inRange averaged) rfl rfl healthy.beacons healthy.packets
      healthy.queued healthy.held healthy.converted healthy.locked
  | matchedFrame packet updated pkt samples matched sent =>
    have event : SnifferEvent.InRange (.udp pkt.sendUnixNs packet.ownTsfUs) :=
      inRange.server pkt matched.found
    exact healthy.kept (sameAverage inRange matched.averaged) rfl rfl healthy.beacons
      healthy.packets (inRange_of_trySend healthy.queued event sent) healthy.held
      healthy.converted healthy.locked
  | droppedFrame packet updated pkt matched full =>
    exact healthy.kept (sameAverage inRange matched.averaged) rfl rfl healthy.beacons
      healthy.packets healthy.queued healthy.held healthy.converted healthy.locked
  | polled info =>
    have locked : ∀ bssid, (client.pollApBssid info).lockedBssid = some bssid → polled bssid := by
      intro bssid locked
      rcases locked_pollApBssid locked with before | told
      · exact healthy.locked bssid before
      · exact inRange bssid told
    obtain ⟨lockedBssid, prev, same⟩ := client.pollApBssid_eq info
    rw [same] at locked ⊢
    exact healthy.kept healthy.average rfl rfl healthy.beacons healthy.packets
      healthy.queued healthy.held healthy.converted locked
  | waited receiving empty =>
    exact healthy.kept healthy.average rfl rfl healthy.beacons healthy.packets
      healthy.queued healthy.held healthy.converted healthy.locked
  | tookBeacon anchor samples receiving taken =>
    obtain ⟨event, queued⟩ := inRange_of_receive healthy.queued taken
    exact healthy.kept healthy.average rfl rfl healthy.beacons healthy.packets queued
      (List.forall_mem_singleton.mpr event) (fun _ _ _ same => by contradiction) healthy.locked
  | tookUdp serverNs ownTsfUs samples receiving taken =>
    obtain ⟨event, queued⟩ := inRange_of_receive healthy.queued taken
    exact healthy.kept healthy.average rfl rfl healthy.beacons healthy.packets queued
      (List.forall_mem_singleton.mpr event) (fun _ _ _ same => by contradiction) healthy.locked
  | fedBeacon anchor est holding observed =>
    have held := healthy.held
    rw [holding] at held
    have sample : (beaconSample anchor).InRange := held (.beacon anchor) List.mem_cons_self
    obtain ⟨same, fed, ready⟩ := healthy.beacons.observe sample
    obtain rfl := Except.ok.inj ((fed checks).symm.trans observed)
    exact healthy.kept healthy.average rfl rfl ready healthy.packets healthy.queued
      (fun _ member => absurd member List.not_mem_nil) (fun _ _ _ same => by contradiction)
      healthy.locked
  | droppedUdp serverNs ownTsfUs holding missing =>
    exact healthy.kept healthy.average rfl rfl healthy.beacons healthy.packets healthy.queued
      (fun _ member => absurd member List.not_mem_nil) (fun _ _ _ same => by contradiction)
      healthy.locked
  | convertedUdp serverNs ownTsfUs apTsfUs holding converted =>
    have held := healthy.held
    rw [holding] at held
    refine healthy.kept healthy.average rfl rfl healthy.beacons healthy.packets healthy.queued
      held (fun _ _ _ same => ?_) healthy.locked
    obtain ⟨_, _, rfl⟩ := Consumer.udpConverted.inj same
    exact ownTsfToApTsf_lt converted
  | fedUdp serverNs ownTsfUs apTsfUs est holding observed =>
    have held := healthy.held
    rw [holding] at held
    have server : serverNs.toNat < 1000 * 2 ^ 63 := held (.udp serverNs ownTsfUs) List.mem_cons_self
    have sample : (⟨serverNs, apTsfUs⟩ : Sample).InRange :=
      ⟨server, healthy.converted serverNs ownTsfUs apTsfUs holding⟩
    obtain ⟨same, fed, ready⟩ := healthy.packets.observe sample
    obtain rfl := Except.ok.inj ((fed checks).symm.trans observed)
    exact healthy.kept healthy.average rfl rfl healthy.beacons ready healthy.queued
      (fun _ member => absurd member List.not_mem_nil) (fun _ _ _ same => by contradiction)
      healthy.locked
  | queried extraUs extraPerUsQ32 =>
    exact healthy.kept healthy.average rfl rfl healthy.beacons healthy.packets
      healthy.queued healthy.held healthy.converted healthy.locked

/-! ## Runs -/

/-- How a run of this length ends: with a healthy client, or stopped by a zero rate. -/
inductive Client.Ends (fifo : channel.Fifo channelDepth) (polled : Bssid → Prop)
    (actions : List Action) : Checked (Client channel) → Prop where
  /-- No query was by a zero rate. -/
  | returned {client : Client channel} (healthy : client.Healthy fifo polled actions.length)
      (rates : ∀ extraUs, .queryExtra extraUs 0 ∉ actions) : Ends fifo polled actions (.ok client)
  /-- One was. -/
  | stopped {extraUs : U64} (queried : .queryExtra extraUs 0 ∈ actions) :
      Ends fifo polled actions (.error .divideByZero)

/-- An action of a run with frames in range is in range or a query by a zero rate. -/
theorem Action.inRange_or {actions : List Action}
    (inRange : ∀ packet, .receive packet ∈ actions → packet.InRange polled)
    (polls : ∀ bssid, .poll (some bssid) ∈ actions → polled bssid) {action : Action}
    (member : action ∈ actions) :
    action.InRange polled ∨ ∃ extraUs, action = .queryExtra extraUs 0 := by
  cases action with
  | receive packet => exact .inl (inRange packet member)
  | poll info =>
    refine .inl fun bssid told => polls bssid ?_
    rwa [← told]
  | consume => exact .inl trivial
  | queryExtra extraUs extraPerUsQ32 =>
    by_cases zero : extraPerUsQ32 = 0
    · exact .inr ⟨extraUs, by rw [zero]⟩
    · exact .inl zero

/-- A run with frames in range ends the same way in every build. -/
theorem Client.ends_of_inRange (fifo : channel.Fifo channelDepth) {actions : List Action}
    (inRange : ∀ packet, .receive packet ∈ actions → packet.InRange polled)
    (polls : ∀ bssid, .poll (some bssid) ∈ actions → polled bssid)
    (short : actions.length ≤ 2 ^ 32) :
    ∃ outcome, (∀ checks, (clientSystem checks channel).run actions = outcome) ∧
      Client.Ends fifo polled actions outcome := by
  induction actions using List.reverseRecOn with
  | nil => exact ⟨.ok (Client.boot channel), fun _ => rfl, .returned (.boot fifo polled) (by simp)⟩
  | append_singleton actions action ih =>
    have length : (actions ++ [action]).length = actions.length + 1 := List.length_append
    obtain ⟨outcome, ran, ends⟩ := ih
      (fun packet member => inRange packet (List.mem_append_left _ member))
      (fun bssid member => polls bssid (List.mem_append_left _ member)) (by omega)
    cases ends with
    | stopped queried =>
      refine ⟨.error .divideByZero, fun checks => ?_, .stopped (List.mem_append_left _ queried)⟩
      rw [System.run_concat, ran checks]
      rfl
    | @returned client healthy rates =>
      rcases Action.inRange_or inRange polls (List.mem_append_right _ List.mem_cons_self) with
        last | ⟨extraUs, rfl⟩
      · obtain ⟨after, stepped⟩ := healthy.step_ok (by omega) last
        refine ⟨.ok after, fun checks => ?_, .returned ?_ fun extraUs member => ?_⟩
        · rw [System.run_concat, ran checks, ok_bind]
          exact stepped checks
        · rw [length]
          exact healthy.stepped (by omega) last (Client.stepped_of_step (stepped .enabled))
        · rcases List.mem_append.mp member with earlier | now
          · exact rates extraUs earlier
          · rw [← List.mem_singleton.mp now] at last
            exact last rfl
      · refine ⟨.error .divideByZero, fun checks => ?_,
          .stopped (List.mem_append_right _ List.mem_cons_self)⟩
        rw [System.run_concat, ran checks, ok_bind]
        exact congrArg (· >>= _) ((client.storeExtraRate 0).syncedNsAtExtraFiltered_zero extraUs)

/-- The unfiltered query of the extra timer returns from any client. -/
theorem Client.syncedNsAtExtra_ok (client : Client channel) (checks : OverflowChecks)
    (extraUs extraPerUsQ32 : U64) :
    ∃ answer, client.syncedNsAtExtra checks extraUs extraPerUsQ32 = .ok answer := by
  unfold syncedNsAtExtra
  cases anchored : client.latestBeacon with
  | none => exact ⟨none, rfl⟩
  | some anchor =>
    dsimp only
    by_cases zero : extraPerUsQ32 = 0
    · exact ⟨none, if_pos zero⟩
    · have positive : 0 < extraPerUsQ32.toNat :=
        Nat.pos_of_ne_zero fun same => zero (BitVec.eq_of_toNat_eq same)
      have near : I128Fits ((extraUs.toNat : Int) - anchor.extraUs.toNat) :=
        ⟨by omega, by omega⟩
      have shifted : I128Fits (((extraUs.toNat : Int) - anchor.extraUs.toNat) * 2 ^ 32) :=
        ⟨by omega, by omega⟩
      have size : |((extraUs.toNat : Int) - anchor.extraUs.toNat) * 2 ^ 32| ≤ 2 ^ 96 :=
        abs_le.mpr ⟨by omega, by omega⟩
      have divided := abs_le.mp
        (abs_tdiv_le (show (0 : Int) < extraPerUsQ32.toNat by omega) size)
      have whole := Int.ediv_le_self (extraPerUsQ32.toNat : Int)
        (show (0 : Int) ≤ 2 ^ 96 by decide)
      rw [if_neg zero, wrapI128_of_fits near, wrapI128_of_fits shifted,
        divI128_pos _ (by omega), ok_bind, checks.i128_ok ⟨by omega, by omega⟩, ok_bind]
      split
      · exact ⟨_, rfl⟩
      · exact ⟨_, rfl⟩

/-- **The client does not stop.** Take at most `2 ^ 32` callbacks, polls, consumer steps and
queries in any order, with frames in range for the access points that the polls found, each
received after the zero of the own TSF. Every build ends the same way. A query by a zero rate
stops it; without one it returns, and so does every query of the extra timer after it. -/
theorem client_stops_iff (fifo : channel.Fifo channelDepth) {actions : List Action}
    (short : actions.length ≤ 2 ^ 32)
    (inRange : ∀ packet, .receive packet ∈ actions →
      packet.InRange fun bssid => .poll (some bssid) ∈ actions) :
    ∃ outcome : Checked (Client channel),
      (∀ checks, (clientSystem checks channel).run actions = outcome) ∧
      (outcome = .error .divideByZero ↔ ∃ extraUs, .queryExtra extraUs 0 ∈ actions) ∧
      ((∀ extraUs, .queryExtra extraUs 0 ∉ actions) → ∃ client, outcome = .ok client ∧
        ∀ checks extraUs extraPerUsQ32, ∃ answer,
          client.syncedNsAtExtra checks extraUs extraPerUsQ32 = .ok answer) := by
  obtain ⟨outcome, ran, ends⟩ := Client.ends_of_inRange fifo inRange (fun _ member => member) short
  refine ⟨outcome, ran, ?_⟩
  cases ends with
  | @returned client healthy rates =>
    constructor
    · exact iff_of_false (by simp) fun ⟨extraUs, member⟩ => rates extraUs member
    · exact fun _ => ⟨client, rfl, client.syncedNsAtExtra_ok⟩
  | stopped queried =>
    constructor
    · exact iff_of_true rfl ⟨_, queried⟩
    · exact fun rates => absurd queried (rates _)

/-- A beacon, a packet that the consumer feeds, and a query of the extra timer. -/
theorem client_stops_iff_session :
    ∃ client : Client (Channel.ofList SnifferEvent channelDepth), ∀ checks,
      (clientSystem checks _).run
        (deliver 9000000 ++ [.consume, .queryExtra 80000 (343597383680)]) = .ok client := by
  have inRange : ∀ packet,
      .receive packet ∈ deliver 9000000 ++ [.consume, .queryExtra 80000 (343597383680)] →
      packet.InRange fun bssid => .poll (some bssid) ∈
        deliver 9000000 ++ [.consume, .queryExtra 80000 (343597383680)] := by
    intro packet member
    have either : packet = .ofBeacon homeBssid 7000 1000 5000 ∨
        packet = .ofPacket ⟨magicBytes, 1, 9000000⟩ 1500 5500 := by
      simpa [deliver] using member
    rcases either with rfl | rfl
    · have nothing : SyncPacket.findInFrame (Reception.ofBeacon homeBssid 7000 1000 5000).data =
          .ok none := by decide +kernel
      refine ⟨by decide, by decide, by decide, fun _ _ => by decide, fun pkt found => ?_⟩
      exact absurd (Except.ok.inj (nothing.symm.trans found)) (by simp)
    · have whole : SyncPacket.findInFrame
          (Reception.ofPacket ⟨magicBytes, 1, 9000000⟩ 1500 5500).data =
          .ok (some ⟨magicBytes, 1, 9000000⟩) := by decide +kernel
      refine ⟨by decide, by decide, by decide, fun beacon => ?_, fun pkt found => ?_⟩
      · exact absurd beacon (by decide)
      · obtain rfl := Option.some.inj (Except.ok.inj (whole.symm.trans found))
        decide
  obtain ⟨outcome, ran, _, returns⟩ :=
    client_stops_iff (Channel.ofListFifo SnifferEvent channelDepth) (by decide) inRange
  obtain ⟨client, rfl, _⟩ := returns (by simp [deliver])
  exact ⟨client, ran⟩

end EspClockSync
