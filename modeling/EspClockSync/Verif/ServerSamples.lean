import EspClockSync.Verif.ClientTrace
import EspClockSync.Verif.EventConservation
import EspClockSync.Verif.PacketSearch
import EspClockSync.Verif.ServerTimeline

/-!
# From the server to the estimator

What the server stamps into its packets is what the estimator of a client sees: through frames
of any shape, losses on the air and in the channel, and every interleaving of the callback
with the consumer, the samples fed are a subsequence of the packets sent.
-/

namespace EspClockSync

open Machine

variable {channel : Channel SnifferEvent} {checks : OverflowChecks}

/-- What a frame on the air carries. -/
inductive Carries : Reception → Option SyncPacket → Prop where
  /-- A beacon carries no packet. -/
  | beacon (frame : Reception) (isBeacon : frame.isBeacon = true) : Carries frame none
  /-- Nor does any other frame without the magic. -/
  | nothing (frame : Reception) (other : frame.isBeacon = false)
      (free : ¬ magicBytes.toList <:+: frame.data) : Carries frame none
  /-- A packet follows a header without the magic. -/
  | packet (frame : Reception) (header trailer : List U8) (seq : U32) (sendUnixNs : U128)
      (other : frame.isBeacon = false) (free : ¬ magicBytes.toList <:+: header)
      (data : frame.data =
        header ++ SyncPacket.toBytes ⟨magicBytes, seq, sendUnixNs⟩ ++ trailer) :
      Carries frame (some ⟨magicBytes, seq, sendUnixNs⟩)

/-- The packet that the callback finds in a frame. -/
def Reception.found (frame : Reception) : Option SyncPacket :=
  if frame.isBeacon then none
  else
    match SyncPacket.findInFrame frame.data with
    | .ok found => found
    | .error _ => none

/-- It finds what the frame carries. -/
theorem Carries.found {frame : Reception} {carried : Option SyncPacket}
    (carries : Carries frame carried) : frame.found = carried := by
  cases carries with
  | beacon isBeacon =>
    unfold Reception.found
    rw [if_pos isBeacon]
  | nothing other free =>
    have absent : SyncPacket.findInFrame frame.data = .ok none := by
      have returned := SyncPacket.findInFrame_eq frame.data
      cases searched : SyncPacket.findInFrame frame.data with
      | error stop =>
        rw [searched] at returned
        contradiction
      | ok found =>
        cases found with
        | none => rfl
        | some packet =>
          obtain ⟨i, _, magic⟩ := (SyncPacket.findInFrame_isSome frame.data).mp ⟨packet, searched⟩
          exact absurd (List.IsInfix.trans magic.isInfix (List.drop_suffix i frame.data).isInfix) free
    unfold Reception.found
    rw [other, if_neg Bool.false_ne_true, absent]
  | packet header trailer seq sendUnixNs other free data =>
    have present := SyncPacket.findInFrame_behind_header seq sendUnixNs trailer free
    rw [← data] at present
    unfold Reception.found
    rw [other, if_neg Bool.false_ne_true, present]

/-- So it does for all frames in turn. -/
theorem found_of_carries {frames : List Reception} {carried : List (Option SyncPacket)}
    (carries : List.Forall₂ Carries frames carried) : frames.map Reception.found = carried := by
  induction carries with
  | nil => rfl
  | cons first _ ih => rw [List.map_cons, first.found, ih]

/-- The server time of an event. -/
def SnifferEvent.stamp : SnifferEvent → Option U128
  | .beacon _ => none
  | .udp serverNs _ => some serverNs

/-- The server times that reach the channel and the estimator. -/
structure Client.Stamped (log : List Effect) (actions : List Action) : Prop where
  /-- What is queued was found in a frame. -/
  queued : ((enqueuedEvents log).filterMap SnifferEvent.stamp).Sublist
    ((actions.filterMap Action.frame).filterMap fun frame =>
      frame.found.map SyncPacket.sendUnixNs)
  /-- What is fed was consumed. -/
  fed : ((fedSamples log).map Sample.serverNs).Sublist
    ((consumedEvents log).filterMap SnifferEvent.stamp)

/-- Every step keeps both. -/
theorem Client.Stamped.stepped {client after : Client channel} {log effects : List Effect}
    {actions : List Action} {action : Action} (stamped : Client.Stamped log actions)
    (stepped : client.Stepped checks action after effects) :
    Client.Stamped (log ++ effects) (actions ++ [action]) := by
  suffices one : Client.Stamped effects [action] by
    constructor
    · rw [enqueuedEvents_append, List.filterMap_append, List.filterMap_append, List.filterMap_append]
      exact stamped.queued.append one.queued
    · rw [fedSamples_append, consumedEvents_append, List.map_append, List.filterMap_append]
      exact stamped.fed.append one.fed
  cases stepped with
  | matchedFrame packet updated pkt samples matched sent =>
    have found : packet.found = some pkt := by
      unfold Reception.found
      rw [matched.other, if_neg Bool.false_ne_true, matched.found]
    refine ⟨?_, List.nil_sublist _⟩
    simp [enqueuedEvents, Effect.enqueuedEvent, SnifferEvent.stamp, Action.frame, found]
  | fedUdp serverNs own ap est holding observed =>
    exact ⟨List.nil_sublist _, List.Sublist.refl _⟩
  | usedBeacon | lostBeacon | foreignBeacon | unmatchedFrame | droppedFrame | polled | waited
    | tookBeacon | tookUdp | fedBeacon | droppedUdp | convertedUdp | queried =>
    exact ⟨List.nil_sublist _, List.nil_sublist _⟩

/-- Every run keeps both. -/
theorem stamped_of_run {actions : List Action} {client : Client channel} {log : List Effect}
    (ran : (tracedClient checks channel).run actions = .ok (client, log)) :
    Client.Stamped log actions :=
  traced_induction (motive := fun actions _ log => Client.Stamped log actions)
    ⟨List.Sublist.refl _, List.Sublist.refl _⟩
    (fun _ _ _ _ _ _ _ stamped stepped => stamped.stepped stepped) ran

/-- The samples fed are among the packets found, in order. -/
theorem fed_sublist_of_run (fifo : channel.Fifo channelDepth) {actions : List Action}
    {client : Client channel} {log : List Effect}
    (ran : (tracedClient checks channel).run actions = .ok (client, log)) :
    ((fedSamples log).map Sample.serverNs).Sublist
      ((actions.filterMap Action.frame).filterMap fun frame =>
        frame.found.map SyncPacket.sendUnixNs) := by
  have stamped := stamped_of_run ran
  have queued := queued_of_run fifo ran
  have order : (consumedEvents log).Sublist (enqueuedEvents log) := by
    rw [queued.queue, queued.taken, List.append_assoc]
    exact List.sublist_append_left _ _
  exact (stamped.fed.trans (order.filterMap _)).trans stamped.queued

namespace Server

variable {settings : Settings}

/-- In the first `2 ^ 32` iterations the times increase. -/
theorem sendTimeNs_lt_of_lt (positive : 1 ≤ settings.intervalMs.toNat) {earlier later : Nat}
    (before : earlier < later) (early : later < 2 ^ 32) :
    sendTimeNs settings earlier < sendTimeNs settings later := by
  have interval : 0 < settings.intervalNs := by
    unfold Settings.intervalNs
    omega
  have gap := Nat.mul_lt_mul_of_pos_right before interval
  unfold sendTimeNs
  rw [Nat.mod_eq_of_lt early, Nat.mod_eq_of_lt (by omega)]
  omega

/-- **The estimator sees the server's timeline.** A server at a positive interval goes through at
most `2 ^ 32` passes; the frames that reach a client carry some of its packets in order, after
headers without the magic, or have no magic at all. Then in every run of the client the samples
fed have the times of packets sent, each at most once and in order, and each a whole number of
intervals after the captured time. -/
theorem samples_of_server (fifo : channel.Fifo channelDepth) {serverChecks : OverflowChecks}
    (positive : 1 ≤ settings.intervalMs.toNat) {passes : List Pass} {state : Loop}
    {sent : List Broadcast}
    (serverRan : (broadcasting serverChecks settings).run passes = .ok (state, sent))
    (short : passes.length ≤ 2 ^ 32) {actions : List Action} {client : Client channel}
    {log : List Effect} (ran : (tracedClient checks channel).run actions = .ok (client, log))
    {carried : List (Option SyncPacket)}
    (carries : List.Forall₂ Carries (actions.filterMap Action.frame) carried)
    (inOrder : carried.reduceOption.Sublist (sent.map Broadcast.packet)) :
    ((fedSamples log).map fun s => s.serverNs.toNat).Sublist (sendTimes sent) ∧
      ((fedSamples log).map fun s => s.serverNs.toNat).Pairwise (· < ·) ∧
      ∀ s ∈ fedSamples log, ∃ iteration < passes.length,
        s.serverNs.toNat = settings.t0 + iteration * settings.intervalNs := by
  have found : ((actions.filterMap Action.frame).filterMap fun frame =>
      frame.found.map SyncPacket.sendUnixNs) =
        carried.reduceOption.map SyncPacket.sendUnixNs := by
    rw [← found_of_carries carries, List.reduceOption, List.filterMap_map, List.map_filterMap]
    rfl
  have stamps : ((fedSamples log).map Sample.serverNs).Sublist
      (sent.map fun broadcast => broadcast.packet.sendUnixNs) := by
    have fed := fed_sublist_of_run fifo ran
    rw [found] at fed
    have inSent := inOrder.map SyncPacket.sendUnixNs
    rw [List.map_map] at inSent
    exact fed.trans inSent
  have times : ((fedSamples log).map fun s => s.serverNs.toNat).Sublist (sendTimes sent) := by
    have values := stamps.map BitVec.toNat
    rw [List.map_map, List.map_map] at values
    exact values
  have timeline := sendTimes_of_run serverRan
  have increasing : (sendTimes sent).Pairwise (· < ·) := by
    rw [timeline, List.pairwise_map]
    apply List.pairwise_lt_range.imp_of_mem
    intro earlier later _ member before
    have inside := List.mem_range.mp member
    exact sendTimeNs_lt_of_lt positive before (by omega)
  refine ⟨times, increasing.sublist times, fun s member => ?_⟩
  have inSent := times.subset (List.mem_map_of_mem member)
  rw [timeline] at inSent
  obtain ⟨iteration, inside, same⟩ := List.mem_map.mp inSent
  have early := List.mem_range.mp inside
  refine ⟨iteration, early, ?_⟩
  unfold sendTimeNs at same
  rw [Nat.mod_eq_of_lt (by omega)] at same
  exact same.symm

/-- A client that hears the first and the third packet of a server. -/
def lossyReception : List Action :=
  [.poll (some homeBssid), .receive (.ofBeacon homeBssid 7000 1000 5000), .consume, .consume,
    .receive (.ofPacket (packetAt everyMillisecond 0) 1500 5500), .consume, .consume, .consume,
    .receive (.ofPacket (packetAt everyMillisecond 2) 3500 7500), .consume, .consume, .consume]

/-- What the frames it hears carry. -/
theorem carries_lossyReception : List.Forall₂ Carries (lossyReception.filterMap Action.frame)
    [none, some (packetAt everyMillisecond 0), some (packetAt everyMillisecond 2)] := by
  have whole : ∀ (packet : SyncPacket) (instantUs ownTsfUs : U64), packet.magic = magicBytes →
      (Reception.ofPacket packet instantUs ownTsfUs).isBeacon = false →
      Carries (.ofPacket packet instantUs ownTsfUs) (some packet) := by
    rintro ⟨magic, seq, sendUnixNs⟩ instantUs ownTsfUs rfl other
    have bare : ¬ magicBytes.toList <:+: ([] : List U8) := by decide
    refine .packet _ [] [] seq sendUnixNs other bare ?_
    rw [List.nil_append, List.append_nil]
    rfl
  exact .cons (.beacon _ (by decide)) (.cons (whole _ _ _ rfl (by decide))
    (.cons (whole _ _ _ rfl (by decide)) .nil))

/-- The second one is lost on the air. -/
theorem samples_of_server_lossy :
    ∃ state sent client log,
      (broadcasting .enabled everyMillisecond).run [⟨0, true⟩, ⟨5, true⟩, ⟨2000000, true⟩] =
        .ok (state, sent) ∧
      (tracedClient .enabled (Channel.ofList SnifferEvent channelDepth)).run lossyReception =
        .ok (client, log) ∧
      ((fedSamples log).map fun s => s.serverNs.toNat) =
        [1700000000000000000, 1700000000002000000] ∧
      ((fedSamples log).map fun s => s.serverNs.toNat).Sublist (sendTimes sent) := by
  obtain ⟨state, sent, serverRan, _⟩ := broadcasting_returns .enabled everyMillisecond
    [⟨0, true⟩, ⟨5, true⟩, ⟨2000000, true⟩] (by decide)
  obtain ⟨⟨client, log⟩, ran, fed⟩ := exists_of_map_eq_ok (show
    ((tracedClient .enabled (Channel.ofList SnifferEvent channelDepth)).run
      lossyReception).map (fun state => (fedSamples state.2).map fun s => s.serverNs.toNat) =
      .ok [1700000000000000000, 1700000000002000000] by decide +kernel)
  have inOrder : [none, some (packetAt everyMillisecond 0),
      some (packetAt everyMillisecond 2)].reduceOption.Sublist (sent.map Broadcast.packet) := by
    rw [(packets_of_run serverRan).2]
    exact .cons_cons _ (.cons _ (.cons_cons _ .slnil))
  exact ⟨state, sent, client, log, serverRan, ran, fed,
    (samples_of_server (Channel.ofListFifo SnifferEvent channelDepth) (by decide) serverRan
      (by decide) ran carries_lossyReception inOrder).1⟩

end Server

end EspClockSync
