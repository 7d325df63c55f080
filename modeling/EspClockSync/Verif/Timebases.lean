import EspClockSync.Verif.ClientTrace
import EspClockSync.Verif.FilterSteps

/-!
# Timebases

The TSF clocks of two access points are unrelated. `Provenance` tags everything the
client keeps with the access point it came from: the anchor, the packet in
conversion, the samples of `UDP_EST` and the observations of the instant filter.
The BSSID filter keeps one timebase only while one BSSID passes it: locking another
one resets nothing.
-/

namespace EspClockSync

open Machine

variable {channel : Channel SnifferEvent} {checks : OverflowChecks}

/-- Which access points the cells come from. -/
structure Provenance where
  /-- Of the anchor in `LATEST_BEACON`. -/
  current : Option Bssid
  /-- Of the anchor that converted the packet in the consumer's hands. -/
  converting : Option Bssid
  /-- Of the anchors that converted the samples of `UDP_EST`, oldest first. -/
  samples : List Bssid
  /-- Of the observations `AP_TSF_MINUS_INSTANT_FILTER` absorbed, oldest first. -/
  absorbed : List Bssid
  deriving DecidableEq, Repr

/-- The provenance after one effect. -/
def Provenance.record (provenance : Provenance) : Effect → Provenance
  | .accepted bssid _ absorbed =>
    { provenance with
      current := some bssid
      absorbed := if absorbed then provenance.absorbed ++ [bssid] else provenance.absorbed }
  | .converted _ _ _ => { provenance with converting := provenance.current }
  | .fed _ => { provenance with samples := provenance.samples ++ provenance.converting.toList }
  | _ => provenance

/-- The provenance after a trace. -/
def provenanceOf (log : List Effect) : Provenance :=
  log.foldl Provenance.record ⟨none, none, [], []⟩

/-- All these access points are one. -/
def AllSame (bssids : List Bssid) : Prop := ∀ a ∈ bssids, ∀ b ∈ bssids, a = b

-- Over the list: instance search would enumerate all `2 ^ 48` access points.
instance (bssids : List Bssid) : Decidable (AllSame bssids) :=
  @List.decidableBAll _ _ (fun a => List.decidableBAll (fun b => a = b) bssids) bssids

/-- The window of `UDP_EST` and the instant filter each come from one access point. -/
def Provenance.OneTimebase (provenance : Provenance) : Prop :=
  AllSame (window windowSize provenance.samples) ∧ AllSame provenance.absorbed

instance (provenance : Provenance) : Decidable provenance.OneTimebase :=
  inferInstanceAs (Decidable (AllSame (window windowSize provenance.samples) ∧
    AllSame provenance.absorbed))

/-- The access points of the accepted beacons. -/
def acceptedBssids (log : List Effect) : List Bssid :=
  log.filterMap fun
    | .accepted bssid _ _ => some bssid
    | _ => none

@[simp] theorem acceptedBssids_append (log more : List Effect) :
    acceptedBssids (log ++ more) = acceptedBssids log ++ acceptedBssids more :=
  List.filterMap_append

@[simp] theorem provenanceOf_append (log more : List Effect) :
    provenanceOf (log ++ more) = more.foldl Provenance.record (provenanceOf log) :=
  List.foldl_append

/-! ## One access point keeps one timebase -/

/-- Everything in a provenance comes from these access points. -/
structure Provenance.Within (provenance : Provenance) (bssids : List Bssid) : Prop where
  /-- The anchor. -/
  current : ∀ bssid, provenance.current = some bssid → bssid ∈ bssids
  /-- The packet in conversion. -/
  converting : ∀ bssid, provenance.converting = some bssid → bssid ∈ bssids
  /-- The samples. -/
  samples : ∀ bssid ∈ provenance.samples, bssid ∈ bssids
  /-- The observations. -/
  absorbed : ∀ bssid ∈ provenance.absorbed, bssid ∈ bssids

/-- What comes from some access points comes from more of them. -/
theorem Provenance.Within.mono {provenance : Provenance} {bssids more : List Bssid}
    (inside : provenance.Within bssids) (grown : bssids ⊆ more) : provenance.Within more where
  current bssid same := grown (inside.current bssid same)
  converting bssid same := grown (inside.converting bssid same)
  samples bssid member := grown (inside.samples bssid member)
  absorbed bssid member := grown (inside.absorbed bssid member)

/-- One effect brings in its own access point at most. -/
theorem Provenance.Within.record {provenance : Provenance} {bssids : List Bssid}
    (inside : provenance.Within bssids) (effect : Effect) :
    (provenance.record effect).Within (bssids ++ acceptedBssids [effect]) := by
  have grown := inside.mono (List.subset_append_left bssids (acceptedBssids [effect]))
  cases effect with
  | accepted bssid anchor absorbed =>
    have new : bssid ∈ bssids ++ acceptedBssids [.accepted bssid anchor absorbed] :=
      List.mem_append_right _ List.mem_cons_self
    refine ⟨fun b same => ?_, grown.converting, grown.samples, fun b member => ?_⟩
    · rw [← Option.some.inj same]
      exact new
    · unfold Provenance.record at member
      dsimp only at member
      split at member
      · rcases List.mem_append.mp member with member | member
        · exact grown.absorbed b member
        · rw [List.mem_singleton.mp member]
          exact new
      · exact grown.absorbed b member
  | converted serverNs own ap => exact ⟨grown.current, grown.current, grown.samples, grown.absorbed⟩
  | fed sample =>
    refine ⟨grown.current, grown.converting, fun b member => ?_, grown.absorbed⟩
    rcases List.mem_append.mp member with member | member
    · exact grown.samples b member
    · exact grown.converting b (Option.mem_toList.mp member)
  | enqueued event => exact grown
  | refused event => exact grown
  | received event => exact grown
  | consumed event => exact grown

/-- Everything comes from an access point whose beacons were accepted. -/
theorem provenanceOf_within (log : List Effect) :
    (provenanceOf log).Within (acceptedBssids log) := by
  induction log using List.reverseRecOn with
  | nil =>
    refine ⟨fun _ same => ?_, fun _ same => ?_, fun _ member => ?_, fun _ member => ?_⟩
    · contradiction
    · contradiction
    · contradiction
    · contradiction
  | append_singleton log effect ih =>
    rw [provenanceOf_append, acceptedBssids_append]
    exact ih.record effect

/-- If this action is a beacon that passes the BSSID filter, it is from this access point. -/
def AcceptsOnly (bssid : Bssid) (state : Client channel × List Effect) (action : Action) : Prop :=
  ∀ packet, action = .receive packet → packet.isBeacon = true →
    state.1.locks packet.bssid = true → packet.bssid = bssid

/-- A step accepts only this access point exactly when its effects do. -/
theorem Client.Stepped.acceptsOnly_iff (bssid : Bssid) {client after : Client channel}
    {log effects : List Effect} {action : Action}
    (stepped : client.Stepped checks action after effects) :
    AcceptsOnly bssid (client, log) action ↔ ∀ b ∈ acceptedBssids effects, b = bssid := by
  have vacuous : (∀ b ∈ ([] : List Bssid), b = bssid) := fun _ member => by contradiction
  have unlocked := stepped.unlocked
  cases stepped with
  | usedBeacon packet updated instant extra samples accepts
    | lostBeacon packet updated instant extra accepts =>
    constructor
    · intro only b member
      rw [List.mem_singleton.mp member]
      exact only packet rfl accepts.beacon accepts.locked
    · intro only other same _ _
      rw [← Action.receive.inj same]
      exact only packet.bssid List.mem_cons_self
  | foreignBeacon | unmatchedFrame | matchedFrame | droppedFrame | polled | waited | tookBeacon
    | tookUdp | fedBeacon | droppedUdp | convertedUdp | fedUdp | queried =>
    apply iff_of_true _ vacuous
    intro packet received beacon locked
    have foreign := unlocked rfl packet received beacon
    rw [locked] at foreign
    contradiction

/-- A run accepted only this access point exactly when each step did. -/
theorem accepted_only_iff (bssid : Bssid) {actions : List Action} {client : Client channel}
    {log : List Effect} (ran : (tracedClient checks channel).run actions = .ok (client, log)) :
    (∀ b ∈ acceptedBssids log, b = bssid) ↔
      (tracedClient checks channel).EachStep (AcceptsOnly bssid) actions := by
  refine traced_eachStep_iff (fun log => ∀ b ∈ acceptedBssids log, b = bssid)
    (fun _ member => by contradiction) (fun log more => ?_)
    (fun _ _ _ _ _ stepped => stepped.acceptsOnly_iff bssid) ran
  rw [acceptedBssids_append, List.forall_mem_append]

/-! ## Tags account for the cells -/

/-- Anchor, packet in conversion and samples all have their tag. -/
structure Client.Tagged (client : Client channel) (log : List Effect) : Prop where
  /-- An anchor has a tag. -/
  anchor : client.latestBeacon.isSome = (provenanceOf log).current.isSome
  /-- A converted packet has a tag. -/
  converting : ∀ serverNs own ap, client.consumer = .udpConverted serverNs own ap →
    (provenanceOf log).converting.isSome = true
  /-- Every sample has a tag. -/
  samples : (provenanceOf log).samples.length = (fedSamples log).length

/-- What converts and feeds nothing keeps the tags. -/
theorem Client.Tagged.kept {client after : Client channel} {log effects : List Effect}
    (tagged : client.Tagged log) (noSample : fedSamples effects = [])
    (anchor : after.latestBeacon.isSome =
      (effects.foldl Provenance.record (provenanceOf log)).current.isSome)
    (sameConverting : (effects.foldl Provenance.record (provenanceOf log)).converting =
      (provenanceOf log).converting)
    (sameSamples : (effects.foldl Provenance.record (provenanceOf log)).samples =
      (provenanceOf log).samples)
    (converted : ∀ serverNs own ap, after.consumer = .udpConverted serverNs own ap →
      client.consumer = .udpConverted serverNs own ap) :
    after.Tagged (log ++ effects) where
  anchor := by
    rw [provenanceOf_append]
    exact anchor
  converting serverNs own ap same := by
    rw [provenanceOf_append, sameConverting]
    exact tagged.converting serverNs own ap (converted serverNs own ap same)
  samples := by
    rw [provenanceOf_append, sameSamples, fedSamples_append, noSample, List.append_nil]
    exact tagged.samples

/-- Every step keeps the tags. -/
theorem Client.Tagged.stepped {client after : Client channel} {log effects : List Effect}
    {action : Action} (tagged : client.Tagged log)
    (stepped : client.Stepped checks action after effects) : after.Tagged (log ++ effects) := by
  cases stepped with
  | usedBeacon | lostBeacon => exact tagged.kept rfl rfl rfl rfl fun _ _ _ same => same
  | foreignBeacon | unmatchedFrame | matchedFrame | droppedFrame | waited | queried =>
    exact tagged.kept rfl tagged.anchor rfl rfl fun _ _ _ same => same
  | polled info =>
    obtain ⟨locked, prev, next⟩ := client.pollApBssid_eq info
    rw [next]
    exact tagged.kept rfl tagged.anchor rfl rfl fun _ _ _ same => same
  | tookBeacon | tookUdp | fedBeacon | droppedUdp =>
    refine tagged.kept rfl tagged.anchor rfl rfl fun _ _ _ same => ?_
    contradiction
  | convertedUdp serverNs own ap holding converted =>
    obtain ⟨anchor, latest, _⟩ := Option.bind_eq_some_iff.mp converted
    refine ⟨?_, fun _ _ _ _ => ?_, ?_⟩
    · rw [provenanceOf_append]
      exact tagged.anchor
    · rw [provenanceOf_append]
      change (provenanceOf log).current.isSome = true
      rw [← tagged.anchor, latest]
      rfl
    · rw [provenanceOf_append, fedSamples_append]
      exact tagged.samples.trans (congrArg List.length (List.append_nil (fedSamples log))).symm
  | fedUdp serverNs own ap est holding observed =>
    have tag := tagged.converting serverNs own ap holding
    refine ⟨?_, fun _ _ _ same => by contradiction, ?_⟩
    · rw [provenanceOf_append]
      exact tagged.anchor
    · rw [provenanceOf_append, fedSamples_append, List.length_append, ← tagged.samples]
      change ((provenanceOf log).samples ++ (provenanceOf log).converting.toList).length = _
      obtain ⟨bssid, same⟩ := Option.isSome_iff_exists.mp tag
      rw [same, List.length_append]
      rfl

/-- Every sample of a reached state has its tag. -/
theorem tagged_of_run {actions : List Action} {client : Client channel} {log : List Effect}
    (ran : (tracedClient checks channel).run actions = .ok (client, log)) : client.Tagged log :=
  traced_induction (motive := fun _ client log => client.Tagged log)
    ⟨rfl, fun _ _ _ same => by contradiction, rfl⟩
    (fun _ _ _ _ _ _ _ tagged stepped => tagged.stepped stepped) ran

/-! ## Increasing uptimes absorb every beacon -/

/-- Accepted beacons come at increasing uptimes. -/
def UptimesIncrease (log : List Effect) : Prop :=
  (acceptedAnchors log).Pairwise fun earlier later =>
    earlier.instantUs.toInt < later.instantUs.toInt

/-- A signed reading is an `i64`. -/
theorem toInt_fits (value : U64) : I64Fits value.toInt :=
  ⟨BitVec.le_toInt value, BitVec.toInt_lt⟩

/-- The instant filter has absorbed every accepted beacon. -/
structure Client.Absorbing (client : Client channel) (log : List Effect) : Prop where
  /-- All tags are among the observations. -/
  absorbed : (provenanceOf log).absorbed = acceptedBssids log
  /-- Without an anchor the filter is fresh. -/
  fresh : client.latestBeacon = none → client.apTsfMinusInstantFilter.initialized = false
  /-- With an anchor the filter stands at its uptime. -/
  last : ∀ anchor, client.latestBeacon = some anchor →
    client.apTsfMinusInstantFilter.lastXUs = anchor.instantUs.toInt

/-- A beacon later than all before it is absorbed. -/
theorem Client.Absorbing.absorbs {client : Client channel} {log : List Effect}
    (absorbing : client.Absorbing log) (recorded : client.Recorded checks log)
    {packet : Reception}
    (later : ∀ anchor ∈ acceptedAnchors log, anchor.instantUs.toInt < packet.instantUsAtCb.toInt) :
    client.apTsfMinusInstantFilter.absorbs packet.instantUsAtCb.toInt = true := by
  unfold AlphaBetaFilter.absorbs
  cases latest : client.latestBeacon with
  | none =>
    rw [absorbing.fresh latest]
    rfl
  | some anchor =>
    have member := List.mem_of_getLast? (recorded.anchor.symm.trans latest)
    rw [absorbing.last anchor latest, decide_eq_true (later anchor member), Bool.or_true]

/-- An accepted beacon later than all before it is absorbed and moves the filter. -/
theorem Client.Absorbing.anchored {client : Client channel} {log : List Effect}
    (absorbing : client.Absorbing log) (recorded : client.Recorded checks log)
    {packet : Reception} {updated : Int} {instant extra : AlphaBetaFilter}
    (accepts : client.Accepts checks packet updated instant extra)
    (later : ∀ anchor ∈ acceptedAnchors log, anchor.instantUs.toInt < packet.instantUsAtCb.toInt)
    (samples : channel.Buffer) (sent : Effect) (noBssid : acceptedBssids [sent] = [])
    (neutral : ∀ provenance : Provenance, provenance.record sent = provenance) :
    { client.anchored updated packet instant extra with samples := samples }.Absorbing
      (log ++ [Effect.accepted packet.bssid packet.anchor
        (client.apTsfMinusInstantFilter.absorbs packet.instantUsAtCb.toInt), sent]) := by
  have absorbs := absorbing.absorbs recorded later
  have readings : ∀ o ∈ (acceptedAnchors log).map BeaconAnchor.instantObservation,
      I64Fits o.1 := by
    intro o member
    obtain ⟨anchor, _, rfl⟩ := List.mem_map.mp member
    exact toInt_fits anchor.instantUs
  have lastFits := AlphaBetaFilter.lastXUs_fits_of_observeAll readings (by decide) recorded.filter
  have observed := AlphaBetaFilter.observed_of_observe (toInt_fits packet.instantUsAtCb) lastFits
    accepts.observed
  refine ⟨?_, fun missing => by contradiction, fun anchor latest => ?_⟩
  · have bssids : acceptedBssids [Effect.accepted packet.bssid packet.anchor
        (client.apTsfMinusInstantFilter.absorbs packet.instantUsAtCb.toInt), sent] =
        packet.bssid :: acceptedBssids [sent] := rfl
    rw [provenanceOf_append, acceptedBssids_append, List.foldl_cons, List.foldl_cons,
      List.foldl_nil, neutral, bssids, noBssid, absorbs, ← absorbing.absorbed]
    rfl
  · rw [← Option.some.inj latest]
    exact (observed.absorbed absorbs).2

/-- What accepts nothing keeps the absorbed beacons. -/
theorem Client.Absorbing.kept {client after : Client channel} {log effects : List Effect}
    (absorbing : client.Absorbing log) (noBssid : acceptedBssids effects = [])
    (sameAbsorbed : (effects.foldl Provenance.record (provenanceOf log)).absorbed =
      (provenanceOf log).absorbed)
    (sameAnchor : after.latestBeacon = client.latestBeacon)
    (sameFilter : after.apTsfMinusInstantFilter = client.apTsfMinusInstantFilter) :
    after.Absorbing (log ++ effects) where
  absorbed := by
    rw [provenanceOf_append, sameAbsorbed, acceptedBssids_append, noBssid, List.append_nil]
    exact absorbing.absorbed
  fresh := by
    rw [sameAnchor, sameFilter]
    exact absorbing.fresh
  last := by
    rw [sameAnchor, sameFilter]
    exact absorbing.last

/-- Every step keeps absorbing while uptimes increase. -/
theorem Client.Absorbing.stepped {client after : Client channel} {log effects : List Effect}
    {action : Action} (absorbing : client.Absorbing log) (recorded : client.Recorded checks log)
    (stepped : client.Stepped checks action after effects)
    (increase : UptimesIncrease (log ++ effects)) : after.Absorbing (log ++ effects) := by
  unfold UptimesIncrease at increase
  rw [acceptedAnchors_append, List.pairwise_append] at increase
  cases stepped with
  | usedBeacon packet updated instant extra samples accepts =>
    exact absorbing.anchored recorded accepts
      (fun anchor member => increase.2.2 anchor member packet.anchor List.mem_cons_self)
      samples _ rfl fun _ => rfl
  | lostBeacon packet updated instant extra accepts =>
    exact absorbing.anchored recorded accepts
      (fun anchor member => increase.2.2 anchor member packet.anchor List.mem_cons_self)
      client.samples _ rfl fun _ => rfl
  | polled info =>
    obtain ⟨locked, prev, same⟩ := client.pollApBssid_eq info
    rw [same]
    exact absorbing.kept rfl rfl rfl rfl
  | foreignBeacon | unmatchedFrame | matchedFrame | droppedFrame | waited | tookBeacon | tookUdp
    | fedBeacon | droppedUdp | convertedUdp | fedUdp | queried =>
    exact absorbing.kept rfl rfl rfl rfl

/-- With increasing uptimes the filter absorbs every accepted beacon. -/
theorem absorbing_of_run {actions : List Action} {client : Client channel} {log : List Effect}
    (ran : (tracedClient checks channel).run actions = .ok (client, log))
    (increase : UptimesIncrease log) : client.Absorbing log := by
  refine traced_induction (motive := fun _ client log => UptimesIncrease log → client.Absorbing log)
    (fun _ => ⟨rfl, fun _ => rfl, fun _ same => by contradiction⟩)
    (fun _ before log _ _ _ reached held stepped increase => ?_) ran increase
  have earlier : UptimesIncrease log := by
    have whole := increase
    unfold UptimesIncrease at whole ⊢
    rw [acceptedAnchors_append, List.pairwise_append] at whole
    exact whole.1
  exact (held earlier).stepped (recorded_of_run reached) stepped increase

/-! ## When the timebase is one -/

/-- **One timebase.** While every beacon that passes the BSSID filter comes from one
access point, every reached state holds one timebase; and when uptimes increase from
beacon to beacon, a state with one timebase was reached by such a run only. -/
theorem one_timebase_iff {actions : List Action} {client : Client channel} {log : List Effect}
    (ran : (tracedClient checks channel).run actions = .ok (client, log)) :
    (provenanceOf log).samples.length = (fedSamples log).length ∧
      ((∃ bssid, (tracedClient checks channel).EachStep (AcceptsOnly bssid) actions) →
        (provenanceOf log).OneTimebase) ∧
      (UptimesIncrease log → (provenanceOf log).OneTimebase →
        ∃ bssid, (tracedClient checks channel).EachStep (AcceptsOnly bssid) actions) := by
  have tagged := tagged_of_run ran
  have inside := provenanceOf_within log
  refine ⟨tagged.samples, ?_, ?_⟩
  · rintro ⟨bssid, each⟩
    have only := (accepted_only_iff bssid ran).mpr each
    have samples : ∀ a ∈ window windowSize (provenanceOf log).samples, a = bssid := by
      intro a member
      apply only
      apply inside.samples
      exact mem_of_mem_window member
    have absorbed : ∀ a ∈ (provenanceOf log).absorbed, a = bssid := by
      intro a member
      apply only
      exact inside.absorbed a member
    constructor
    · intro a aMember b bMember
      rw [samples a aMember, samples b bMember]
    · intro a aMember b bMember
      rw [absorbed a aMember, absorbed b bMember]
  · intro increase one
    have absorbing := absorbing_of_run ran increase
    have same := one.2
    rw [absorbing.absorbed] at same
    -- Any access point serves a run that accepted no beacon.
    cases accepted : acceptedBssids log with
    | nil =>
      have only : ∀ b ∈ acceptedBssids log, b = homeBssid := by simp [accepted]
      exact ⟨homeBssid, (accepted_only_iff homeBssid ran).mp only⟩
    | cons first rest =>
      have member : first ∈ acceptedBssids log := by simp [accepted]
      have only : ∀ b ∈ acceptedBssids log, b = first := by
        intro b inLog
        exact same b inLog first member
      exact ⟨first, (accepted_only_iff first ran).mp only⟩

/-- Association, one beacon and one packet, all consumed. -/
def associate (bssid : Bssid) (apTsfUs instantUs ownTsfUs : U64) (serverNs : U128) : List Action :=
  [.poll (some bssid), .receive (.ofBeacon bssid apTsfUs instantUs ownTsfUs),
    .receive (.ofPacket ⟨magicBytes, 1, serverNs⟩ (instantUs + 500) (ownTsfUs + 500)),
    .consume, .consume, .consume, .consume, .consume]

/-- A client that stays with its access point holds one timebase. -/
theorem one_timebase_iff_staying :
    ∃ client log, (tracedClient .enabled (Channel.ofList SnifferEvent channelDepth)).run
        (associate homeBssid 7000 1000 5000 9000000) = .ok (client, log) ∧
      (provenanceOf log).samples = [homeBssid] ∧
      ∃ bssid, (tracedClient .enabled (Channel.ofList SnifferEvent channelDepth)).EachStep
        (AcceptsOnly bssid) (associate homeBssid 7000 1000 5000 9000000) := by
  obtain ⟨⟨client, log⟩, ran, seen⟩ := exists_of_map_eq_ok (show
    ((tracedClient .enabled (Channel.ofList SnifferEvent channelDepth)).run
      (associate homeBssid 7000 1000 5000 9000000)).map (fun state =>
        (acceptedAnchors state.2, provenanceOf state.2)) =
      .ok ([⟨1000, 5000, 7000, 0⟩], ⟨some homeBssid, some homeBssid,
        [homeBssid], [homeBssid]⟩) by decide +kernel)
  obtain ⟨anchors, provenance⟩ := Prod.mk.inj seen
  obtain ⟨_, _, necessary⟩ := one_timebase_iff ran
  refine ⟨client, log, ran, by rw [provenance], necessary ?_ ?_⟩
  · rw [UptimesIncrease, anchors]
    exact List.pairwise_singleton _ _
  · rw [provenance]
    decide +kernel

/-- A client that roams to a second access point keeps the samples and observations of
the first: both estimates mix two TSF clocks. -/
theorem one_timebase_lost_roaming :
    ∃ client log, (tracedClient .enabled (Channel.ofList SnifferEvent channelDepth)).run
        (associate homeBssid 7000 1000 5000 9000000 ++
          associate neighbourBssid 900000000 101000 105000 109000000) = .ok (client, log) ∧
      client.udpEst.occupied = [⟨9000000, 7500⟩, ⟨109000000, 900000500⟩] ∧
      (provenanceOf log).samples = [homeBssid, neighbourBssid] ∧
      (provenanceOf log).absorbed = [homeBssid, neighbourBssid] ∧
      ¬ (provenanceOf log).OneTimebase := by
  obtain ⟨⟨client, log⟩, ran, seen⟩ := exists_of_map_eq_ok (show
    ((tracedClient .enabled (Channel.ofList SnifferEvent channelDepth)).run
      (associate homeBssid 7000 1000 5000 9000000 ++
        associate neighbourBssid 900000000 101000 105000 109000000)).map (fun state =>
        (state.1.udpEst.occupied, provenanceOf state.2)) =
      .ok ([⟨9000000, 7500⟩, ⟨109000000, 900000500⟩], ⟨some neighbourBssid,
        some neighbourBssid, [homeBssid, neighbourBssid],
        [homeBssid, neighbourBssid]⟩) by decide +kernel)
  obtain ⟨occupied, provenance⟩ := Prod.mk.inj seen
  refine ⟨client, log, ran, occupied, by rw [provenance], by rw [provenance], ?_⟩
  rw [provenance]
  decide +kernel

end EspClockSync
