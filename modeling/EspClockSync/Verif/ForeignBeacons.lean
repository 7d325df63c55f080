import EspClockSync.Verif.ClientSteps

/-!
# Foreign beacons

A beacon whose BSSID is not the locked one only counts itself and enters the
telemetry average. `quietSystem` is the client with that telemetry erased, and
foreign beacons do nothing to it. A client whose average does not stop it ends as the
quiet one does, so a run and the same run without its foreign beacons return or stop
together and end in the same synchronisation state.
-/

namespace EspClockSync

open Machine

variable {channel : Channel SnifferEvent}

/-- A beacon of a BSSID other than `LOCKED_BSSID`, or before one is locked. -/
def Client.foreign (client : Client channel) : Action → Bool
  | .receive packet => packet.isBeacon && !client.locks packet.bssid
  | _ => false

/-- The cells of an action that decide which beacons are foreign: only a poll has any. -/
def Client.afterPoll (client : Client channel) : Action → Client channel
  | .poll info => client.pollApBssid info
  | _ => client

/-- What remains of these actions, from a client on, when foreign beacons are deleted. -/
def Client.withoutForeign (client : Client channel) : List Action → List Action
  | [] => []
  | action :: rest =>
    if client.foreign action then (client.afterPoll action).withoutForeign rest
    else action :: (client.afterPoll action).withoutForeign rest

/-- The client without `FRAMES_SEEN`, `BEACONS_SEEN` and `INSTANT_MINUS_TSF`. -/
def Client.quiet (client : Client channel) : Client channel :=
  { client with
    framesSeen := 0
    beaconsSeen := 0
    instantMinusTsf := deltaUnset }

/-- What `rx_cb` does after its telemetry. -/
def Client.handleFrame (checks : OverflowChecks) (client : Client channel) (packet : Reception) :
    Checked (Client channel) :=
  if packet.isBeacon then
    if client.locks packet.bssid then client.useBeacon checks packet else .ok client
  else client.matchFrame packet

/-- The client after one action, telemetry aside. -/
def Client.quietStep (checks : OverflowChecks) (client : Client channel) :
    Action → Checked (Client channel)
  | .receive packet => (client.handleFrame checks packet).map quiet
  | action => (client.step checks action).map quiet

/-- The client as a system without telemetry. -/
def quietSystem (checks : OverflowChecks) (channel : Channel SnifferEvent) :
    System (Client channel) Action Panic where
  start := Client.boot channel
  step client action := client.quietStep checks action

namespace Client

/-! ## Telemetry is write-only -/

/-- A used beacon changes the same cells whatever the telemetry is. -/
theorem useBeacon_quiet (checks : OverflowChecks) (client : Client channel)
    (packet : Reception) :
    (client.useBeacon checks packet).map quiet =
      (client.quiet.useBeacon checks packet).map quiet := by
  unfold useBeacon
  change (client.apTsfMinusInstantFilter.observe _ _ _ >>= _).map _ =
    (client.apTsfMinusInstantFilter.observe _ _ _ >>= _).map _
  cases client.apTsfMinusInstantFilter.observe checks packet.instantUsAtCb.toInt
    (wrapI64 (packet.apTsfUs.toInt - packet.instantUsAtCb.toInt)) with
  | error stop => rfl
  | ok instant =>
    rw [ok_bind, ok_bind]
    change (client.feedExtra _ _ >>= _).map _ = (client.feedExtra _ _ >>= _).map _
    cases client.feedExtra checks packet with
    | error stop => rfl
    | ok extra => rfl

/-- A send with a counted refusal leaves the telemetry alone. -/
theorem sendCounting_quiet (client : Client channel) (event : SnifferEvent) :
    (client.sendCounting event).quiet = (client.quiet.sendCounting event).quiet := by
  have sameSamples : client.quiet.samples = client.samples := rfl
  unfold sendCounting
  rw [sameSamples]
  cases channel.trySend client.samples event with
  | none => rfl
  | some samples => rfl

/-- A matched frame changes the same cells whatever the telemetry is. -/
theorem matchFrame_quiet (client : Client channel) (packet : Reception) :
    (client.matchFrame packet).map quiet = (client.quiet.matchFrame packet).map quiet := by
  unfold matchFrame
  cases SyncPacket.findInFrame packet.data with
  | error stop => rfl
  | ok found =>
    cases found with
    | none => rfl
    | some pkt =>
      exact congrArg Except.ok (sendCounting_quiet
        { client with framesMatched := client.framesMatched + 1 } (.udp pkt.sendUnixNs _))

/-- A frame is handled alike whatever the telemetry is. -/
theorem handleFrame_quiet (checks : OverflowChecks) (client : Client channel)
    (packet : Reception) :
    (client.handleFrame checks packet).map quiet =
      (client.quiet.handleFrame checks packet).map quiet := by
  unfold handleFrame
  by_cases beacon : packet.isBeacon
  · rw [if_pos beacon, if_pos beacon]
    change (if client.locks packet.bssid then _ else _ : Checked (Client channel)).map _ =
      (if client.locks packet.bssid then _ else _ : Checked (Client channel)).map _
    by_cases locked : client.locks packet.bssid
    · rw [if_pos locked, if_pos locked]
      exact useBeacon_quiet checks client packet
    · rw [if_neg locked, if_neg locked]
      rfl
  · rw [if_neg beacon, if_neg beacon]
    exact matchFrame_quiet client packet

/-- `rx_cb` is its telemetry and then the handling of the frame. -/
theorem rxCb_quiet {checks : OverflowChecks} {client : Client channel} {packet : Reception}
    {updated : Int} (averaged : averageDelta checks client.instantMinusTsf packet = .ok updated) :
    (client.rxCb checks packet).map quiet = (client.handleFrame checks packet).map quiet := by
  unfold rxCb
  rw [averaged, ok_bind]
  by_cases beacon : packet.isBeacon
  · rw [if_pos beacon]
    rw [handleFrame_quiet]
    change _ = ({ client with
      framesSeen := client.framesSeen + 1
      instantMinusTsf := updated
      beaconsSeen := client.beaconsSeen + 1 }.quiet.handleFrame checks packet).map quiet
    rw [← handleFrame_quiet, handleFrame, if_pos beacon]
  · rw [if_neg beacon, handleFrame_quiet]
    change _ = ({ client with
      framesSeen := client.framesSeen + 1
      instantMinusTsf := updated }.quiet.handleFrame checks packet).map quiet
    rw [← handleFrame_quiet, handleFrame, if_neg beacon]

/-- The consumer works alike whatever the telemetry is. -/
theorem consumeSamples_quiet (checks : OverflowChecks) (client : Client channel) :
    (client.consumeSamples checks).map quiet = (client.quiet.consumeSamples checks).map quiet := by
  have sameConsumer : client.quiet.consumer = client.consumer := rfl
  have sameSamples : client.quiet.samples = client.samples := rfl
  have sameBeaconEst : client.quiet.beaconEst = client.beaconEst := rfl
  have sameUdpEst : client.quiet.udpEst = client.udpEst := rfl
  have sameConversion : client.quiet.ownTsfToApTsf = client.ownTsfToApTsf := rfl
  unfold consumeSamples
  rw [sameConsumer]
  cases client.consumer with
  | receiving =>
    dsimp only
    rw [sameSamples]
    cases channel.receive client.samples with
    | none => rfl
    | some taken =>
      obtain ⟨event, samples⟩ := taken
      cases event with
      | beacon anchor => rfl
      | udp serverNs ownTsfUs => rfl
  | beaconReceived anchor =>
    dsimp only
    rw [sameBeaconEst]
    cases client.beaconEst.observe checks (beaconSample anchor) with
    | error stop => rfl
    | ok beaconEst => rfl
  | udpReceived serverNs ownTsfUs =>
    dsimp only
    rw [sameConversion]
    cases client.ownTsfToApTsf ownTsfUs with
    | none => rfl
    | some apTsfUs => rfl
  | udpConverted serverNs ownTsfUs apTsfUs =>
    dsimp only
    rw [sameUdpEst]
    cases client.udpEst.observe checks ⟨serverNs, apTsfUs⟩ with
    | error stop => rfl
    | ok udpEst => rfl

/-- A poll works alike whatever the telemetry is. -/
theorem pollApBssid_quiet (client : Client channel) (info : Option Bssid) :
    (client.pollApBssid info).quiet = (client.quiet.pollApBssid info).quiet := by
  cases info with
  | none => rfl
  | some bssid =>
    unfold pollApBssid
    dsimp only
    change _ = (if some bssid ≠ client.pollPrev then _ else _ : Client channel).quiet
    by_cases changed : some bssid ≠ client.pollPrev
    · rw [if_pos changed, if_pos changed]
      rfl
    · rw [if_neg changed, if_neg changed]
      rfl

/-- One step sees the client only through its quiet part. -/
theorem quietStep_quiet (checks : OverflowChecks) (client : Client channel) (action : Action) :
    client.quietStep checks action = client.quiet.quietStep checks action := by
  cases action with
  | receive packet => exact handleFrame_quiet checks client packet
  | poll info => exact congrArg Except.ok (pollApBssid_quiet client info)
  | consume => exact consumeSamples_quiet checks client
  | queryExtra extraUs extraPerUsQ32 =>
    unfold quietStep step
    dsimp only
    change _ = ((client.storeExtraRate extraPerUsQ32).syncedNsAtExtraFiltered extraUs
      extraPerUsQ32 >>= _ : Checked (Client channel)).map quiet
    cases (client.storeExtraRate extraPerUsQ32).syncedNsAtExtraFiltered extraUs
      extraPerUsQ32 with
    | error stop => rfl
    | ok answer => rfl

/-- A foreign beacon leaves the quiet part as it is. -/
theorem quietStep_foreign (checks : OverflowChecks) {client : Client channel} {action : Action}
    (foreign : client.foreign action = true) :
    client.quietStep checks action = .ok client.quiet := by
  cases action with
  | receive packet =>
    have both := (Bool.and_eq_true _ _).mp foreign
    unfold quietStep handleFrame
    dsimp only
    rw [if_pos both.1, if_neg (by simpa using both.2)]
    rfl
  | poll info => contradiction
  | consume => contradiction
  | queryExtra extraUs extraPerUsQ32 => contradiction

end Client

/-! ## The telemetry average -/

/-- `INSTANT_MINUS_TSF` after one action. -/
def averageAfter (checks : OverflowChecks) (average : Int) : Action → Checked Int
  | .receive packet => Client.averageDelta checks average packet
  | _ => .ok average

/-- `INSTANT_MINUS_TSF` as a system of its own. -/
def averageSystem (checks : OverflowChecks) : System Int Action Panic where
  start := deltaUnset
  step average action := averageAfter checks average action

/-- A step of the client takes the average through the action. -/
theorem Client.Stepped.average {checks : OverflowChecks} {client after : Client channel}
    {action : Action} {effects : List Effect}
    (stepped : client.Stepped checks action after effects) :
    averageAfter checks client.instantMinusTsf action = .ok after.instantMinusTsf := by
  cases stepped with
  | usedBeacon packet updated instant extra samples accepts => exact accepts.averaged
  | lostBeacon packet updated instant extra accepts => exact accepts.averaged
  | foreignBeacon packet updated averaged => exact averaged
  | unmatchedFrame packet updated averaged => exact averaged
  | matchedFrame packet updated pkt samples matched => exact matched.averaged
  | droppedFrame packet updated pkt matched => exact matched.averaged
  | polled info =>
    obtain ⟨locked, prev, same⟩ := client.pollApBssid_eq info
    rw [same]
    rfl
  | waited | tookBeacon | tookUdp | fedBeacon | droppedUdp | convertedUdp | fedUdp | queried => rfl

/-- Every client holds the average of its run. -/
theorem average_of_run {checks : OverflowChecks} {actions : List Action} {client : Client channel}
    (reached : (clientSystem checks channel).run actions = .ok client) :
    (averageSystem checks).run actions = .ok client.instantMinusTsf :=
  System.run_of_simulation (averageSystem checks) Client.instantMinusTsf rfl
    (fun _ _ _ stepped => (Client.stepped_of_step stepped).average) reached

/-- Uptime and TSF less than 146,000 years apart, which keeps the average in range. -/
def Reception.Steady (packet : Reception) : Prop :=
  -2 ^ 62 < wrapI64 (packet.instantUsAtCb.toInt - packet.ownTsfAtCb.toInt) ∧
    wrapI64 (packet.instantUsAtCb.toInt - packet.ownTsfAtCb.toInt) < 2 ^ 62

/-- An average of steady readings. -/
def SteadyAverage (average : Int) : Prop :=
  average = deltaUnset ∨ -2 ^ 62 < average ∧ average < 2 ^ 62

/-- The average never stops a build without checks. -/
theorem averageDelta_disabled (prev : Int) (packet : Reception) :
    ∃ updated, Client.averageDelta .disabled prev packet = .ok updated := by
  unfold Client.averageDelta
  dsimp only
  split
  · exact ⟨_, rfl⟩
  · obtain ⟨change, changed⟩ := OverflowChecks.i64_disabled
      (wrapI64 (packet.instantUsAtCb.toInt - packet.ownTsfAtCb.toInt) - prev)
    rw [changed, ok_bind]
    exact OverflowChecks.i64_disabled _

/-- The average of steady readings never stops any build. -/
theorem averageDelta_steady {prev : Int} {packet : Reception} (average : SteadyAverage prev)
    (steady : packet.Steady) :
    ∃ updated, (∀ checks, Client.averageDelta checks prev packet = .ok updated) ∧
      SteadyAverage updated := by
  obtain ⟨lower, upper⟩ := steady
  unfold Client.averageDelta
  dsimp only
  generalize wrapI64 (packet.instantUsAtCb.toInt - packet.ownTsfAtCb.toInt) = newDelta
    at lower upper
  by_cases unset : prev = deltaUnset
  · exact ⟨newDelta, fun _ => if_pos unset, Or.inr ⟨lower, upper⟩⟩
  · obtain ⟨above, below⟩ := average.resolve_left unset
    have change : I64Fits (newDelta - prev) := by
      constructor
      · omega
      · omega
    have bracket := tdiv_bracket (newDelta - prev) (show (0 : Int) < 64 by decide)
    have next : -2 ^ 62 < prev + (newDelta - prev).tdiv 64 ∧
        prev + (newDelta - prev).tdiv 64 < 2 ^ 62 := by
      constructor
      · omega
      · omega
    have sum : I64Fits (prev + (newDelta - prev).tdiv 64) := by
      constructor
      · omega
      · omega
    refine ⟨prev + (newDelta - prev).tdiv 64, fun checks => ?_, Or.inr next⟩
    rw [if_neg unset, checks.i64_ok change, ok_bind, checks.i64_ok sum]

/-- The average of a run never stops it without checks, or with steady readings. -/
theorem average_ok {checks : OverflowChecks} {actions : List Action}
    (fits : checks = .disabled ∨ ∀ packet, .receive packet ∈ actions → packet.Steady) :
    ∃ average, (averageSystem checks).run actions = .ok average ∧
      (checks = .disabled ∨ SteadyAverage average) := by
  induction actions using List.reverseRecOn with
  | nil => exact ⟨deltaUnset, rfl, Or.inr (Or.inl rfl)⟩
  | append_singleton actions action ih =>
    obtain ⟨average, ran, range⟩ := ih
      (fits.imp_right fun steady packet member => steady packet (List.mem_append_left _ member))
    rw [System.run_concat, ran, ok_bind]
    cases action with
    | receive packet =>
      rcases fits with rfl | steady
      · obtain ⟨updated, averaged⟩ := averageDelta_disabled average packet
        exact ⟨updated, averaged, Or.inl rfl⟩
      · rcases range with rfl | range
        · obtain ⟨updated, averaged⟩ := averageDelta_disabled average packet
          exact ⟨updated, averaged, Or.inl rfl⟩
        · obtain ⟨updated, averaged, next⟩ := averageDelta_steady range (steady packet (by simp))
          exact ⟨updated, averaged checks, Or.inr next⟩
    | poll | consume | queryExtra => exact ⟨average, rfl, range⟩

/-! ## Runs -/

/-- **Telemetry aside.** A run whose average does not stop it goes as the quiet run: it
returns the quiet part of the same cells, or stops for the same reason. -/
theorem run_quiet {checks : OverflowChecks} {actions : List Action}
    (averaged : ∃ average, (averageSystem checks).run actions = .ok average) :
    ((clientSystem checks channel).run actions).map Client.quiet =
      (quietSystem checks channel).run actions := by
  induction actions using List.reverseRecOn with
  | nil => rfl
  | append_singleton actions action ih =>
    obtain ⟨updated, ran⟩ := averaged
    obtain ⟨average, earlier, stepped⟩ := System.run_concat_ok ran
    have simulated := ih ⟨average, earlier⟩
    rw [System.run_concat, System.run_concat, ← simulated]
    cases reached : (clientSystem checks channel).run actions with
    | error stop => rfl
    | ok client =>
      have same : average = client.instantMinusTsf :=
        Except.ok.inj (earlier.symm.trans (average_of_run reached))
      subst same
      change (client.step checks action).map Client.quiet = client.quiet.quietStep checks action
      rw [← Client.quietStep_quiet]
      cases action with
      | receive packet => exact Client.rxCb_quiet stepped
      | poll | consume | queryExtra => rfl

/-- Only a poll moves the locks. -/
theorem Client.Stepped.locks {checks : OverflowChecks} {client after : Client channel}
    {action : Action} {effects : List Effect}
    (stepped : client.Stepped checks action after effects) :
    after.lockedBssid = (client.afterPoll action).lockedBssid ∧
      after.pollPrev = (client.afterPoll action).pollPrev := by
  cases stepped with
  | polled | usedBeacon | lostBeacon | foreignBeacon | unmatchedFrame | matchedFrame | droppedFrame
    | waited | tookBeacon | tookUdp | fedBeacon | droppedUdp | convertedUdp | fedUdp | queried =>
    exact ⟨rfl, rfl⟩

/-- Two clients with the same locks. -/
structure Client.SameLocks (client other : Client channel) : Prop where
  /-- `LOCKED_BSSID`. -/
  locked : client.lockedBssid = other.lockedBssid
  /-- `prev` of `poll_ap_bssid`. -/
  polled : client.pollPrev = other.pollPrev

/-- The same beacons are foreign to them. -/
theorem Client.SameLocks.foreign {client other : Client channel} (same : client.SameLocks other) :
    client.foreign = other.foreign := by
  funext action
  cases action with
  | receive packet =>
    unfold Client.foreign Client.locks
    rw [same.locked]
  | poll | consume | queryExtra => rfl

/-- A poll moves their locks alike. -/
theorem Client.SameLocks.afterPoll {client other : Client channel} (same : client.SameLocks other)
    (action : Action) : (client.afterPoll action).SameLocks (other.afterPoll action) := by
  obtain ⟨locked, polled⟩ := same
  cases action with
  | poll info =>
    cases info with
    | none => exact ⟨locked, polled⟩
    | some bssid =>
      unfold Client.afterPoll pollApBssid
      dsimp only
      rw [polled]
      split
      · exact ⟨rfl, rfl⟩
      · exact ⟨locked, polled⟩
  | receive | consume | queryExtra => exact ⟨locked, polled⟩

/-- The locks of a run are those of its polls. -/
theorem sameLocks_of_run {checks : OverflowChecks} {actions : List Action} {client : Client channel}
    (reached : (clientSystem checks channel).run actions = .ok client) :
    client.SameLocks (actions.foldl Client.afterPoll (Client.boot channel)) := by
  refine System.run_induction (motive := fun actions client =>
    client.SameLocks (actions.foldl Client.afterPoll (Client.boot channel))) ⟨rfl, rfl⟩
    (fun actions before action after _ same stepped => ?_) reached
  have moved := (Client.stepped_of_step stepped).locks
  have next := same.afterPoll action
  rw [List.foldl_concat]
  exact ⟨moved.1.trans next.locked, moved.2.trans next.polled⟩

/-- A quiet step is one of a client without an average, which is not stopped by it. -/
theorem step_of_quietStep {checks : OverflowChecks} {client after : Client channel}
    {action : Action} (stepped : client.quietStep checks action = .ok after) :
    ∃ next, client.quiet.step checks action = .ok next ∧ next.quiet = after := by
  have first : ∀ packet, Client.averageDelta checks client.quiet.instantMinusTsf packet =
      .ok (wrapI64 (packet.instantUsAtCb.toInt - packet.ownTsfAtCb.toInt)) := by
    intro packet
    unfold Client.averageDelta
    exact if_pos rfl
  rw [Client.quietStep_quiet] at stepped
  apply exists_of_map_eq_ok
  cases action with
  | receive packet => exact (Client.rxCb_quiet (first packet)).trans stepped
  | poll | consume | queryExtra => exact stepped

/-- A quiet step moves the locks as a step of the client does. -/
theorem Client.SameLocks.quietStep {checks : OverflowChecks} {client after other : Client channel}
    {action : Action} (same : client.SameLocks other)
    (stepped : client.quietStep checks action = .ok after) :
    after.SameLocks (other.afterPoll action) := by
  obtain ⟨next, returned, rfl⟩ := step_of_quietStep stepped
  have moved := (Client.stepped_of_step returned).locks
  have quiet : client.quiet.SameLocks other := ⟨same.locked, same.polled⟩
  have later := quiet.afterPoll action
  exact ⟨moved.1.trans later.locked, moved.2.trans later.polled⟩

/-- A quiet run goes on without its foreign beacons as with them. -/
theorem foldlM_withoutForeign (checks : OverflowChecks) (actions : List Action)
    {client locks : Client channel} (same : client.SameLocks locks) (silent : client.quiet = client) :
    (locks.withoutForeign actions).foldlM (Client.quietStep checks) client =
      actions.foldlM (Client.quietStep checks) client := by
  induction actions generalizing client locks with
  | nil => rfl
  | cons action rest ih =>
    have agree := congrFun same.foreign action
    rw [Client.withoutForeign, List.foldlM_cons]
    by_cases foreign : locks.foreign action = true
    · have stays : locks.afterPoll action = locks := by
        cases action with
        | receive => rfl
        | poll | consume | queryExtra => contradiction
      rw [if_pos foreign, stays, Client.quietStep_foreign checks (agree.trans foreign), silent, ok_bind]
      exact ih same silent
    · rw [if_neg foreign, List.foldlM_cons]
      cases stepped : client.quietStep checks action with
      | error stop => rfl
      | ok after =>
        rw [ok_bind, ok_bind]
        obtain ⟨next, _, rfl⟩ := step_of_quietStep stepped
        exact ih (same.quietStep stepped) rfl

/-- What is deleted from a run is deleted from every longer one. -/
theorem Client.withoutForeign_append (client : Client channel) (actions more : List Action) :
    client.withoutForeign (actions ++ more) =
      client.withoutForeign actions ++ (actions.foldl Client.afterPoll client).withoutForeign more := by
  induction actions generalizing client with
  | nil => rfl
  | cons action rest ih =>
    rw [List.cons_append, Client.withoutForeign, Client.withoutForeign, List.foldl_cons, ih]
    split
    · rfl
    · rfl

/-- Equal quiet parts answer every query alike. -/
theorem answers_of_quiet_eq {left right : Client channel} (same : left.quiet = right.quiet)
    (checks : OverflowChecks) :
    left.syncedNsAt = right.syncedNsAt ∧ left.syncedNsAtOwnTsf = right.syncedNsAtOwnTsf ∧
      left.syncedNsAtExtra checks = right.syncedNsAtExtra checks ∧
      ∀ extraUs extraPerUsQ32,
        (left.storeExtraRate extraPerUsQ32).syncedNsAtExtraFiltered extraUs extraPerUsQ32 =
          (right.storeExtraRate extraPerUsQ32).syncedNsAtExtraFiltered extraUs extraPerUsQ32 := by
  have synced : left.quiet.syncedNsAt = right.quiet.syncedNsAt := by rw [same]
  have own : left.quiet.syncedNsAtOwnTsf = right.quiet.syncedNsAtOwnTsf := by rw [same]
  have extra : left.quiet.syncedNsAtExtra checks = right.quiet.syncedNsAtExtra checks := by
    rw [same]
  have filtered : ∀ extraUs extraPerUsQ32,
      (left.quiet.storeExtraRate extraPerUsQ32).syncedNsAtExtraFiltered extraUs extraPerUsQ32 =
        (right.quiet.storeExtraRate extraPerUsQ32).syncedNsAtExtraFiltered extraUs
          extraPerUsQ32 := by
    rw [same]
    exact fun _ _ => rfl
  exact ⟨synced, own, extra, filtered⟩

/-- A run and what remains of it have the same quiet outcome. -/
theorem run_withoutForeign {checks : OverflowChecks} {actions : List Action}
    (whole : ∃ average, (averageSystem checks).run actions = .ok average)
    (rest : ∃ average,
      (averageSystem checks).run ((Client.boot channel).withoutForeign actions) = .ok average) :
    ((clientSystem checks channel).run ((Client.boot channel).withoutForeign actions)).map
        Client.quiet =
      ((clientSystem checks channel).run actions).map Client.quiet := by
  rw [run_quiet whole, run_quiet rest]
  exact foldlM_withoutForeign checks actions ⟨rfl, rfl⟩ rfl

/-- **Foreign beacons do not interfere.** Take any run, and the same run without the beacons
that were foreign when they came, such that the telemetry average overflows in neither.
After every part of the run, what remains of it has returned when the whole has, with the
same synchronisation cells and the same answers, and has stopped for the same reason when
the whole has. -/
theorem foreign_beacons_do_not_interfere (checks : OverflowChecks)
    (channel : Channel SnifferEvent) {actions : List Action}
    (whole : ∃ average, (averageSystem checks).run actions = .ok average)
    (rest : ∃ average,
      (averageSystem checks).run ((Client.boot channel).withoutForeign actions) = .ok average)
    {earlier : List Action} (part : earlier <+: actions) :
    (Client.boot channel).withoutForeign earlier <+: (Client.boot channel).withoutForeign actions ∧
    (∀ full, (clientSystem checks channel).run earlier = .ok full →
      full.foreign = (earlier.foldl Client.afterPoll (Client.boot channel)).foreign ∧
      ∃ alone, (clientSystem checks channel).run ((Client.boot channel).withoutForeign earlier) =
          .ok alone ∧
        alone = { full with
          framesSeen := alone.framesSeen
          beaconsSeen := alone.beaconsSeen
          instantMinusTsf := alone.instantMinusTsf } ∧
        alone.syncedNsAt = full.syncedNsAt ∧ alone.syncedNsAtOwnTsf = full.syncedNsAtOwnTsf ∧
        alone.syncedNsAtExtra checks = full.syncedNsAtExtra checks ∧
        ∀ extraUs extraPerUsQ32,
          (alone.storeExtraRate extraPerUsQ32).syncedNsAtExtraFiltered extraUs extraPerUsQ32 =
            (full.storeExtraRate extraPerUsQ32).syncedNsAtExtraFiltered extraUs extraPerUsQ32) ∧
    ∀ stop, (clientSystem checks channel).run earlier = .error stop ↔
      (clientSystem checks channel).run ((Client.boot channel).withoutForeign earlier) =
        .error stop := by
  obtain ⟨more, rfl⟩ := part
  rw [Client.withoutForeign_append] at rest ⊢
  obtain ⟨_, averaged⟩ := whole
  obtain ⟨_, remaining⟩ := rest
  have same := @run_withoutForeign channel _ _ (System.run_append_ok averaged)
    (System.run_append_ok remaining)
  refine ⟨List.prefix_append _ _, fun full reached => ?_, fun stop => ?_⟩
  · rw [reached] at same
    obtain ⟨alone, returned, quiet⟩ := exists_of_map_eq_ok same
    refine ⟨(sameLocks_of_run reached).foreign, alone, returned, ?_, answers_of_quiet_eq quiet checks⟩
    exact congrArg (fun client : Client channel => { client with
      framesSeen := alone.framesSeen
      beaconsSeen := alone.beaconsSeen
      instantMinusTsf := alone.instantMinusTsf }) quiet
  · constructor
    · intro stopped
      rw [stopped] at same
      exact eq_error_of_map_eq_error same
    · intro stopped
      rw [stopped] at same
      exact eq_error_of_map_eq_error same.symm

/-- A neighbour's beacon between locking and the first own beacon leaves no trace. -/
theorem foreign_beacons_do_not_interfere_neighbour :
    ∃ full alone,
      (clientSystem .enabled (Channel.ofList SnifferEvent channelDepth)).run
        [.poll (some homeBssid),
          .receive (.ofBeacon neighbourBssid 900000 50 50),
          .receive (.ofBeacon homeBssid 7000 100 100)] = .ok full ∧
      (clientSystem .enabled (Channel.ofList SnifferEvent channelDepth)).run
        [.poll (some homeBssid),
          .receive (.ofBeacon homeBssid 7000 100 100)] = .ok alone ∧
      alone.syncedNsAt = full.syncedNsAt := by
  have remaining : (Client.boot (Channel.ofList SnifferEvent channelDepth)).withoutForeign
      [.poll (some homeBssid),
        .receive (.ofBeacon neighbourBssid 900000 50 50),
        .receive (.ofBeacon homeBssid 7000 100 100)] =
      [.poll (some homeBssid), .receive (.ofBeacon homeBssid 7000 100 100)] := by decide +kernel
  have steady : ∀ packet, Action.receive packet ∈ [.poll (some homeBssid),
      .receive (.ofBeacon neighbourBssid 900000 50 50),
      .receive (.ofBeacon homeBssid 7000 100 100)] → packet.Steady := by
    intro packet member
    simp only [List.mem_cons, Action.receive.injEq, reduceCtorEq, List.not_mem_nil, or_false,
      false_or] at member
    rcases member with rfl | rfl
    · unfold Reception.Steady
      decide +kernel
    · unfold Reception.Steady
      decide +kernel
  have kept : [.poll (some homeBssid), .receive (.ofBeacon homeBssid 7000 100 100)] ⊆
      [.poll (some homeBssid), .receive (.ofBeacon neighbourBssid 900000 50 50),
        Action.receive (.ofBeacon homeBssid 7000 100 100)] := by simp
  obtain ⟨_, whole, _⟩ := @average_ok .enabled _ (Or.inr steady)
  obtain ⟨_, rest, _⟩ := @average_ok .enabled _
    (Or.inr fun packet member => steady packet (kept member))
  obtain ⟨full, ran, _⟩ := exists_of_map_eq_ok (show
    ((clientSystem .enabled (Channel.ofList SnifferEvent channelDepth)).run
      [.poll (some homeBssid),
        .receive (.ofBeacon neighbourBssid 900000 50 50),
        .receive (.ofBeacon homeBssid 7000 100 100)]).map Client.beaconsSeen = .ok 2 by
          decide +kernel)
  obtain ⟨_, returns, _⟩ := foreign_beacons_do_not_interfere .enabled
    (Channel.ofList SnifferEvent channelDepth) ⟨_, whole⟩ ⟨_, remaining ▸ rest⟩
    (List.prefix_refl _)
  obtain ⟨_, alone, reached, _, same, _⟩ := returns full ran
  rw [remaining] at reached
  exact ⟨full, alone, ran, reached, same⟩

/-- **A foreign beacon that stops the client.** Two beacons of a neighbour, the second with the
top bit of the own TSF set, overflow the average of a build with checks; without them
the client goes on to use the next beacon of its access point. -/
theorem foreign_beacons_stop_client :
    (Client.boot (Channel.ofList SnifferEvent channelDepth)).withoutForeign
        [.poll (some homeBssid),
          .receive (.ofBeacon neighbourBssid 900000 100 0),
          .receive (.ofBeacon neighbourBssid 900100 200 9223372036854776000),
          .receive (.ofBeacon homeBssid 7000 300 300)] =
      [.poll (some homeBssid), .receive (.ofBeacon homeBssid 7000 300 300)] ∧
    (clientSystem .enabled (Channel.ofList SnifferEvent channelDepth)).run
        [.poll (some homeBssid),
          .receive (.ofBeacon neighbourBssid 900000 100 0),
          .receive (.ofBeacon neighbourBssid 900100 200 9223372036854776000),
          .receive (.ofBeacon homeBssid 7000 300 300)] = .error .overflow ∧
    ∃ alone, (clientSystem .enabled (Channel.ofList SnifferEvent channelDepth)).run
        [.poll (some homeBssid), .receive (.ofBeacon homeBssid 7000 300 300)] = .ok alone ∧
      alone.beaconsUsed = 1 := by
  refine ⟨by decide +kernel, ?_, exists_of_map_eq_ok (by decide +kernel)⟩
  exact eq_error_of_map_eq_error (show
    ((clientSystem .enabled (Channel.ofList SnifferEvent channelDepth)).run
      [.poll (some homeBssid),
        .receive (.ofBeacon neighbourBssid 900000 100 0),
        .receive (.ofBeacon neighbourBssid 900100 200 9223372036854776000),
        .receive (.ofBeacon homeBssid 7000 300 300)]).map Client.beaconsUsed =
      .error .overflow by decide +kernel)

end EspClockSync
