import EspClockSync.Verif.BoardSteps
import EspClockSync.Verif.ExtraTimer

/-!
# A board runs the client

Forgetting pins, lines and tasks, a board is a client whose application queries it between
callbacks. Both tasks pass one rate to every query, and no query comes before the capture
timer is hooked to the callback; so the extra filter stays in one unit and never holds a
reading of a callback without a hook.
-/

namespace EspClockSync

open Machine

variable {channel : Channel SnifferEvent} {checks : OverflowChecks}

/-! ## Queries of one rate -/

/-- No rate but this one is stored, and without it the extra filter is fresh. -/
structure Client.SingleRate (rate : U64) (client : Client channel) : Prop where
  /-- The stored rate is this one or none. -/
  stored : client.extraPerUsQ32 = 0 ∨ client.extraPerUsQ32 = rate
  /-- Without a rate nothing was absorbed. -/
  fresh : client.extraPerUsQ32 = 0 → client.apTsfMinusExtraFilter.initialized = false

/-- A query passes this rate. -/
def PassesRate (rate : U64) : Action → Prop
  | .queryExtra _ extraPerUsQ32 => extraPerUsQ32 = rate
  | _ => True

/-- Every step that passes the rate at most keeps a single rate. -/
theorem Client.SingleRate.stepped {rate : U64} (nonzero : rate ≠ 0)
    {client after : Client channel} {action : Action} {effects : List Effect}
    (single : client.SingleRate rate) (passes : PassesRate rate action)
    (stepped : client.Stepped checks action after effects) : after.SingleRate rate := by
  have accepted : ∀ (packet : Reception) (updated : Int) (instant extra : AlphaBetaFilter),
      client.Accepts checks packet updated instant extra → client.extraPerUsQ32 = 0 →
        extra.initialized = false := by
    intro packet updated instant extra accepts unset
    have fed := accepts.fed
    unfold Client.feedExtra at fed
    rw [if_pos unset] at fed
    rw [← Except.ok.inj fed]
    exact single.fresh unset
  cases stepped with
  | usedBeacon packet updated instant extra samples accepts sent =>
    exact ⟨single.stored, accepted packet updated instant extra accepts⟩
  | lostBeacon packet updated instant extra accepts full =>
    exact ⟨single.stored, accepted packet updated instant extra accepts⟩
  | polled info =>
    obtain ⟨locked, prev, same⟩ := client.pollApBssid_eq info
    rw [same]
    exact ⟨single.stored, single.fresh⟩
  | queried extraUs extraPerUsQ32 =>
    have same : extraPerUsQ32 = rate := passes
    exact ⟨Or.inr same, fun zero => absurd (same.symm.trans zero) nonzero⟩
  | foreignBeacon | unmatchedFrame | matchedFrame | droppedFrame | waited | tookBeacon | tookUdp
    | fedBeacon | droppedUdp | convertedUdp | fedUdp => exact ⟨single.stored, single.fresh⟩

/-- Queries of one nonzero rate store no other. -/
theorem singleRate_of_run {rate : U64} (nonzero : rate ≠ 0) {actions : List Action}
    {client : Client channel} (ran : (clientSystem checks channel).run actions = .ok client)
    (passes : ∀ action ∈ actions, PassesRate rate action) : client.SingleRate rate := by
  have along : (∀ action ∈ actions, PassesRate rate action) → client.SingleRate rate := by
    refine System.run_induction (motive := fun actions client =>
      (∀ action ∈ actions, PassesRate rate action) → client.SingleRate rate)
      (fun _ => ⟨Or.inl rfl, fun _ => rfl⟩)
      (fun actions before action after _ held stepped passed => ?_) ran
    have last : PassesRate rate action := passed action (by simp)
    exact (held fun other member => passed other (List.mem_append_left _ member)).stepped nonzero
      last (Client.stepped_of_step stepped)
  exact along passes

/-- Queries of one nonzero rate keep the rate. -/
theorem keepsRate_of_passesRate {rate : U64} (nonzero : rate ≠ 0) {actions : List Action}
    (passes : ∀ action ∈ actions, PassesRate rate action) :
    (ratedClient checks channel).EachStep KeepsRate actions := by
  intro earlier action part state ran
  have inside : ∀ other ∈ earlier ++ [action], PassesRate rate other := fun other member =>
    passes other (part.subset member)
  have reached := singleRate_of_run nonzero (System.run_of_observed ran) fun other member =>
    inside other (List.mem_append_left _ member)
  cases action with
  | receive | poll | consume => trivial
  | queryExtra extraUs extraPerUsQ32 =>
    have same : extraPerUsQ32 = rate := inside (.queryExtra extraUs extraPerUsQ32) (by simp)
    refine ⟨same ▸ nonzero, fun running => ?_⟩
    rcases reached.stored with unset | set
    · exact absurd (running.symm.trans (reached.fresh unset)) (by decide)
    · exact set.trans same.symm

namespace Rig

variable {mac : Mac}

/-! ## The client of a board -/

/-- The actions that a step of a board makes its client take. -/
def Board.clientActions (board : Board channel) : BoardAction → List Action
  | .receive packet => [.receive (board.hookedPacket packet)]
  | .poll info => [.poll info]
  | .consume => [.consume]
  | .print _ => []
  | .spawn _ _ => []
  | .pulse _ _ =>
    match board.pulser with
    | .storing _ edgeCap => [.queryExtra edgeCap capTicksPerUsQ32]
    | _ => []
  | .report _ _ =>
    match board.reporter with
    | .storing _ capUs => [.queryExtra capUs capTicksPerUsQ32]
    | _ => []

/-- Every query of a board passes the rate of the capture timer. -/
theorem Board.passesRate_clientActions (board : Board channel) (action : BoardAction) :
    ∀ taken ∈ board.clientActions action, PassesRate capTicksPerUsQ32 taken := by
  intro taken member
  cases action with
  | receive | poll | consume =>
    rw [List.mem_singleton.mp member]
    trivial
  | print | spawn => exact absurd member List.not_mem_nil
  | pulse =>
    simp only [clientActions] at member
    split at member
    · rw [List.mem_singleton.mp member]
      rfl
    · exact absurd member List.not_mem_nil
  | report =>
    simp only [clientActions] at member
    split at member
    · rw [List.mem_singleton.mp member]
      rfl
    · exact absurd member List.not_mem_nil

/-- A query by a nonzero rate stores it. -/
theorem step_queryExtra (client : Client channel) (extraUs : U64) {rate : U64}
    (nonzero : rate ≠ 0) :
    client.step checks (.queryExtra extraUs rate) = .ok (client.storeExtraRate rate) := by
  obtain ⟨answer, returned⟩ :=
    (client.storeExtraRate rate).syncedNsAtExtraFiltered_ok extraUs nonzero
  unfold Client.step
  dsimp only
  rw [returned, ok_bind]

/-- Actions of the client alone are one action. -/
theorem foldlM_singleton {action : Action} {client after : Client channel}
    (returned : client.step checks action = .ok after) :
    [action].foldlM (Client.step checks) client = .ok after := by
  rw [List.foldlM_cons, returned, ok_bind, List.foldlM_nil]
  rfl

/-- Actions that take no part leave the client. -/
theorem foldlM_of_eq_nil {actions : List Action} (nothing : actions = [])
    (client : Client channel) : actions.foldlM (Client.step checks) client = .ok client := by
  rw [nothing]
  rfl

/-- **Step.** A step of a board takes its client through the actions of the step. -/
theorem Board.Stepped.client {before after : Board channel} {action : BoardAction}
    (stepped : before.Stepped checks mac action after) :
    (before.clientActions action).foldlM (Client.step checks) before.client =
      .ok after.client := by
  have rate : capTicksPerUsQ32 ≠ 0 := by decide
  cases stepped with
  | received packet client returned => exact foldlM_singleton returned
  | polledAp info client returned => exact foldlM_singleton returned
  | consumed client returned => exact foldlM_singleton returned
  | noted | spawned | respawned => rfl
  | waited nowUs cap same =>
    apply foldlM_of_eq_nil
    simp only [clientActions]
    split
    · rename_i tick edgeCap storing
      simp only [pulse, storing, Except.ok.injEq] at same
      have point := congrArg Board.pulser same
      rw [storing] at point
      contradiction
    · rfl
  | converged nowUs cap nowNs point =>
    exact foldlM_of_eq_nil (by simp only [clientActions, point]) _
  | read nowUs cap nowNs tick point =>
    exact foldlM_of_eq_nil (by simp only [clientActions, point]) _
  | unplanned nowUs cap tick point =>
    exact foldlM_of_eq_nil (by simp only [clientActions, point]) _
  | planned nowUs cap tick targetLocalUs point =>
    exact foldlM_of_eq_nil (by simp only [clientActions, point]) _
  | slept nowUs cap tick targetLocalUs point =>
    exact foldlM_of_eq_nil (by simp only [clientActions, point]) _
  | spun nowUs cap tick targetLocalUs waiting =>
    apply foldlM_of_eq_nil
    rcases waiting with point | ⟨coarseWait, point⟩
    · simp only [clientActions, point]
    · simp only [clientActions, point]
  | due nowUs cap tick targetLocalUs waiting =>
    apply foldlM_of_eq_nil
    rcases waiting with point | point
    · simp only [clientActions, point]
    · simp only [clientActions, point]
  | raised nowUs cap tick point =>
    exact foldlM_of_eq_nil (by simp only [clientActions, point]) _
  | raisedSelf nowUs cap tick point =>
    exact foldlM_of_eq_nil (by simp only [clientActions, point]) _
  | captured nowUs cap tick point =>
    exact foldlM_of_eq_nil (by simp only [clientActions, point]) _
  | stored nowUs cap tick edgeCap storing =>
    simp only [clientActions, storing]
    exact foldlM_singleton (step_queryExtra _ edgeCap rate)
  | converted nowUs cap tick edgeCap answer point =>
    exact foldlM_of_eq_nil (by simp only [clientActions, point]) _
  | held nowUs cap tick edgeCap actualSyncedNs releaseAt point =>
    exact foldlM_of_eq_nil (by simp only [clientActions, point]) _
  | ended nowUs cap tick edgeCap actualSyncedNs releaseAt point =>
    exact foldlM_of_eq_nil (by simp only [clientActions, point]) _
  | lowered nowUs cap tick edgeCap actualSyncedNs point =>
    exact foldlM_of_eq_nil (by simp only [clientActions, point]) _
  | loweredSelf nowUs cap tick edgeCap actualSyncedNs point =>
    exact foldlM_of_eq_nil (by simp only [clientActions, point]) _
  | told nowUs cap tick edgeCap actualSyncedNs point =>
    exact foldlM_of_eq_nil (by simp only [clientActions, point]) _
  | unreported nowUs raw point =>
    exact foldlM_of_eq_nil (by simp only [clientActions, point]) _
  | polled nowUs raw port edge found point =>
    exact foldlM_of_eq_nil (by simp only [clientActions, point]) _
  | storedEdge nowUs raw port capUs storing =>
    simp only [clientActions, storing]
    exact foldlM_singleton (step_queryExtra _ capUs rate)
  | logged nowUs raw port capUs syncedNs point =>
    exact foldlM_of_eq_nil (by simp only [clientActions, point]) _

/-- **Refinement.** What a board's client has gone through is a run of the client, in which
every query passes the rate of the capture timer. -/
theorem client_run_of_run {actions : List BoardAction} {board : Board channel}
    (ran : (boardSystem checks mac channel).run actions = .ok board) :
    ∃ taken, (clientSystem checks channel).run taken = .ok board.client ∧
      ∀ action ∈ taken, PassesRate capTicksPerUsQ32 action := by
  obtain ⟨taken, observed⟩ := System.observed_of_run Board.clientActions ran
  refine ⟨taken, ?_, ?_⟩
  · exact System.run_of_stuttering (clientSystem checks channel) Board.client Board.clientActions
      rfl (fun before action after stepped =>
        (Board.stepped_of_step stepped).client) observed
  · exact System.forall_of_observed Board.passesRate_clientActions observed

/-! ## Before the hook -/

/-- Until the hook is set no task runs, and nothing has gone into the extra filter. -/
structure Board.Unhooked (board : Board channel) : Prop where
  /-- The pulser is not spawned. -/
  pulser : board.pulser = .unspawned
  /-- Nor is the reporter. -/
  reporter : board.reporter = .unspawned
  /-- No rate is stored. -/
  rate : board.client.extraPerUsQ32 = 0

/-- A frame, a poll or a consumer step leaves the rate. -/
theorem extraPerUsQ32_of_step {client after : Client channel} {action : Action}
    (returned : client.step checks action = .ok after)
    (other : ∀ extraUs rate, action ≠ .queryExtra extraUs rate) :
    after.extraPerUsQ32 = client.extraPerUsQ32 := by
  have stepped := Client.stepped_of_step returned
  generalize client.effects action = effects at stepped
  cases stepped with
  | polled info =>
    obtain ⟨locked, prev, same⟩ := client.pollApBssid_eq info
    rw [same]
  | queried extraUs rate => exact absurd rfl (other extraUs rate)
  | usedBeacon | lostBeacon | foreignBeacon | unmatchedFrame | matchedFrame | droppedFrame
    | waited | tookBeacon | tookUdp | fedBeacon | droppedUdp | convertedUdp | fedUdp => rfl

/-- Every step keeps a board unhooked or hooks it. -/
theorem Board.Stepped.unhooked {before after : Board channel} {action : BoardAction}
    (held : before.hooked = false → before.Unhooked)
    (stepped : before.Stepped checks mac action after) :
    after.hooked = false → after.Unhooked := by
  intro unhooked
  cases stepped with
  | received packet client returned =>
    have earlier := held unhooked
    have same := extraPerUsQ32_of_step returned fun _ _ => by simp
    exact ⟨earlier.pulser, earlier.reporter, same.trans earlier.rate⟩
  | polledAp info client returned =>
    have earlier := held unhooked
    have same := extraPerUsQ32_of_step returned fun _ _ => by simp
    exact ⟨earlier.pulser, earlier.reporter, same.trans earlier.rate⟩
  | consumed client returned =>
    have earlier := held unhooked
    have same := extraPerUsQ32_of_step returned fun _ _ => by simp
    exact ⟨earlier.pulser, earlier.reporter, same.trans earlier.rate⟩
  | noted line =>
    have earlier := held unhooked
    exact ⟨earlier.pulser, earlier.reporter, earlier.rate⟩
  | spawned => exact Bool.noConfusion unhooked
  | respawned first second hooked => exact held unhooked
  | waited => exact held unhooked
  | unreported => exact held unhooked
  | converged nowUs cap nowNs point | read nowUs cap nowNs tick point
    | unplanned nowUs cap tick point | planned nowUs cap tick targetLocalUs point
    | slept nowUs cap tick targetLocalUs point | raised nowUs cap tick point
    | raisedSelf nowUs cap tick point | captured nowUs cap tick point
    | stored nowUs cap tick edgeCap point | converted nowUs cap tick edgeCap answer point
    | held nowUs cap tick edgeCap actualSyncedNs releaseAt point
    | ended nowUs cap tick edgeCap actualSyncedNs releaseAt point
    | lowered nowUs cap tick edgeCap actualSyncedNs point
    | loweredSelf nowUs cap tick edgeCap actualSyncedNs point
    | told nowUs cap tick edgeCap actualSyncedNs point =>
    exact absurd ((held unhooked).pulser.symm.trans point) (by simp)
  | spun nowUs cap tick targetLocalUs waiting =>
    have idle := (held unhooked).pulser
    rcases waiting with point | ⟨coarseWait, point⟩
    · exact absurd (idle.symm.trans point) (by simp)
    · exact absurd (idle.symm.trans point) (by simp)
  | due nowUs cap tick targetLocalUs waiting =>
    have idle := (held unhooked).pulser
    rcases waiting with point | point
    · exact absurd (idle.symm.trans point) (by simp)
    · exact absurd (idle.symm.trans point) (by simp)
  | polled nowUs raw port edge found point | storedEdge nowUs raw port capUs point
    | logged nowUs raw port capUs syncedNs point =>
    exact absurd ((held unhooked).reporter.symm.trans point) (by simp)

/-- Every board reached without its hook is unhooked. -/
theorem unhooked_of_run {actions : List BoardAction} {board : Board channel}
    (ran : (boardSystem checks mac channel).run actions = .ok board) :
    board.hooked = false → board.Unhooked :=
  board_induction (motive := fun board => board.hooked = false → board.Unhooked)
    (fun _ => ⟨rfl, rfl, rfl⟩) (fun _ _ _ held stepped => stepped.unhooked held) ran

/-- **One unit on every board.** Whatever a board runs through, its client is in a state of a
run in which every query returns and answers from observations of its own rate only; the
observations that the extra filter has absorbed were all converted by the rate of the capture
timer, and there are none before that timer is hooked to the callback. -/
theorem board_in_one_unit {actions : List BoardAction} {board : Board channel}
    (ran : (boardSystem checks mac channel).run actions = .ok board) :
    ∃ taken rates, (ratedClient checks channel).run taken = .ok (board.client, rates) ∧
      (∀ rate ∈ rates, rate = capTicksPerUsQ32) ∧
      (∀ extraUs, InOneUnit (board.client, rates) (.queryExtra extraUs capTicksPerUsQ32)) ∧
      (board.hooked = false → rates = []) := by
  have nonzero : capTicksPerUsQ32 ≠ 0 := by decide
  obtain ⟨taken, reached, passes⟩ := client_run_of_run ran
  obtain ⟨rates, rated⟩ := System.observed_of_run Client.extraRates reached
  have one := oneRate_of_run rated (keepsRate_of_passesRate nonzero passes)
  have single := singleRate_of_run nonzero reached passes
  have nothing : board.client.extraPerUsQ32 = 0 → rates = [] := by
    intro unset
    by_contra some
    exact absurd ((one.seeded.mpr some).symm.trans (single.fresh unset)) (by decide)
  have same : ∀ rate ∈ rates, rate = capTicksPerUsQ32 := by
    intro rate member
    rw [one.stored rate member]
    rcases single.stored with unset | set
    · exact absurd (nothing unset) (List.ne_nil_of_mem member)
    · exact set
  refine ⟨taken, rates, rated, same, fun extraUs => ?_, fun unhooked => ?_⟩
  · obtain ⟨answer, returned⟩ :=
      (board.client.storeExtraRate capTicksPerUsQ32).syncedNsAtExtraFiltered_ok extraUs nonzero
    exact ⟨answer, returned, fun _ => same⟩
  · exact nothing (unhooked_of_run ran unhooked).rate

/-- Association, a beacon before the hook, the calibration, an edge and a beacon after it. -/
def edgeSession : List BoardAction :=
  [.poll (some homeBssid), .receive (.ofBeacon homeBssid 7000 1000 5000),
    .spawn ⟨5, 2000, none⟩ ⟨320000005, 4002000, none⟩,
    .report 4003000 320080005, .report 4003000 320080005,
    .receive (.ofBeacon homeBssid 4010000 4004000 4008000), .report 4004100 320080005]

/-- The edge of this session leaves one observation in the filter. -/
theorem board_in_one_unit_edge :
    ∃ board taken rates,
      (boardSystem .enabled (0, 0, 0) (Channel.ofList SnifferEvent channelDepth)).run edgeSession =
        .ok board ∧
      (ratedClient .enabled (Channel.ofList SnifferEvent channelDepth)).run taken =
        .ok (board.client, rates) ∧
      board.client.apTsfMinusExtraFilter.initialized = true ∧
      ∀ rate ∈ rates, rate = capTicksPerUsQ32 := by
  obtain ⟨board, ran, seeded⟩ := exists_of_map_eq_ok (show
    ((boardSystem .enabled (0, 0, 0) (Channel.ofList SnifferEvent channelDepth)).run
      edgeSession).map (fun board => board.client.apTsfMinusExtraFilter.initialized) =
        .ok true by decide +kernel)
  obtain ⟨taken, rates, rated, same, _⟩ := board_in_one_unit ran
  exact ⟨board, taken, rates, ran, rated, seeded, same⟩

end Rig

end EspClockSync
