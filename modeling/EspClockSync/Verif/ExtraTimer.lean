import EspClockSync.Verif.ClientSteps

/-!
# The extra timer

A query through `AP_TSF_MINUS_EXTRA_FILTER` stores its rate, and the radio callback converts
the readings it feeds with the stored rate. The filter is in one unit as long as no query
changes the rate after the first reading was absorbed; the query itself divides by its
argument without a test.
-/

namespace EspClockSync

open Machine

variable {channel : Channel SnifferEvent} {checks : OverflowChecks}

/-! ## Rates of what the filter absorbed -/

/-- The rates by which an action converts the observations that
`AP_TSF_MINUS_EXTRA_FILTER` absorbs in it. -/
def Client.extraRates (client : Client channel) : Action → List U64
  | .receive packet =>
    if packet.isBeacon && client.locks packet.bssid && client.extraPerUsQ32 != 0 then
      match extraInUs packet.extraUs client.extraPerUsQ32 with
      | .ok extra =>
        if client.apTsfMinusExtraFilter.absorbs extra then [client.extraPerUsQ32] else []
      | .error _ => []
    else []
  | _ => []

/-- The client with the rate of every observation its extra filter absorbed. -/
def ratedClient (checks : OverflowChecks) (channel : Channel SnifferEvent) :
    System (Client channel × List U64) Action Panic :=
  (clientSystem checks channel).observed Client.extraRates

/-- A call of `synced_ns_at_extra_filtered` returns, and it answers only if the filter
absorbed observations of its own rate only. -/
def InOneUnit (state : Client channel × List U64) : Action → Prop
  | .queryExtra extraUs extraPerUsQ32 =>
    ∃ answer, (state.1.storeExtraRate extraPerUsQ32).syncedNsAtExtraFiltered extraUs
        extraPerUsQ32 = .ok answer ∧
      (answer ≠ none → ∀ rate ∈ state.2, rate = extraPerUsQ32)
  | _ => True

/-- A call passes a nonzero rate, and the stored one when the filter holds an observation. -/
def KeepsRate (state : Client channel × List U64) : Action → Prop
  | .queryExtra _ extraPerUsQ32 =>
    extraPerUsQ32 ≠ 0 ∧ (state.1.apTsfMinusExtraFilter.initialized = true →
      state.1.extraPerUsQ32 = extraPerUsQ32)
  | _ => True

instance (state : Client channel × List U64) : ∀ action, Decidable (KeepsRate state action)
  | .queryExtra _ _ => inferInstanceAs (Decidable (_ ∧ (_ → _)))
  | .receive _ => inferInstanceAs (Decidable True)
  | .poll _ => inferInstanceAs (Decidable True)
  | .consume => inferInstanceAs (Decidable True)

/-! ## One step -/

/-- A conversion by a nonzero rate has a result. -/
theorem extraInUs_ok (extraUs : U64) {extraPerUsQ32 : U64} (nonzero : extraPerUsQ32 ≠ 0) :
    ∃ extra, extraInUs extraUs extraPerUsQ32 = .ok extra := by
  have positive : 0 < extraPerUsQ32.toNat :=
    Nat.pos_of_ne_zero fun zero => nonzero (BitVec.eq_of_toNat_eq zero)
  unfold extraInUs
  rw [divI128_pos _ (by omega), ok_bind]
  exact ⟨_, rfl⟩

/-- A query by a nonzero rate returns. -/
theorem Client.syncedNsAtExtraFiltered_ok (client : Client channel) (extraUs : U64)
    {extraPerUsQ32 : U64} (nonzero : extraPerUsQ32 ≠ 0) :
    ∃ answer, client.syncedNsAtExtraFiltered extraUs extraPerUsQ32 = .ok answer := by
  obtain ⟨extra, converted⟩ := extraInUs_ok extraUs nonzero
  unfold syncedNsAtExtraFiltered
  rw [converted, ok_bind]
  split
  · exact ⟨_, rfl⟩
  · dsimp only
    split
    · exact ⟨_, rfl⟩
    · exact ⟨_, rfl⟩

/-- A query by the zero rate stops. -/
theorem Client.syncedNsAtExtraFiltered_zero (client : Client channel) (extraUs : U64) :
    client.syncedNsAtExtraFiltered extraUs 0 = .error .divideByZero := rfl

/-- A filter that returned from an observation is seeded. -/
theorem AlphaBetaFilter.initialized_of_observe {f after : AlphaBetaFilter}
    {xUs observedOffsetUs : Int} (returned : f.observe checks xUs observedOffsetUs = .ok after) :
    after.initialized = true := by
  unfold observe at returned
  cases running : f.initialized with
  | false =>
    rw [if_pos (by simp [running])] at returned
    rw [← Except.ok.inj returned]
  | true =>
    rw [if_neg (by simp [running])] at returned
    obtain ⟨dxUs, _, returned⟩ := bind_eq_ok returned
    split at returned
    · rw [← Except.ok.inj returned]
      exact running
    · obtain ⟨innovationQ, _, returned⟩ := bind_eq_ok returned
      obtain ⟨correction, _, returned⟩ := bind_eq_ok returned
      obtain ⟨offsetQ, _, returned⟩ := bind_eq_ok returned
      obtain ⟨observedRateQ, _, returned⟩ := bind_eq_ok returned
      obtain ⟨rateCorrection, _, returned⟩ := bind_eq_ok returned
      rw [← Except.ok.inj returned]
      exact running

/-- Everything the filter absorbed was converted by the stored rate. -/
structure OneRate (client : Client channel) (rates : List U64) : Prop where
  /-- The rates are the stored one. -/
  stored : ∀ rate ∈ rates, rate = client.extraPerUsQ32
  /-- The filter is seeded exactly by what it absorbed. -/
  seeded : client.apTsfMinusExtraFilter.initialized = true ↔ rates ≠ []

/-- An accepted beacon feeds the filter by the stored rate. -/
theorem OneRate.fed {client : Client channel} {rates : List U64} {packet : Reception}
    {updated : Int} {instant extra : AlphaBetaFilter} (one : OneRate client rates)
    (accepts : client.Accepts checks packet updated instant extra) (samples : channel.Buffer) :
    OneRate { client.anchored updated packet instant extra with samples := samples }
      (rates ++ client.extraRates (.receive packet)) := by
  have fed := accepts.fed
  unfold Client.feedExtra at fed
  by_cases unset : client.extraPerUsQ32 = 0
  · rw [if_pos unset] at fed
    have nothing : client.extraRates (.receive packet) = [] := by simp [Client.extraRates, unset]
    rw [nothing, List.append_nil, ← Except.ok.inj fed]
    exact ⟨one.stored, one.seeded⟩
  · rw [if_neg unset] at fed
    obtain ⟨extraUs, converted, observed⟩ := bind_eq_ok fed
    have seeded := AlphaBetaFilter.initialized_of_observe observed
    have logged : client.extraRates (.receive packet) =
        if client.apTsfMinusExtraFilter.absorbs extraUs then [client.extraPerUsQ32] else [] := by
      dsimp only [Client.extraRates]
      rw [if_pos (by simpa [accepts.beacon, accepts.locked] using unset), converted]
    rw [logged]
    cases absorbed : client.apTsfMinusExtraFilter.absorbs extraUs with
    | true =>
      constructor
      · intro rate member
        rcases List.mem_append.mp member with earlier | now
        · exact one.stored rate earlier
        · exact List.mem_singleton.mp now
      · exact iff_of_true seeded (by simp)
    | false =>
      have running : client.apTsfMinusExtraFilter.initialized = true := by
        simp only [AlphaBetaFilter.absorbs, Bool.or_eq_false_iff, Bool.not_eq_false'] at absorbed
        exact absorbed.1
      rw [if_neg Bool.false_ne_true, List.append_nil]
      exact ⟨one.stored, iff_of_true seeded (one.seeded.mp running)⟩

/-- What leaves filter and rate alone keeps one rate. -/
theorem OneRate.kept {client after : Client channel} {rates : List U64} (one : OneRate client rates)
    {action : Action} (nothing : client.extraRates action = [])
    (sameRate : after.extraPerUsQ32 = client.extraPerUsQ32)
    (sameFilter : after.apTsfMinusExtraFilter = client.apTsfMinusExtraFilter) :
    OneRate after (rates ++ client.extraRates action) := by
  rw [nothing, List.append_nil]
  constructor
  · rw [sameRate]
    exact one.stored
  · rw [sameFilter]
    exact one.seeded

/-- **Step.** A step that keeps the rate keeps one rate. -/
theorem OneRate.stepped {client after : Client channel} {rates : List U64} {action : Action}
    {effects : List Effect} (one : OneRate client rates) (keeps : KeepsRate (client, rates) action)
    (stepped : client.Stepped checks action after effects) :
    OneRate after (rates ++ client.extraRates action) := by
  cases stepped with
  | usedBeacon packet updated instant extra samples accepts sent => exact one.fed accepts samples
  | lostBeacon packet updated instant extra accepts full => exact one.fed accepts client.samples
  | foreignBeacon packet updated averaged beacon unlocked =>
    exact one.kept (by simp [Client.extraRates, unlocked]) rfl rfl
  | unmatchedFrame packet updated averaged other found =>
    exact one.kept (by simp [Client.extraRates, other]) rfl rfl
  | matchedFrame packet updated pkt samples matched sent =>
    exact one.kept (by simp [Client.extraRates, matched.other]) rfl rfl
  | droppedFrame packet updated pkt matched full =>
    exact one.kept (by simp [Client.extraRates, matched.other]) rfl rfl
  | polled info =>
    obtain ⟨locked, prev, same⟩ := client.pollApBssid_eq info
    rw [same]
    exact one.kept rfl rfl rfl
  | waited | tookBeacon | tookUdp | fedBeacon | droppedUdp | convertedUdp | fedUdp =>
    exact one.kept rfl rfl rfl
  | queried extraUs extraPerUsQ32 =>
    change OneRate _ (rates ++ [])
    rw [List.append_nil]
    constructor
    · intro rate member
      have seeded := one.seeded.mpr (List.ne_nil_of_mem member)
      have same := keeps.2 seeded
      rw [one.stored rate member]
      exact same
    · exact one.seeded

/-! ## Runs -/

/-- **Run.** Steps that keep the rate lead to one rate. -/
theorem oneRate_of_run {actions : List Action} {client : Client channel} {rates : List U64}
    (ran : (ratedClient checks channel).run actions = .ok (client, rates))
    (keeps : (ratedClient checks channel).EachStep KeepsRate actions) : OneRate client rates := by
  have held : (ratedClient checks channel).EachStep KeepsRate actions → OneRate client rates := by
    refine System.run_induction (motive := fun actions state =>
      (ratedClient checks channel).EachStep KeepsRate actions → OneRate state.1 state.2)
      (fun _ => ⟨fun rate member => absurd member List.not_mem_nil,
        iff_of_false Bool.false_ne_true fun absorbed => absorbed rfl⟩)
      (fun actions before action after earlier held stepped keeps => ?_) ran
    have both := (System.eachStep_concat earlier).mp keeps
    have taken := System.observed_step_ok stepped
    rw [taken.2]
    exact (held both.1).stepped both.2 (Client.stepped_of_step taken.1)
  exact held keeps

/-- **One unit.** In a run whose calls all pass a nonzero rate, and the stored one once the
filter holds an observation, every call returns, and answers from observations of its own
rate only. A first call that does otherwise divides by zero or passes a rate by which no
absorbed observation was converted. -/
theorem extra_queries_in_one_unit {actions : List Action}
    (keeps : (ratedClient checks channel).EachStep KeepsRate actions) :
    (ratedClient checks channel).EachStep InOneUnit actions ∧
      ∀ client rates, (ratedClient checks channel).run actions = .ok (client, rates) →
        ∀ extraUs extraPerUsQ32, ¬ KeepsRate (client, rates) (.queryExtra extraUs extraPerUsQ32) →
          (client.storeExtraRate extraPerUsQ32).syncedNsAtExtraFiltered extraUs extraPerUsQ32 =
              .error .divideByZero ∨
            (rates ≠ [] ∧ ∀ rate ∈ rates, rate ≠ extraPerUsQ32) := by
  constructor
  · intro earlier action part state ran
    cases action with
    | receive | poll | consume => trivial
    | queryExtra extraUs extraPerUsQ32 =>
      have before : (ratedClient checks channel).EachStep KeepsRate earlier :=
        fun first next inside => keeps first next
          (inside.trans ((List.prefix_append _ _).trans part))
      have one := oneRate_of_run ran before
      have kept : KeepsRate state (.queryExtra extraUs extraPerUsQ32) :=
        keeps earlier _ part state ran
      obtain ⟨answer, returned⟩ :=
        (state.1.storeExtraRate extraPerUsQ32).syncedNsAtExtraFiltered_ok extraUs kept.1
      refine ⟨answer, returned, fun _ rate member => ?_⟩
      rw [one.stored rate member]
      exact kept.2 (one.seeded.mpr (List.ne_nil_of_mem member))
  · intro client rates ran extraUs extraPerUsQ32 breaks
    have one := oneRate_of_run ran keeps
    by_cases zero : extraPerUsQ32 = 0
    · left
      rw [zero]
      exact Client.syncedNsAtExtraFiltered_zero _ extraUs
    · right
      have changed : client.apTsfMinusExtraFilter.initialized = true ∧
          client.extraPerUsQ32 ≠ extraPerUsQ32 := by
        simp only [KeepsRate, not_and, Classical.not_imp] at breaks
        exact breaks zero
      refine ⟨one.seeded.mp changed.1, fun rate member => ?_⟩
      rw [one.stored rate member]
      exact changed.2

/-- Association, the first query, one beacon and eight packets, all consumed. -/
def extraSession (extraPerUsQ32 : U64) : List Action :=
  [.poll (some homeBssid), .queryExtra 0 extraPerUsQ32,
    .receive (.ofBeacon homeBssid 7000 1000 5000), .consume, .consume] ++
  (List.replicate 8 [.receive (.ofPacket ⟨magicBytes, 1, 9000000⟩ 1500 5500),
    .consume, .consume, .consume]).flatten

/-- A session whose last query passes the rate of the first. -/
theorem extra_queries_in_one_unit_same_rate :
    (ratedClient .enabled (Channel.ofList SnifferEvent channelDepth)).EachStep KeepsRate
        (extraSession 4294967296 ++ [.queryExtra 7000 4294967296]) ∧
      (ratedClient .enabled (Channel.ofList SnifferEvent channelDepth)).EachStep InOneUnit
        (extraSession 4294967296 ++ [.queryExtra 7000 4294967296]) := by
  have keeps : (ratedClient .enabled (Channel.ofList SnifferEvent channelDepth)).EachStep
      KeepsRate (extraSession 4294967296 ++ [.queryExtra 7000 4294967296]) :=
    System.eachStep_of_along (by decide +kernel)
  exact ⟨keeps, (extra_queries_in_one_unit keeps).1⟩

/-- The very first query divides by a zero rate; and a session whose last query passes twice
the rate of the first is answered from an observation in the other unit. -/
theorem extra_queries_not_in_one_unit :
    ¬ (ratedClient .enabled (Channel.ofList SnifferEvent channelDepth)).EachStep InOneUnit
        [.queryExtra 0 0] ∧
      ¬ (ratedClient .enabled (Channel.ofList SnifferEvent channelDepth)).EachStep InOneUnit
        (extraSession 4294967296 ++ [.queryExtra 7000 8589934592]) := by
  constructor
  · intro each
    obtain ⟨answer, returned, _⟩ := each [] _ (List.prefix_refl _) _ rfl
    rw [Client.syncedNsAtExtraFiltered_zero] at returned
    contradiction
  · intro each
    obtain ⟨⟨client, rates⟩, ran, seen⟩ := exists_of_map_eq_ok (show
      ((ratedClient .enabled (Channel.ofList SnifferEvent channelDepth)).run
        (extraSession 4294967296)).map (fun state => (state.2,
          ((state.1.storeExtraRate 8589934592).syncedNsAtExtraFiltered 7000 8589934592).map
            Option.isSome)) = .ok ([4294967296], .ok true) by decide +kernel)
    obtain ⟨absorbed, answered⟩ := Prod.mk.inj seen
    obtain ⟨answer, returned, same⟩ := each _ _ (List.prefix_refl _) _ ran
    rw [returned] at answered
    have some_answer : answer ≠ none := by
      rintro rfl
      contradiction
    have agrees := same some_answer 4294967296 (by
      dsimp only at absorbed ⊢
      rw [absorbed]
      exact List.mem_singleton_self _)
    contradiction

end EspClockSync
