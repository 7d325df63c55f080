import EspClockSync.Verif.ClientTrace
import EspClockSync.Verif.EstimatorHistory

/-!
# Arithmetic safety of the packet path

A packet carries any 128-bit server time to the estimator. The drift saturates and
so does the sum of the squares, but the cast to `i128`, the offset, the running sum
and each square do not: whether a feed overflows depends on the whole window. The
condition on the window is exact, for every run of the client.
-/

namespace EspClockSync

open Machine

variable {channel : Channel SnifferEvent} {checks : OverflowChecks}

/-- A window whose fit stays in range. -/
structure WindowFits (samples : List Sample) : Prop where
  /-- Server times are below the sign bit. -/
  times : ∀ s ∈ samples, s.serverNs.toNat < 2 ^ 127
  /-- The offsets have a sum in range. -/
  total : I128Fits (offsetSum samples)
  /-- Once there is a mean, no offset is 585,000 years away from it. -/
  spread : minSamples ≤ samples.length →
    ∀ s ∈ samples, (s.exactOffset - meanOffset samples).natAbs < 1000 * 2 ^ 64

/-- Whether a window fits does not depend on the order. -/
theorem WindowFits.perm {left right : List Sample} (fits : WindowFits left)
    (same : left.Perm right) : WindowFits right where
  times s member := fits.times s (same.mem_iff.mpr member)
  total := by
    rw [← offsetSum_perm same]
    exact fits.total
  spread enough s member := by
    rw [← meanOffset_perm same]
    exact fits.spread (same.length_eq ▸ enough) s (same.mem_iff.mpr member)

/-- Every window that a history had along the way fits. -/
def HistoryFits (history : List Sample) : Prop :=
  ∀ part, part <+: history → WindowFits (window windowSize part)

/-- The windows of a longer history are those before and the last. -/
theorem historyFits_concat (history : List Sample) (s : Sample) :
    HistoryFits (history ++ [s]) ↔
      HistoryFits history ∧ WindowFits (window windowSize (history ++ [s])) := by
  constructor
  · intro fits
    exact ⟨fun part before => fits part (before.trans (List.prefix_append _ _)),
      fits _ (List.prefix_refl _)⟩
  · rintro ⟨earlier, last⟩ part before
    rcases List.prefix_concat_iff.mp before with rfl | before
    · exact last
    · exact earlier part before

/-! ## A window that fits is fitted without overflow -/

/-- In a full window that fits, every partial sum is in range: either all offsets have
one sign, or all are small. -/
theorem partial_sums_fit {samples part : List Sample} (fits : WindowFits samples)
    (readings : ∀ s ∈ samples, s.localUs.toNat < 2 ^ 63)
    (enough : minSamples ≤ samples.length) (short : samples.length ≤ windowSize)
    (before : part <+: samples) : I128Fits (offsetSum part) := by
  obtain ⟨rest, rfl⟩ := before
  have split : offsetSum (part ++ rest) = offsetSum part + offsetSum rest := by
    simp [offsetSum]
  have spread := fits.spread enough
  have length : part.length ≤ 256 := by
    rw [List.length_append, windowSize] at short
    omega
  by_cases large : 1000 * 2 ^ 64 ≤ meanOffset (part ++ rest)
  · have positive : ∀ s ∈ part ++ rest, 0 ≤ s.exactOffset := by
      intro s member
      have near := spread s member
      omega
    have sum_nonneg : ∀ group, (∀ s ∈ group, s ∈ part ++ rest) → 0 ≤ offsetSum group := by
      intro group inside
      apply List.sum_nonneg
      intro offset member
      obtain ⟨s, held, rfl⟩ := List.mem_map.mp member
      exact positive s (inside s held)
    have first := sum_nonneg part fun s member => List.mem_append_left _ member
    have second := sum_nonneg rest fun s member => List.mem_append_right _ member
    obtain ⟨_, upper⟩ := fits.total
    constructor
    · omega
    · omega
  · have each : ∀ s ∈ part, -(1000 * 2 ^ 63) ≤ s.exactOffset ∧
        s.exactOffset ≤ 2000 * 2 ^ 64 := by
      intro s member
      have near := spread s (List.mem_append_left _ member)
      have reading := readings s (List.mem_append_left _ member)
      have exactly : s.exactOffset = s.serverNs.toNat - 1000 * s.localUs.toNat := rfl
      constructor
      · omega
      · omega
    have total := sum_between each
    unfold offsetSum
    constructor
    · omega
    · omega

/-- The ring of a history that fits is fitted without overflow, in slot order. -/
theorem fitsInOrder_of_historyFits {history : List Sample} (fits : HistoryFits history)
    (readings : ∀ s ∈ history, s.localUs.toNat < 2 ^ 63) :
    FitsInOrder (ringOf history).occupied := by
  have slots := Ring.occupied_perm windowSize_pos history
  have slotFits := (fits history (List.prefix_refl _)).perm slots.symm
  have slotReadings : ∀ s ∈ (ringOf history).occupied, s.localUs.toNat < 2 ^ 63 :=
    fun s member => readings s (mem_of_mem_window (slots.mem_iff.mp member))
  have short : (ringOf history).occupied.length ≤ windowSize := by
    rw [slots.length_eq]
    exact window_length_le windowSize history
  refine ⟨slotFits.times, slotReadings, short, fun part before => ?_, slotFits.spread⟩
  by_cases filling : history.length < windowSize
  · -- Before the ring is full its slots are in order of arrival: partial sums are earlier totals.
    rw [Ring.occupied_of_length_lt _ filling] at before
    have earlier := (fits part before).total
    rwa [window_of_length_le (by have := before.length_le; omega)] at earlier
  · refine partial_sums_fit slotFits slotReadings ?_ short before
    rw [slots.length_eq, window_length]
    unfold minSamples windowSize at *
    omega

/-- A history that fits is observed without overflow in every build, and tracked. -/
theorem observeAll_of_historyFits {history : List Sample} (fits : HistoryFits history)
    (readings : ∀ s ∈ history, s.localUs.toNat < 2 ^ 63) :
    ∃ est, (∀ checks, Estimator.observeAll checks history = .ok est) ∧ est.Tracks history :=
  observeAll_ok fun _ before => fitsInOrder_of_historyFits
    (fun part earlier => fits part (earlier.trans before))
    fun s member => readings s (before.subset member)

/-- Plain samples make windows that fit. -/
theorem historyFits_of_bounded {history : List Sample} (bounded : ∀ s ∈ history, s.Bounded) :
    HistoryFits history := by
  intro part before
  have plain : ∀ s ∈ window windowSize part, s.Bounded := by
    intro s member
    apply bounded
    exact before.subset (mem_of_mem_window member)
  have inRange := fitsInOrder_of_bounded (window_length_le windowSize part) plain
  exact ⟨inRange.times, inRange.sums _ (List.prefix_refl _), inRange.spread⟩

/-! ## A fit without overflow is of a window that fits -/

/-- A first loop that returned in a checked build computed a sum in range. -/
theorem sumOffsets_enabled {samples : List Sample} {found : Int × Nat}
    (times : ∀ s ∈ samples, s.serverNs.toNat < 2 ^ 127)
    (returned : sumOffsets .enabled samples = .ok found) :
    found = (offsetSum samples, samples.length) ∧ I128Fits (offsetSum samples) := by
  induction samples using List.reverseRecOn generalizing found with
  | nil =>
    obtain rfl := Except.ok.inj returned
    exact ⟨rfl, by decide⟩
  | append_singleton samples s ih =>
    unfold sumOffsets at ih returned
    obtain ⟨before, earlier, last⟩ := foldlM_concat_ok returned
    obtain ⟨rfl, _⟩ := ih (fun t member => times t (List.mem_append_left _ member)) earlier
    unfold sumStep at last
    rw [s.offsetNs_ok .enabled (times s (by simp)), ok_bind] at last
    obtain ⟨total, summed, last⟩ := bind_eq_ok last
    obtain ⟨count, counted, last⟩ := bind_eq_ok last
    obtain ⟨fits, rfl⟩ := OverflowChecks.i128_enabled_iff.mp summed
    obtain ⟨_, rfl⟩ := OverflowChecks.unsigned_enabled_iff.mp counted
    rw [offsetSum_concat, List.length_append, List.length_singleton]
    exact ⟨(Except.ok.inj last).symm, fits⟩

/-- A third loop that returned in a checked build squared no residual out of range. -/
theorem sumSquares_enabled {samples : List Sample} {mean : Int} {squares : Nat}
    (times : ∀ s ∈ samples, s.serverNs.toNat < 2 ^ 127)
    (returned : sumSquares .enabled mean samples = .ok squares) :
    ∀ s ∈ samples, (s.exactOffset - mean).natAbs < 1000 * 2 ^ 64 := by
  induction samples using List.reverseRecOn generalizing squares with
  | nil => exact fun _ member => absurd member List.not_mem_nil
  | append_singleton samples s ih =>
    unfold sumSquares at ih returned
    obtain ⟨before, earlier, last⟩ := foldlM_concat_ok returned
    intro t member
    rcases List.mem_append.mp member with member | member
    · exact ih (fun t member => times t (List.mem_append_left _ member)) earlier t member
    · obtain rfl := List.mem_singleton.mp member
      unfold squareStep at last
      rw [t.offsetNs_ok .enabled (times t (by simp)), ok_bind] at last
      obtain ⟨resid, subtracted, last⟩ := bind_eq_ok last
      obtain ⟨square, squared, last⟩ := bind_eq_ok last
      obtain ⟨_, rfl⟩ := OverflowChecks.i128_enabled_iff.mp subtracted
      have bound := (OverflowChecks.unsigned_enabled_iff.mp squared).1
      have root : (t.exactOffset - mean).natAbs / 1000 < 2 ^ 64 := by
        by_contra large
        have product := Nat.mul_le_mul (Nat.not_lt.mp large) (Nat.not_lt.mp large)
        omega
      omega

/-- A refit that returned in a checked build was of slots that fit. -/
theorem windowFits_of_refit {est after : Estimator}
    (times : ∀ s ∈ est.occupied, s.serverNs.toNat < 2 ^ 127)
    (returned : est.refit .enabled = .ok after) : WindowFits est.occupied := by
  unfold Estimator.refit at returned
  obtain ⟨found, summed, returned⟩ := bind_eq_ok returned
  obtain ⟨rfl, total⟩ := sumOffsets_enabled times summed
  refine ⟨times, total, fun enough => ?_⟩
  dsimp only at returned
  rw [if_neg (Nat.not_lt.mpr enough), divI128_pos _ (by unfold minSamples at enough; omega),
    ok_bind] at returned
  obtain ⟨ends, _, returned⟩ := bind_eq_ok returned
  obtain ⟨drift, _, returned⟩ := bind_eq_ok returned
  obtain ⟨squares, squared, _⟩ := bind_eq_ok returned
  exact sumSquares_enabled times squared

/-- Observing one more sample is free of overflow exactly when the window it makes fits. -/
theorem observe_enabled_iff {est : Estimator} {history : List Sample} {s : Sample}
    (observed : Estimator.observeAll .enabled history = .ok est) (fits : HistoryFits history)
    (readings : ∀ t ∈ history ++ [s], t.localUs.toNat < 2 ^ 63) :
    (s.serverNs.toNat < 2 ^ 127 ∧ ∃ after, est.observe .enabled s = .ok after) ↔
      WindowFits (window windowSize (history ++ [s])) := by
  constructor
  · rintro ⟨time, after, returned⟩
    obtain ⟨same, sameObserved, tracks⟩ := observeAll_of_historyFits fits
      fun t member => readings t (List.mem_append_left _ member)
    obtain rfl := Except.ok.inj ((sameObserved .enabled).symm.trans observed)
    set pushed : Estimator := { same with
      toRing := same.push s
      lastUpdateUs := s.localUs }
    have ring : pushed.toRing = ringOf (history ++ [s]) := by
      change same.toRing.push s = _
      rw [tracks.ring, ringOf, ringOf, Ring.ofHistory_concat]
    have slots : pushed.occupied.Perm (window windowSize (history ++ [s])) := by
      rw [congrArg Ring.occupied ring]
      exact Ring.occupied_perm _ _
    have times : ∀ t ∈ pushed.occupied, t.serverNs.toNat < 2 ^ 127 := by
      intro t member
      rcases mem_window_of_mem_concat (slots.mem_iff.mp member) with held | rfl
      · exact (fits history (List.prefix_refl _)).times t held
      · exact time
    exact (windowFits_of_refit times returned).perm slots
  · intro last
    have whole := (historyFits_concat history s).mpr ⟨fits, last⟩
    obtain ⟨after, sameObserved, _⟩ := observeAll_of_historyFits whole readings
    have returned := sameObserved .enabled
    unfold Estimator.observeAll at returned observed
    rw [foldlM_concat, observed, ok_bind] at returned
    exact ⟨last.times s (mem_window_concat_self windowSize_pos history s), after, returned⟩

/-! ## Runs -/

/-- The sample an action feeds to `UDP_EST`. -/
def Client.feedOf (client : Client channel) : Action → Option Sample
  | .consume =>
    match client.consumer with
    | .udpConverted serverNs _ apTsfUs => some ⟨serverNs, apTsfUs⟩
    | _ => none
  | _ => none

/-- No operation of this feed overflows: the cast of the server time keeps its value,
and a build that checks every plain operator returns. -/
def FeedIsSafe (state : Client channel × List Effect) (action : Action) : Prop :=
  ∀ s, state.1.feedOf action = some s → s.serverNs.toNat < 2 ^ 127 ∧
    ∃ est, state.1.udpEst.observe .enabled s = .ok est

/-- The window that this feed makes fits. -/
def FeedFits (state : Client channel × List Effect) (action : Action) : Prop :=
  ∀ s, state.1.feedOf action = some s →
    WindowFits (window windowSize (fedSamples state.2 ++ [s]))

/-- A step feeds what it says, and nothing else. -/
theorem Client.Stepped.fedSamples_eq {client after : Client channel} {effects : List Effect}
    {action : Action} (stepped : client.Stepped checks action after effects) :
    fedSamples effects = (client.feedOf action).toList := by
  cases stepped with
  | usedBeacon | lostBeacon | foreignBeacon | unmatchedFrame | matchedFrame | droppedFrame | polled
    | queried => rfl
  | waited receiving | tookBeacon anchor samples receiving | tookUdp serverNs own samples receiving =>
    unfold Client.feedOf
    rw [receiving]
    rfl
  | fedBeacon anchor est holding | droppedUdp serverNs own holding
    | convertedUdp serverNs own ap holding | fedUdp serverNs own ap est holding =>
    unfold Client.feedOf
    rw [holding]
    rfl

/-- A sample about to be fed has a reading below the sign bit. -/
theorem Client.Recorded.feed_reading {client : Client channel} {log : List Effect}
    (recorded : client.Recorded checks log) {action : Action} {s : Sample}
    (feeds : client.feedOf action = some s) : s.localUs.toNat < 2 ^ 63 := by
  unfold Client.feedOf at feeds
  split at feeds
  · split at feeds
    · rename_i holding
      rw [← Option.some.inj feeds]
      exact recorded.converted _ _ _ holding
    · contradiction
  · contradiction

/-- All feeds of a run made windows that fit exactly when its history fits. -/
theorem eachStep_feedFits_iff {actions : List Action} {client : Client channel}
    {log : List Effect} (ran : (tracedClient checks channel).run actions = .ok (client, log)) :
    (tracedClient checks channel).EachStep FeedFits actions ↔ HistoryFits (fedSamples log) := by
  refine traced_induction (motive := fun actions _ log =>
    (tracedClient checks channel).EachStep FeedFits actions ↔ HistoryFits (fedSamples log))
    (iff_of_true (System.eachStep_nil _ _) fun part before => ?_)
    (fun actions before log action after effects reached same stepped => ?_) ran
  · rw [List.prefix_nil.mp before]
    exact ⟨fun _ member => absurd member List.not_mem_nil, by decide,
      fun _ _ member => absurd member List.not_mem_nil⟩
  · rw [System.eachStep_concat reached, same, fedSamples_append, stepped.fedSamples_eq]
    unfold FeedFits
    cases before.feedOf action with
    | none => simp
    | some s => simp [historyFits_concat]

/-- **Arithmetic safety.** In every run of the client, in every build, no feed of a
decoded packet overflows exactly when every window that a feed makes has its server
times below `2 ^ 127`, a sum of offsets in range and, from eight samples on, no offset
`1000 * 2 ^ 64` ns away from their mean. -/
theorem feeds_safe_iff {actions : List Action} {client : Client channel} {log : List Effect}
    (ran : (tracedClient checks channel).run actions = .ok (client, log)) :
    (tracedClient checks channel).EachStep FeedIsSafe actions ↔
      (tracedClient checks channel).EachStep FeedFits actions := by
  refine traced_induction (motive := fun actions _ _ =>
    (tracedClient checks channel).EachStep FeedIsSafe actions ↔
      (tracedClient checks channel).EachStep FeedFits actions)
    (iff_of_true (System.eachStep_nil _ _) (System.eachStep_nil _ _))
    (fun actions before log action after effects reached same stepped => ?_) ran
  rw [System.eachStep_concat reached, System.eachStep_concat reached, same]
  apply and_congr_right
  intro fed
  have fits := (eachStep_feedFits_iff reached).mp fed
  have recorded := recorded_of_run reached
  obtain ⟨est, observed, _⟩ := observeAll_of_historyFits fits recorded.readings
  obtain rfl := Except.ok.inj ((observed checks).symm.trans recorded.udp)
  apply forall₂_congr
  intro s feeds
  apply observe_enabled_iff (observed .enabled) fits
  intro t member
  rcases List.mem_append.mp member with earlier | last
  · exact recorded.readings t earlier
  · rw [List.mem_singleton.mp last]
    exact recorded.feed_reading feeds

/-- A beacon and a packet with this server time, up to the point where it is fed. -/
def deliver (serverNs : U128) : List Action :=
  [.poll (some homeBssid),
    .receive (.ofBeacon homeBssid 7000 1000 5000),
    .receive (.ofPacket ⟨magicBytes, 1, serverNs⟩ 1500 5500),
    .consume, .consume, .consume, .consume]

/-- A packet of the year 1970 is fed safely. -/
theorem feeds_safe_iff_early :
    ∃ client log, (tracedClient .enabled (Channel.ofList SnifferEvent channelDepth)).run
        (deliver 9000000 ++ [.consume]) = .ok (client, log) ∧
      fedSamples log = [⟨9000000, 7500⟩] ∧
      (tracedClient .enabled (Channel.ofList SnifferEvent channelDepth)).EachStep FeedIsSafe
        (deliver 9000000 ++ [.consume]) := by
  obtain ⟨⟨client, log⟩, ran, fed⟩ := exists_of_map_eq_ok (show
    ((tracedClient .enabled (Channel.ofList SnifferEvent channelDepth)).run
      (deliver 9000000 ++ [.consume])).map (fun state => fedSamples state.2) =
      .ok [⟨9000000, 7500⟩] by decide +kernel)
  refine ⟨client, log, ran, fed, (feeds_safe_iff ran).mpr ((eachStep_feedFits_iff ran).mpr
    (historyFits_of_bounded fun s member => ?_))⟩
  rw [fed] at member
  rw [List.mem_singleton.mp member]
  exact ⟨by decide, by decide⟩

/-- A packet with the sign bit of its server time set is accepted and delivered, and
overflows the offset of its own sample. -/
theorem feeds_unsafe_sign_bit :
    SyncPacket.findInFrame (SyncPacket.toBytes ⟨magicBytes, 1, BitVec.ofNat 128 (2 ^ 127)⟩) =
        .ok (some ⟨magicBytes, 1, BitVec.ofNat 128 (2 ^ 127)⟩) ∧
      (∃ client log, (tracedClient .enabled (Channel.ofList SnifferEvent channelDepth)).run
          (deliver (BitVec.ofNat 128 (2 ^ 127))) = .ok (client, log) ∧
        client.feedOf .consume = some ⟨BitVec.ofNat 128 (2 ^ 127), 7500⟩ ∧
        client.udpEst.observe .enabled ⟨BitVec.ofNat 128 (2 ^ 127), 7500⟩ = .error .overflow) ∧
      ¬ (tracedClient .enabled (Channel.ofList SnifferEvent channelDepth)).EachStep FeedIsSafe
        (deliver (BitVec.ofNat 128 (2 ^ 127)) ++ [.consume]) := by
  obtain ⟨⟨client, log⟩, ran, seen⟩ := exists_of_map_eq_ok (show
    ((tracedClient .enabled (Channel.ofList SnifferEvent channelDepth)).run
      (deliver (BitVec.ofNat 128 (2 ^ 127)))).map (fun state => (state.1.feedOf .consume,
        (state.1.udpEst.observe .enabled ⟨BitVec.ofNat 128 (2 ^ 127), 7500⟩).map fun _ => ())) =
      .ok (some ⟨BitVec.ofNat 128 (2 ^ 127), 7500⟩, .error .overflow) by decide +kernel)
  obtain ⟨feeds, stopped⟩ := Prod.mk.inj seen
  have overflow := eq_error_of_map_eq_error stopped
  refine ⟨by decide +kernel, ⟨client, log, ran, feeds, overflow⟩, fun safe => ?_⟩
  obtain ⟨_, est, returned⟩ := safe _ _ (List.prefix_refl _) _ ran _ feeds
  rw [overflow] at returned
  contradiction

end EspClockSync
