import EspClockSync.Verif.EstimatorWindow

/-!
# The estimator refines its history

A fresh estimator that has observed a history holds the fit of the last 256
observations of that history: the ring invariant carries the slots, and the fit
of the slots does not depend on their order. Plain observations, with server
times and local times of any plausible size, keep every operation in range.
-/

namespace EspClockSync

open Machine

/-- An observation of plausible size: 2 ^ 72 ns is about 150,000 years. -/
structure Sample.Bounded (s : Sample) : Prop where
  /-- Server time. -/
  server : s.serverNs.toNat < 2 ^ 72
  /-- Local time. -/
  reading : s.localUs.toNat < 2 ^ 62

/-- The ring of a history. -/
abbrev ringOf (history : List Sample) : Ring Sample windowSize :=
  Ring.ofHistory windowSize_pos history

/-- What an estimator knows after a history. -/
structure Estimator.Tracks (est : Estimator) (history : List Sample) : Prop where
  /-- Its ring holds the history. -/
  ring : est.toRing = ringOf history
  /-- It remembers the last local time. -/
  last : ∀ s, history.getLast? = some s → est.lastUpdateUs = s.localUs
  /-- From `MIN_SAMPLES` on it stores the fit of the window. -/
  fitted : minSamples ≤ (window windowSize history).length →
    est.Fitted (window windowSize history)

/-- The occupancy count is the window's length. -/
theorem Estimator.Tracks.count {est : Estimator} {history : List Sample}
    (tracks : est.Tracks history) : est.n = (window windowSize history).length := by
  rw [tracks.ring]
  exact Ring.ofHistory_n _ history

/-- From eight observations on the window has enough samples for a fit. -/
theorem minSamples_le_window {history : List Sample} (enough : 8 ≤ history.length) :
    minSamples ≤ (window windowSize history).length := by
  rw [window_length]
  unfold minSamples windowSize
  omega

/-- The mean of offsets between two integers lies between them. -/
theorem meanOffset_between {samples : List Sample} {low high : Int} (nonempty : samples ≠ [])
    (within : ∀ s ∈ samples, low ≤ s.exactOffset ∧ s.exactOffset ≤ high) :
    low ≤ meanOffset samples ∧ meanOffset samples ≤ high := by
  have total := sum_between within
  have count := int_length_pos nonempty
  exact tdiv_between count total.1 total.2

/-- The offset of a plain observation. -/
theorem Sample.Bounded.offset {s : Sample} (bounded : s.Bounded) :
    -(1000 * 2 ^ 62) ≤ s.exactOffset ∧ s.exactOffset ≤ 2 ^ 72 := by
  obtain ⟨server, reading⟩ := bounded
  unfold Sample.exactOffset
  constructor
  · omega
  · omega

/-- Plain observations keep the fit in range, whatever their order. -/
theorem fitsInOrder_of_bounded {samples : List Sample} (short : samples.length ≤ windowSize)
    (bounded : ∀ s ∈ samples, s.Bounded) : FitsInOrder samples where
  times s member := Nat.lt_trans (bounded s member).server (by decide)
  readings s member := Nat.lt_trans (bounded s member).reading (by decide)
  short := short
  sums part before := by
    have total := sum_between fun s member => (bounded s (before.subset member)).offset
    have length := before.length_le
    unfold windowSize at short
    unfold offsetSum
    constructor
    · omega
    · omega
  spread enough s member := by
    have offset := (bounded s member).offset
    have mean := meanOffset_between (List.ne_nil_of_mem member)
      (fun t inside => (bounded t inside).offset)
    omega

/-- A history all of whose refits stay in range is tracked, in every build. -/
theorem observeAll_ok {history : List Sample}
    (fits : ∀ part, part <+: history → FitsInOrder (ringOf part).occupied) :
    ∃ est, (∀ checks, Estimator.observeAll checks history = .ok est) ∧ est.Tracks history := by
  induction history using List.reverseRecOn with
  | nil =>
    refine ⟨Estimator.new, fun _ => rfl, ⟨rfl, by simp, fun enough => ?_⟩⟩
    exact absurd enough (by decide)
  | append_singleton history s ih =>
    obtain ⟨before, observed, tracks⟩ :=
      ih fun part earlier => fits part (earlier.trans (List.prefix_append _ _))
    set pushed : Estimator := { before with
      toRing := before.push s
      lastUpdateUs := s.localUs }
    have ring : pushed.toRing = ringOf (history ++ [s]) := by
      change before.toRing.push s = _
      rw [tracks.ring, ringOf, ringOf, Ring.ofHistory_concat]
    have occupied := congrArg Ring.occupied ring
    have range := fits _ (List.prefix_refl (history ++ [s]))
    rw [← occupied] at range
    obtain ⟨after, refitted, sameRing, sameLast, fitted⟩ := refit_ok range
    refine ⟨after, fun checks => ?_, ⟨sameRing.trans ring, ?_, fun enough => ?_⟩⟩
    · have earlier := observed checks
      unfold Estimator.observeAll at earlier ⊢
      rw [foldlM_concat, earlier, ok_bind]
      exact refitted checks
    · intro last same
      rw [List.getLast?_concat, Option.some.injEq] at same
      rw [sameLast, ← same]
    · have slots : pushed.occupied.Perm (window windowSize (history ++ [s])) := by
        rw [occupied]
        exact Ring.occupied_perm _ _
      rw [← slots.length_eq] at enough
      exact (fitted enough).perm slots

/-- Plain observations are tracked, in every build. -/
theorem observeAll_of_bounded {history : List Sample} (bounded : ∀ s ∈ history, s.Bounded) :
    ∃ est, (∀ checks, Estimator.observeAll checks history = .ok est) ∧ est.Tracks history := by
  apply observeAll_ok
  intro part before
  have slots := Ring.occupied_perm windowSize_pos part
  apply fitsInOrder_of_bounded
  · rw [slots.length_eq]
    exact window_length_le windowSize part
  · intro s member
    have inside := mem_of_mem_window (slots.mem_iff.mp member)
    exact bounded s (before.subset inside)

/-! ## What the estimator answers -/

/-- Below `MIN_SAMPLES` an estimator answers nothing. -/
theorem Estimator.answers_none {est : Estimator} (few : est.n < minSamples) :
    (∀ localUs, est.syncedNsAt localUs = none) ∧ (∀ serverNs, est.localUsAt serverNs = none) ∧
      est.quality.residualUsP95 = u32Max := by
  refine ⟨fun localUs => if_pos few, fun serverNs => if_pos few, ?_⟩
  unfold Estimator.quality
  exact if_neg (Nat.not_le.mpr few)

/-- The cap of a residual is exact. -/
theorem residualOf_toNat (samples : List Sample) :
    (residualOf samples).toNat =
      min (2 * Nat.sqrt (squareSum (meanOffset samples) samples / samples.length)) (2 ^ 32 - 1) := by
  unfold residualOf
  rw [BitVec.toNat_ofNat, Nat.mod_eq_of_lt]
  omega

/-- Two estimators tracking the same window in another order answer alike. -/
theorem Estimator.Tracks.answers_eq {left right : Estimator} {leftHistory rightHistory : List Sample}
    (leftTracks : left.Tracks leftHistory) (rightTracks : right.Tracks rightHistory)
    (enough : minSamples ≤ (window windowSize leftHistory).length)
    (same : (window windowSize leftHistory).Perm (window windowSize rightHistory)) :
    left.syncedNsAt = right.syncedNsAt ∧ left.localUsAt = right.localUsAt ∧
      left.quality.residualUsP95 = right.quality.residualUsP95 := by
  have count : left.n = right.n := by
    rw [leftTracks.count, rightTracks.count, same.length_eq]
  have leftFit := (leftTracks.fitted enough).perm same
  rw [same.length_eq] at enough
  have rightFit := rightTracks.fitted enough
  have offset := leftFit.offset.trans rightFit.offset.symm
  have residual := leftFit.residual.trans rightFit.residual.symm
  refine ⟨?_, ?_, ?_⟩
  · funext localUs
    unfold Estimator.syncedNsAt
    rw [count, offset]
  · funext serverNs
    unfold Estimator.localUsAt
    rw [count, offset]
  · unfold Estimator.quality
    rw [count, residual]

/-- **The estimator refines its list specification.** Every plain history is
observed without overflow, whether or not the build checks for it, and leaves
the statistics of its last 256 observations; histories with the same last 256
observations in any order give the same answers, and the same drift when their
local times are distinct. -/
theorem estimator_refines_window (checks : OverflowChecks) :
    (∀ history : List Sample, (∀ s ∈ history, s.Bounded) →
      ∃ est, (∀ build, Estimator.observeAll build history = .ok est) ∧
        est.quality.nSamples.toNat = min history.length 256 ∧
        (∀ s, history.getLast? = some s → est.quality.lastUpdateUs = s.localUs) ∧
        (min history.length 256 < 8 → (∀ localUs, est.syncedNsAt localUs = none) ∧
          (∀ serverNs, est.localUsAt serverNs = none) ∧ est.quality.residualUsP95 = u32Max) ∧
        (8 ≤ min history.length 256 →
          est.offsetNs = ((window 256 history).map fun s =>
            (s.serverNs.toNat : Int) - 1000 * s.localUs.toNat).sum.tdiv (min history.length 256 : Nat) ∧
          est.quality.residualUsP95.toNat = min (2 * Nat.sqrt
            (((window 256 history).map fun s => ((((s.serverNs.toNat : Int) -
              1000 * s.localUs.toNat) - est.offsetNs).natAbs / 1000) ^ 2).sum /
                min history.length 256)) (2 ^ 32 - 1))) ∧
    (∀ left right : List Sample, (∀ s ∈ left, s.Bounded) → (∀ s ∈ right, s.Bounded) →
      256 ≤ left.length → 256 ≤ right.length → (window 256 left).Perm (window 256 right) →
      ∃ a b, Estimator.observeAll checks left = .ok a ∧ Estimator.observeAll checks right = .ok b ∧
        a.syncedNsAt = b.syncedNsAt ∧ a.localUsAt = b.localUsAt ∧
        a.quality.residualUsP95 = b.quality.residualUsP95 ∧
        (((window 256 left).map Sample.localUs).Nodup →
          a.quality.driftPpb = b.quality.driftPpb)) := by
  constructor
  · intro history bounded
    obtain ⟨est, observed, tracks⟩ := observeAll_of_bounded bounded
    have count := tracks.count
    have size := window_length windowSize history
    rw [size] at count
    unfold windowSize at count size
    refine ⟨est, observed, ?_, tracks.last, fun few => ?_, fun enough => ?_⟩
    · unfold Estimator.quality
      rw [BitVec.toNat_ofNat, count]
      exact Nat.mod_eq_of_lt (by omega)
    · exact Estimator.answers_none (count ▸ few)
    · have fitted := tracks.fitted (by rw [windowSize, size]; exact enough)
      have offset := fitted.offset
      constructor
      · rw [offset, meanOffset, windowSize, size]
        rfl
      · have residual : est.quality.residualUsP95 = est.residualUsP95 := if_pos (count ▸ enough)
        rw [residual, fitted.residual, residualOf_toNat, offset, windowSize, size]
        rfl
  · intro left right leftBounded rightBounded leftFull rightFull same
    obtain ⟨a, leftObserved, leftTracks⟩ := observeAll_of_bounded leftBounded
    obtain ⟨b, rightObserved, rightTracks⟩ := observeAll_of_bounded rightBounded
    have enough := minSamples_le_window (show 8 ≤ left.length by omega)
    obtain ⟨synced, inverse, residual⟩ := leftTracks.answers_eq rightTracks enough same
    refine ⟨a, b, leftObserved checks, rightObserved checks, synced, inverse, residual,
      fun distinct => ?_⟩
    obtain ⟨o, n, extremal, leftSlope⟩ := (leftTracks.fitted enough).slope
    obtain ⟨o', n', extremal', rightSlope⟩ :=
      (rightTracks.fitted (enough.trans same.length_eq.le)).slope
    obtain ⟨rfl, rfl⟩ := extremal.unique distinct (extremal'.perm same.symm)
    unfold Estimator.quality
    rw [leftSlope, rightSlope]

/-- Eight equal observations are fitted at their offset, and the window of three
hundred answers like the last 256 of them. -/
theorem estimator_refines_window_steady :
    (∃ est, Estimator.observeAll .enabled (List.replicate 8 ⟨5000, 1⟩) = .ok est ∧
      est.offsetNs = 4000) ∧
    (∃ a b, Estimator.observeAll .enabled (List.replicate 300 ⟨5000, 1⟩) = .ok a ∧
      Estimator.observeAll .enabled (List.replicate 256 ⟨5000, 1⟩) = .ok b ∧
      a.syncedNsAt = b.syncedNsAt) := by
  have bounded : ∀ count, ∀ s ∈ List.replicate count (⟨5000, 1⟩ : Sample), s.Bounded := by
    intro count s member
    rw [List.eq_of_mem_replicate member]
    exact ⟨by decide, by decide⟩
  obtain ⟨statistics, permutations⟩ := estimator_refines_window .enabled
  constructor
  · obtain ⟨est, observed, _, _, _, fitted⟩ := statistics _ (bounded 8)
    refine ⟨est, observed .enabled, ?_⟩
    rw [(fitted (by decide)).1]
    decide
  · have windows : window 256 (List.replicate 300 (⟨5000, 1⟩ : Sample)) =
        window 256 (List.replicate 256 ⟨5000, 1⟩) := by
      simp only [window, List.length_replicate, List.drop_replicate]
    have leftFull := (List.length_replicate (n := 300) (a := (⟨5000, 1⟩ : Sample))).ge
    have rightFull := (List.length_replicate (n := 256) (a := (⟨5000, 1⟩ : Sample))).ge
    obtain ⟨a, b, left, right, same, _⟩ := permutations _ _ (bounded 300) (bounded 256)
      (Nat.le_trans (by decide) leftFull) rightFull (List.Perm.of_eq windows)
    exact ⟨a, b, left, right, same⟩

end EspClockSync
