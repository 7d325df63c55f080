import EspClockSync.Verif.TrackerWindow

/-!
# The tracker over a history

Every observation within 2 ^ 40 of zero leads every build to the same tracker. Its ring
holds the end of the history, and its line is the line of the last window that had one, so
a window of a single `x` is answered by the line of an earlier window. Predictions in both
directions stay in range for every `i64`.
-/

namespace EspClockSync

open Machine

namespace LinearTracker

variable {checks : OverflowChecks} {tracker : LinearTracker} {history : List (Int × Int)}

/-! ## What a tracker holds -/

/-- The line of a tracker is within the box, and no steeper than a half. -/
structure Line.Bounded (line : Line) : Prop where
  /-- The `x` of the anchor. -/
  meanX : |line.meanX| ≤ 2 ^ 40
  /-- The `y` of the anchor. -/
  meanY : |line.meanY| ≤ 2 ^ 40
  /-- The slope. -/
  slope : |line.slopeQ32| ≤ 2 ^ 31

/-- What a tracker knows after a history. -/
structure Tracks (tracker : LinearTracker) (history : List (Int × Int)) : Prop where
  /-- Its ring holds the history. -/
  ring : tracker.toRing = Ring.ofHistory trackerSize_pos history
  /-- Its line is bounded. -/
  bounded : tracker.line.Bounded

/-- The occupancy count is the window's length. -/
theorem Tracks.count (tracks : tracker.Tracks history) :
    tracker.n = (window trackerSize history).length := by
  rw [tracks.ring]
  exact Ring.ofHistory_n _ history

/-- A fit in the box is bounded. -/
theorem Window.fit_bounded {samples : List (Int × Int)} (window : Window samples)
    (nonempty : samples ≠ []) (anchorX : Int) : (fitOf anchorX samples).Bounded := by
  have centered := window.center_le nonempty anchorX
  exact ⟨centered.1, centered.2, abs_slopeOf_le _ _ samples⟩

/-- A refit keeps the line bounded. -/
theorem Window.refitted_bounded {samples : List (Int × Int)} (window : Window samples)
    (anchorX : Int) {previous : Line} (bounded : previous.Bounded) :
    (refitted anchorX samples previous).Bounded := by
  unfold refitted
  split
  · rename_i spread
    exact window.fit_bounded spread.nonempty anchorX
  · exact bounded

/-- The window of a history in the box. -/
theorem window_of_box (box : ∀ o ∈ history, InBox o) : Window (window trackerSize history) where
  short := window_length_le trackerSize history
  box s member := box s (mem_of_mem_window member)

/-- **Step.** An observation in the box refits the line over the new window. -/
theorem Tracks.observe {o : Int × Int} (tracks : tracker.Tracks history)
    (box : ∀ s ∈ history ++ [o], InBox s) :
    ∃ after : LinearTracker, (∀ checks, tracker.observe checks o.1 o.2 = .ok after) ∧
      after.Tracks (history ++ [o]) ∧
      after.line = refitted o.1 (window trackerSize (history ++ [o])) tracker.line := by
  set pushed : LinearTracker := { tracker with
    toRing := tracker.push (o.1, o.2)
    lastX := o.1 }
  have ring : pushed.toRing = Ring.ofHistory trackerSize_pos (history ++ [o]) := by
    change tracker.toRing.push o = _
    rw [tracks.ring, Ring.ofHistory_concat]
  have slots : pushed.occupied.Perm (window trackerSize (history ++ [o])) := by
    rw [congrArg Ring.occupied ring]
    exact Ring.occupied_perm _ _
  have inWindow := window_of_box box
  have occupied : Window pushed.occupied := by
    constructor
    · rw [slots.length_eq]
      exact inWindow.short
    · exact fun s member => inWindow.box s (slots.mem_iff.mp member)
  have anchored : |pushed.lastX| ≤ 2 ^ 40 := (box o (by simp)).1
  refine ⟨_, fun checks => refit_ok checks occupied anchored, ⟨ring, ?_⟩, ?_⟩
  · exact occupied.refitted_bounded _ tracks.bounded
  · exact refitted_perm o.1 slots tracker.line

/-- The last of a history is observed by the tracker of the rest. -/
theorem observeAll_concat (checks : OverflowChecks) (history : List (Int × Int)) (o : Int × Int) :
    observeAll checks (history ++ [o]) =
      observeAll checks history >>= fun tracker => tracker.observe checks o.1 o.2 := by
  unfold observeAll
  rw [foldlM_concat]

/-- The fresh tracker holds the empty history. -/
theorem tracks_new : new.Tracks [] := ⟨rfl, ⟨by decide, by decide, by decide⟩⟩

/-- **Run.** A history in the box is observed without overflow, in every build. -/
theorem observeAll_ok (box : ∀ o ∈ history, InBox o) :
    ∃ tracker, (∀ checks, observeAll checks history = .ok tracker) ∧ tracker.Tracks history := by
  induction history using List.reverseRecOn with
  | nil => exact ⟨new, fun _ => rfl, tracks_new⟩
  | append_singleton history o ih =>
    obtain ⟨before, earlier, tracks⟩ := ih fun s member => box s (List.mem_append_left _ member)
    obtain ⟨after, observed, tracksAfter, _⟩ := tracks.observe box
    refine ⟨after, fun checks => ?_, tracksAfter⟩
    rw [observeAll_concat, earlier checks, ok_bind]
    exact observed checks

/-- The last observation of a history refits over the window. -/
theorem observeAll_concat_ok {o : Int × Int} (box : ∀ s ∈ history ++ [o], InBox s) :
    ∃ before tracker, (∀ checks, observeAll checks history = .ok before) ∧
      (∀ checks, observeAll checks (history ++ [o]) = .ok tracker) ∧
      tracker.Tracks (history ++ [o]) ∧
      tracker.line = refitted o.1 (window trackerSize (history ++ [o])) before.line := by
  obtain ⟨before, earlier, tracks⟩ :=
    observeAll_ok fun s member => box s (List.mem_append_left _ member)
  obtain ⟨after, observed, tracksAfter, line⟩ := tracks.observe box
  refine ⟨before, after, earlier, fun checks => ?_, tracksAfter, line⟩
  rw [observeAll_concat, earlier checks, ok_bind]
  exact observed checks

/-- From eight observations on the tracker answers. -/
theorem Tracks.enough (tracks : tracker.Tracks history) (enough : 8 ≤ history.length) :
    minSamples ≤ tracker.n := by
  rw [tracks.count, window_length]
  unfold minSamples trackerSize
  omega

/-! ## Predictions -/

/-- A value in range passes the final test. -/
theorem inRange_of_fits {value : Int} (fits : I64Fits value) : inRange value = some value := by
  unfold I64Fits at fits
  unfold inRange
  rw [if_neg (by omega)]

/-- What passes the final test is in range. -/
theorem inRange_eq_some {value result : Int} (passed : inRange value = some result) :
    I64Fits result ∧ result = value := by
  unfold inRange at passed
  unfold I64Fits
  split at passed
  · contradiction
  · rename_i inside
    have same := Option.some.inj passed
    omega

/-- A prediction is the value of the line, in every build. -/
theorem Tracks.predict_ok (tracks : tracker.Tracks history) (enough : minSamples ≤ tracker.n)
    {x : Int} (fits : I64Fits x) (checks : OverflowChecks) :
    tracker.predict checks x = .ok (inRange (tracker.line.at x)) := by
  unfold I64Fits at fits
  have meanX := abs_le.mp tracks.bounded.meanX
  have meanY := abs_le.mp tracks.bounded.meanY
  have slope := tracks.bounded.slope
  dsimp only [line] at meanX meanY slope
  have dx : |x - tracker.meanX| ≤ 2 ^ 64 := abs_le.mpr ⟨by omega, by omega⟩
  have product : |(x - tracker.meanX) * tracker.slopeQ32| ≤ 2 ^ 64 * 2 ^ 31 := by
    rw [abs_mul]
    exact mul_le_mul dx slope (abs_nonneg _) (by decide)
  have within := abs_le.mp product
  unfold predict
  rw [if_neg (Nat.not_lt.mpr enough), checks.i128_ok ⟨by omega, by omega⟩, ok_bind,
    checks.i128_ok ⟨by omega, by omega⟩, ok_bind, checks.i128_ok ⟨by omega, by omega⟩, ok_bind]
  rfl

/-- The `x` of a `y` on the line, rounded toward the anchor. -/
def Line.inverseAt (line : Line) (y : Int) : Int :=
  line.meanX + ((y - line.meanY) * 2 ^ 32).tdiv line.slopeQ32

/-- Its distance from the anchor is no larger than the shifted one of `y`. -/
theorem Line.Bounded.inverse_le {line : Line} (bounded : line.Bounded) {y : Int} (fits : I64Fits y) :
    I128Fits ((y - line.meanY) * 2 ^ 32) ∧
      |((y - line.meanY) * 2 ^ 32).tdiv line.slopeQ32| ≤ 2 ^ 96 := by
  unfold I64Fits at fits
  have meanY := abs_le.mp bounded.meanY
  have shifted : |(y - line.meanY) * 2 ^ 32| ≤ 2 ^ 96 := abs_le.mpr ⟨by omega, by omega⟩
  have within := abs_le.mp shifted
  have quotient : |((y - line.meanY) * 2 ^ 32).tdiv line.slopeQ32| ≤ |(y - line.meanY) * 2 ^ 32| := by
    rw [← Int.natCast_natAbs, ← Int.natCast_natAbs, Int.natAbs_tdiv]
    exact_mod_cast Nat.div_le_self _ _
  exact ⟨⟨by omega, by omega⟩, quotient.trans shifted⟩

/-- An inverse prediction is the inverse of the line, in every build, and its shift loses no bits. -/
theorem Tracks.predictInverse_ok (tracks : tracker.Tracks history)
    (enough : minSamples ≤ tracker.n) (sloped : tracker.slopeQ32 ≠ 0) {y : Int}
    (fits : I64Fits y) (checks : OverflowChecks) :
    tracker.predictInverse checks y = .ok (inRange (tracker.line.inverseAt y)) := by
  have meanX := abs_le.mp tracks.bounded.meanX
  have meanY := abs_le.mp tracks.bounded.meanY
  have inverse := tracks.bounded.inverse_le fits
  unfold I64Fits at fits
  dsimp only [line] at meanX meanY inverse
  have within := abs_le.mp inverse.2
  have lower := inverse.1.1
  unfold predictInverse
  rw [if_neg (Nat.not_lt.mpr enough), if_neg sloped, checks.i128_ok ⟨by omega, by omega⟩, ok_bind,
    wrapI128_of_fits inverse.1]
  have divided : divI128 ((y - tracker.meanY) * 2 ^ 32) tracker.slopeQ32 =
      .ok (((y - tracker.meanY) * 2 ^ 32).tdiv tracker.slopeQ32) := by
    unfold divI128
    rw [if_neg sloped, if_neg (by omega)]
  rw [divided, ok_bind, checks.i128_ok ⟨by omega, by omega⟩, ok_bind]
  rfl

end LinearTracker

end EspClockSync
