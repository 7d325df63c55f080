import EspClockSync.Verif.TrackerHistory

/-!
# What the tracker answers

A fitted line passes through the truncated centroid of its window. A window of a single `x`
has no fit, and the line from before the last observation answers for it. Predicting at the
answer of an inverse prediction gives the `y` back, or, above the anchor, one less.
-/

namespace EspClockSync

open Machine

namespace LinearTracker

variable {tracker : LinearTracker} {history : List (Int × Int)}

/-! ## The centroid -/

/-- The prediction at the centroid of these samples, the last of which is at `anchorX`, is
that of the centroid. -/
def PredictsCentroid (tracker : LinearTracker) (anchorX : Int) (samples : List (Int × Int)) : Prop :=
  ∀ checks, tracker.predict checks (centerX anchorX samples) = .ok (some (centerY samples))

/-- A line passes through its anchor. -/
@[simp] theorem Line.at_meanX (line : Line) : line.at line.meanX = line.meanY := by
  simp [Line.at]

/-- A fit passes through the centroid. -/
theorem fitOf_at_center (anchorX : Int) (samples : List (Int × Int)) :
    (fitOf anchorX samples).at (centerX anchorX samples) = centerY samples :=
  (fitOf anchorX samples).at_meanX

/-- A tracker predicts the centroid of a window exactly when its line passes through it. -/
theorem Tracks.predictsCentroid_iff (tracks : tracker.Tracks history)
    (enough : minSamples ≤ tracker.n) {samples : List (Int × Int)} (window : Window samples)
    (nonempty : samples ≠ []) (anchorX : Int) :
    tracker.PredictsCentroid anchorX samples ↔
      tracker.line.at (centerX anchorX samples) = centerY samples := by
  have centered := window.center_le nonempty anchorX
  have x := abs_le.mp centered.1
  have y := abs_le.mp centered.2
  have predicted := tracks.predict_ok enough (x := centerX anchorX samples) ⟨by omega, by omega⟩
  unfold PredictsCentroid
  simp only [predicted]
  constructor
  · intro answer
    exact (inRange_eq_some (Except.ok.inj (answer .enabled))).2.symm
  · intro through _
    rw [through, inRange_of_fits ⟨by omega, by omega⟩]

/-- **Predictions at the centroid.** After at least eight observations in the box, the
prediction at the truncated centroid of the window is the centroid's exactly when the window
has two different `x`, or the line from before the last observation already passes through
the centroid. -/
theorem predicts_centroid_iff {o : Int × Int} (box : ∀ s ∈ history ++ [o], InBox s)
    (enough : 8 ≤ (history ++ [o]).length) :
    ∃ before tracker, (∀ checks, observeAll checks history = .ok before) ∧
      (∀ checks, observeAll checks (history ++ [o]) = .ok tracker) ∧
      (tracker.PredictsCentroid o.1 (window trackerSize (history ++ [o])) ↔
        (∃ s ∈ window trackerSize (history ++ [o]), ∃ t ∈ window trackerSize (history ++ [o]),
          s.1 ≠ t.1) ∨
        before.line.at o.1 = centerY (window trackerSize (history ++ [o]))) := by
  obtain ⟨before, tracker, earlier, observed, tracks, line⟩ := observeAll_concat_ok box
  have inWindow := window_of_box box
  have last : o ∈ window trackerSize (history ++ [o]) :=
    mem_window_concat_self trackerSize_pos history o
  have many : minSamples ≤ (window trackerSize (history ++ [o])).length := by
    rw [← tracks.count]
    exact tracks.enough enough
  refine ⟨before, tracker, earlier, observed, ?_⟩
  rw [tracks.predictsCentroid_iff (tracks.enough enough) inWindow (List.ne_nil_of_mem last), line]
  generalize window trackerSize (history ++ [o]) = samples at *
  by_cases apart : ∃ s ∈ samples, ∃ t ∈ samples, s.1 ≠ t.1
  · have spread : Spread samples := ⟨many, apart⟩
    unfold refitted
    rw [if_pos spread]
    exact iff_of_true (fitOf_at_center o.1 samples) (.inl apart)
  · have together : ∀ s ∈ samples, s.1 = o.1 := by
      intro s member
      by_contra differ
      exact apart ⟨s, member, o, last, differ⟩
    have unspread : ¬ Spread samples := fun spread => apart spread.2
    unfold refitted
    rw [if_neg unspread, centerX_of_same (List.ne_nil_of_mem last) together]
    exact (or_iff_right apart).symm

/-- Eight observations at a third of a unit per unit: the fit passes through `(11, 3)`. -/
theorem predicts_centroid_iff_third :
    ∃ tracker, (∀ checks, observeAll checks ((List.range 8).map fun i => (3 * (i : Int), (i : Int))) =
        .ok tracker) ∧
      tracker.PredictsCentroid 21 ((List.range 8).map fun i => (3 * (i : Int), (i : Int))) := by
  have box : ∀ s ∈ ((List.range 7).map fun i => (3 * (i : Int), (i : Int))) ++ [(21, 7)], InBox s := by
    decide
  obtain ⟨_, tracker, _, observed, predicts⟩ := predicts_centroid_iff box (by decide)
  exact ⟨tracker, observed, predicts.mpr (.inl (by decide))⟩

/-- Eight observations of 5000 at zero: the prediction at zero is zero. -/
theorem centroid_missed_at_one_place :
    ∃ tracker, (∀ checks, observeAll checks (List.replicate 8 (0, 5000)) = .ok tracker) ∧
      tracker.predict .enabled (centerX 0 (window trackerSize (List.replicate 8 (0, 5000)))) =
        .ok (some 0) ∧
      centerY (window trackerSize (List.replicate 8 (0, 5000))) = 5000 ∧
      ¬ tracker.PredictsCentroid 0 (window trackerSize (List.replicate 8 (0, 5000))) := by
  have box : ∀ s ∈ List.replicate 8 ((0 : Int), (5000 : Int)), InBox s := by decide
  have centroid : centerX 0 (window trackerSize (List.replicate 8 (0, 5000))) = 0 ∧
      centerY (window trackerSize (List.replicate 8 (0, 5000))) = 5000 := by decide
  obtain ⟨tracker, observed, _⟩ := observeAll_ok box
  obtain ⟨same, found, answer⟩ := exists_of_map_eq_ok (show
    (observeAll .enabled (List.replicate 8 (0, 5000))).map (fun tracker =>
      tracker.predict .enabled 0) = .ok (.ok (some 0)) by decide +kernel)
  rw [observed .enabled] at found
  rw [← Except.ok.inj found] at answer
  refine ⟨tracker, observed, ?_, centroid.2, fun predicts => ?_⟩
  · rw [centroid.1]
    exact answer
  · have centre := predicts .enabled
    rw [centroid.1, answer, centroid.2] at centre
    exact absurd centre (by decide)

/-! ## The inverse -/

/-- The line at the inverse of `y` is at `y`, or one below it past the anchor. -/
theorem Line.Bounded.at_inverseAt {line : Line} (bounded : line.Bounded)
    (sloped : line.slopeQ32 ≠ 0) (y : Int) :
    line.at (line.inverseAt y) = y ∨
      line.meanY < y ∧ line.at (line.inverseAt y) = y - 1 := by
  have steep : |line.slopeQ32| ≤ 2 ^ 32 := bounded.slope.trans (by norm_num)
  have back := tdiv_mul_ediv (y - line.meanY) sloped steep
  unfold Line.at Line.inverseAt
  rw [add_sub_cancel_left]
  omega

/-- **The inverse is within one unit.** After at least eight observations in the box, every
prediction of an `i64` returns; and with a slope, every inverse prediction returns, its shift
loses no bits, and the prediction at its answer is the `y` it was asked for or one less. -/
theorem inverse_within_one (box : ∀ o ∈ history, InBox o) (enough : 8 ≤ history.length) :
    ∃ tracker, (∀ checks, observeAll checks history = .ok tracker) ∧
      (∀ x, I64Fits x → ∃ answer, ∀ checks, tracker.predict checks x = .ok answer) ∧
      (tracker.slopeQ32 ≠ 0 → ∀ y, I64Fits y → I128Fits ((y - tracker.meanY) * 2 ^ 32) ∧
        ∃ inverse, (∀ checks, tracker.predictInverse checks y = .ok inverse) ∧
          ∀ x, inverse = some x → ∃ y', (∀ checks, tracker.predict checks x = .ok (some y')) ∧
            (y' = y ∨ y' = y - 1)) := by
  obtain ⟨tracker, observed, tracks⟩ := observeAll_ok box
  have many := tracks.enough enough
  refine ⟨tracker, observed, fun x fits => ⟨_, tracks.predict_ok many fits⟩,
    fun sloped y fits => ⟨(tracks.bounded.inverse_le fits).1, _,
      tracks.predictInverse_ok many sloped fits, ?_⟩⟩
  intro x answered
  obtain ⟨xFits, at_inverse⟩ := inRange_eq_some answered
  have back := tracks.bounded.at_inverseAt sloped y
  have anchor := abs_le.mp tracks.bounded.meanY
  rw [← at_inverse] at back
  have yFits : I64Fits (tracker.line.at x) := by
    unfold I64Fits at fits ⊢
    omega
  refine ⟨tracker.line.at x, fun checks => ?_, by omega⟩
  rw [tracks.predict_ok many xFits, inRange_of_fits yFits]

/-- Eight observations at a third of a unit per unit: 10 is inverted to 32. -/
theorem inverse_within_one_third :
    ∃ tracker, observeAll .enabled ((List.range 8).map fun i => (3 * (i : Int), (i : Int))) =
        .ok tracker ∧
      tracker.predictInverse .enabled 10 = .ok (some 32) ∧
      ∃ y', tracker.predict .enabled 32 = .ok (some y') ∧ (y' = 10 ∨ y' = 9) := by
  have box : ∀ s ∈ (List.range 8).map fun i => (3 * (i : Int), (i : Int)), InBox s := by decide
  obtain ⟨tracker, observed, _, inverted⟩ := inverse_within_one box (by decide)
  obtain ⟨same, found, seen⟩ := exists_of_map_eq_ok (show
    (observeAll .enabled ((List.range 8).map fun i => (3 * (i : Int), (i : Int)))).map (fun tracker =>
      (tracker.slopeQ32, tracker.predictInverse .enabled 10)) = .ok (1401515643, .ok (some 32)) by
    decide +kernel)
  rw [observed .enabled] at found
  rw [← Except.ok.inj found] at seen
  obtain ⟨slope, answer⟩ := Prod.mk.inj seen
  obtain ⟨_, inverse, inverses, back⟩ := inverted (by rw [slope]; decide) 10 (by decide)
  rw [inverses .enabled] at answer
  obtain ⟨y', predicted, near⟩ := back 32 (Except.ok.inj answer)
  refine ⟨tracker, observed .enabled, ?_, y', predicted .enabled, near⟩
  rw [inverses .enabled, Except.ok.inj answer]

end LinearTracker

end EspClockSync
