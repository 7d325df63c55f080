import EspClockSync.Machine.Statistics
import EspClockSync.Verif.TrackerHistory

/-!
# Recovering a line

Observations within some noise of a line are fitted by a line near it. Four roundings come
between the two: both means are truncated, the slope is truncated and clamped, and a
prediction is rounded down. Each is bounded on its own, the means through the moments around
a rounded center.
-/

namespace EspClockSync

open Machine

namespace LinearTracker

variable {samples history : List (Int × Int)} {c slope noise : ℚ}

/-! ## Around the center -/

/-- The sum of the distances in `x` from a center. -/
def distances (x : Int) (samples : List (Int × Int)) : Int := (samples.map fun s => |s.1 - x|).sum

/-- Both signed distances add up to no more than the count. -/
theorem abs_sum_sub_center_le (nonempty : samples ≠ []) (anchorX : Int) :
    |(samples.map fun s => ((s.1 - centerX anchorX samples : Int) : ℚ)).sum| ≤ samples.length ∧
      |(samples.map fun s => ((s.2 - centerY samples : Int) : ℚ)).sum| ≤ samples.length := by
  have sumX : |(samples.map fun s => s.1 - centerX anchorX samples).sum| ≤ samples.length := by
    simp only [centerX, ← sub_sub]
    exact abs_sum_sub_tdiv_le nonempty fun s => s.1 - anchorX
  have sumY : |(samples.map fun s => s.2 - centerY samples).sum| ≤ samples.length :=
    abs_sum_sub_tdiv_le nonempty Prod.snd
  rw [← intCast_sum_map, ← intCast_sum_map]
  constructor
  · exact_mod_cast sumX
  · exact_mod_cast sumY

/-- A line seen from a center. -/
theorem near_from_center (near : ∀ s ∈ samples, |(s.2 : ℚ) - (c + slope * s.1)| ≤ noise)
    (x y : Int) : ∀ s ∈ samples,
      |((s.2 - y : Int) : ℚ) - ((c + slope * x - y) + slope * ((s.1 - x : Int) : ℚ))| ≤ noise := by
  intro s member
  have moved : ((s.2 - y : Int) : ℚ) - ((c + slope * x - y) + slope * ((s.1 - x : Int) : ℚ)) =
      s.2 - (c + slope * s.1) := by
    push_cast
    ring
  rw [moved]
  exact near s member

/-- The anchor of a fit is near the line. -/
theorem abs_anchor_sub_le (nonempty : samples ≠ []) (flat : |slope| ≤ 1 / 2)
    (near : ∀ s ∈ samples, |(s.2 : ℚ) - (c + slope * s.1)| ≤ noise) (anchorX : Int) :
    |(centerY samples : ℚ) - (c + slope * centerX anchorX samples)| ≤ noise + 3 / 2 := by
  have centred := abs_sum_sub_center_le nonempty anchorX
  rw [abs_sub_comm]
  exact abs_level_le (near_from_center near (centerX anchorX samples) (centerY samples))
    nonempty flat centred.1 centred.2

/-- The numerator of a fit is near the slope times its denominator. -/
theorem abs_numerator_sub_le (nonempty : samples ≠ []) (flat : |slope| ≤ 1 / 2)
    (near : ∀ s ∈ samples, |(s.2 : ℚ) - (c + slope * s.1)| ≤ noise) (anchorX : Int) :
    |(numerator (centerX anchorX samples) (centerY samples) samples : ℚ) -
      slope * denominator (centerX anchorX samples) samples| ≤
        (noise + 2) * (distances (centerX anchorX samples) samples + samples.length) := by
  have centred := abs_sum_sub_center_le nonempty anchorX
  have moments := abs_moment_sub_le
    (near_from_center near (centerX anchorX samples) (centerY samples)) nonempty flat
    centred.1 centred.2
  unfold numerator denominator distances
  rw [intCast_sum_map, intCast_sum_map, intCast_sum_map]
  simpa only [Int.cast_mul, Int.cast_abs] using moments

/-! ## The fit -/

/-- The clamped slope is near the slope of the line. -/
theorem abs_slopeOf_sub_le {x y : Int} {miss : ℚ} (apart : 0 < denominator x samples)
    (flat : |slope| ≤ 1 / 2)
    (near : |(numerator x y samples : ℚ) - slope * denominator x samples| ≤ miss) :
    |(slopeOf x y samples : ℚ) - slope * 2 ^ 32| ≤ miss * 2 ^ 32 / denominator x samples + 1 := by
  have limit : |slope * 2 ^ 32| ≤ 2 ^ 31 := by
    have within := abs_le.mp flat
    exact abs_le.mpr ⟨by linarith, by linarith⟩
  have scaled : |((numerator x y samples * 2 ^ 32 : Int) : ℚ) -
      slope * 2 ^ 32 * denominator x samples| ≤ miss * 2 ^ 32 := by
    have close := abs_le.mp near
    push_cast
    exact abs_le.mpr ⟨by linarith, by linarith⟩
  have toward := abs_clamp_sub_le
    (((numerator x y samples * 2 ^ 32).tdiv (denominator x samples) : Int) : ℚ) limit
  unfold slopeOf maxSlopeQ32
  push_cast at toward ⊢
  exact toward.trans (abs_tdiv_sub_le apart scaled)

/-- A line near another at its anchor and in its slope is near it everywhere. -/
theorem Line.abs_at_sub_le {line : Line} {level tilt : ℚ}
    (anchor : |(line.meanY : ℚ) - (c + slope * line.meanX)| ≤ level)
    (tilted : |(line.slopeQ32 : ℚ) - slope * 2 ^ 32| ≤ tilt) (x : Int) :
    |(line.at x : ℚ) - (c + slope * x)| ≤
      level + 1 + |(x : ℚ) - line.meanX| * (tilt / 2 ^ 32) := by
  have floor : (((x - line.meanX) * line.slopeQ32 / 2 ^ 32 * 2 ^ 32 : Int) : ℚ) ≤
      (((x - line.meanX) * line.slopeQ32 : Int) : ℚ) :=
    Int.cast_le.mpr (Int.ediv_mul_le _ (by decide))
  have ceiling : (((x - line.meanX) * line.slopeQ32 : Int) : ℚ) <
      ((((x - line.meanX) * line.slopeQ32 / 2 ^ 32 + 1) * 2 ^ 32 : Int) : ℚ) :=
    Int.cast_lt.mpr (Int.lt_ediv_add_one_mul_self _ (by decide))
  have turned : |((x : ℚ) - line.meanX) * (line.slopeQ32 - slope * 2 ^ 32)| ≤
      |(x : ℚ) - line.meanX| * tilt := by
    rw [abs_mul]
    exact mul_le_mul_of_nonneg_left tilted (abs_nonneg _)
  have here := abs_le.mp anchor
  have there := abs_le.mp turned
  unfold Line.at
  push_cast at floor ceiling ⊢
  generalize ((((x - line.meanX) * line.slopeQ32 / 2 ^ 32 : Int)) : ℚ) = part at *
  rw [← mul_div_assoc]
  exact abs_le.mpr ⟨by linarith, by linarith⟩

/-- The error of a slope without its scale. -/
theorem unscaled_le (moment total : ℚ) :
    (moment * 2 ^ 32 / total + 1) / 2 ^ 32 ≤ moment / total + 1 / 2 ^ 31 := by
  rw [add_div, mul_div_right_comm, mul_div_cancel_right₀ _ (by norm_num)]
  linarith

/-- A fit over observations near a line is near it. -/
theorem abs_fitOf_at_sub_le (spread : Spread samples) (flat : |slope| ≤ 1 / 2)
    (near : ∀ s ∈ samples, |(s.2 : ℚ) - (c + slope * s.1)| ≤ noise) (anchorX x : Int) :
    |((fitOf anchorX samples).at x : ℚ) - (c + slope * x)| ≤
      noise + 3 + |(x : ℚ) - centerX anchorX samples| *
        ((noise + 2) * (distances (centerX anchorX samples) samples + samples.length) /
          denominator (centerX anchorX samples) samples + 1 / 2 ^ 31) := by
  have nonempty : samples ≠ [] := spread.nonempty
  have apart : 0 < denominator (centerX anchorX samples) samples :=
    (denominator_nonneg _ samples).lt_of_ne ((denominator_ne_zero_iff nonempty anchorX).mpr spread.2).symm
  have anchor := abs_anchor_sub_le nonempty flat near anchorX
  have steep := abs_slopeOf_sub_le apart flat (abs_numerator_sub_le nonempty flat near anchorX)
  have value := @Line.abs_at_sub_le c slope (fitOf anchorX samples) _ _ anchor steep x
  have rounded := unscaled_le
    ((noise + 2) * (distances (centerX anchorX samples) samples + samples.length))
    (denominator (centerX anchorX samples) samples)
  have turned := mul_le_mul_of_nonneg_left rounded (abs_nonneg ((x : ℚ) - centerX anchorX samples))
  change _ ≤ noise + 3 / 2 + 1 + |(x : ℚ) - centerX anchorX samples| * _ at value
  exact value.trans (add_le_add (by linarith only []) turned)

/-! ## The run -/

/-- A bounded line stays in range over the box. -/
theorem Line.Bounded.at_fits {line : Line} (bounded : line.Bounded) {x : Int} (box : |x| ≤ 2 ^ 40) :
    I64Fits (line.at x) := by
  have meanY := abs_le.mp bounded.meanY
  have product : |(x - line.meanX) * line.slopeQ32| ≤ 2 ^ 41 * 2 ^ 31 := by
    rw [abs_mul]
    exact mul_le_mul (abs_sub_le_of_box box bounded.meanX) bounded.slope (abs_nonneg _) (by decide)
  have within := abs_le.mp product
  unfold Line.at I64Fits
  omega

/-- Every refit over observations in the box keeps all bits of its shift. -/
theorem shift_fits_of_box (box : ∀ o ∈ history, InBox o) (earlier : List (Int × Int))
    (o : Int × Int) (later : List (Int × Int)) (split : history = earlier ++ o :: later) :
    I128Fits (numerator (centerX o.1 (window trackerSize (earlier ++ [o])))
      (centerY (window trackerSize (earlier ++ [o]))) (window trackerSize (earlier ++ [o])) *
        2 ^ 32) := by
  have inWindow : Window (window trackerSize (earlier ++ [o])) := by
    apply window_of_box
    intro s member
    apply box
    rw [split, List.append_cons]
    exact List.mem_append_left later member
  have last := mem_window_concat_self trackerSize_pos earlier o
  have centered := inWindow.center_le (List.ne_nil_of_mem last) o.1
  exact inWindow.shift_fits centered.1 centered.2

/-- **A noisy line is recovered.** After observations in the box, every refit on the way
without loss in its shift, a window with two different `x`, all of it within `noise` of a line
of slope `p / q` at most a half, is answered by a line within `noise + 3` of it at the center
and within the relative error of the moments away from it. -/
theorem line_recovered (box : ∀ o ∈ history, InBox o) (spread : Spread (window trackerSize history))
    {p q : Int} (flat : |(p : ℚ) / q| ≤ 1 / 2)
    (near : ∀ s ∈ window trackerSize history, |(s.2 : ℚ) - (c + p * s.1 / q)| ≤ noise) :
    ∃ tracker, (∀ checks, observeAll checks history = .ok tracker) ∧
      (∀ earlier o later, history = earlier ++ o :: later →
        I128Fits (numerator (centerX o.1 (window trackerSize (earlier ++ [o])))
          (centerY (window trackerSize (earlier ++ [o])))
          (window trackerSize (earlier ++ [o])) * 2 ^ 32)) ∧
      ∀ x : Int, |x| ≤ 2 ^ 40 → ∃ v, (∀ checks, tracker.predict checks x = .ok (some v)) ∧
        |(v : ℚ) - (c + p * x / q)| ≤ noise + 3 + |(x : ℚ) - tracker.meanX| *
          ((noise + 2) * (distances tracker.meanX (window trackerSize history) +
            (window trackerSize history).length) /
              denominator tracker.meanX (window trackerSize history) + 1 / 2 ^ 31) := by
  have close : ∀ s ∈ window trackerSize history, |(s.2 : ℚ) - (c + p / q * s.1)| ≤ noise := by
    intro s member
    rw [← mul_div_right_comm]
    exact near s member
  rcases List.eq_nil_or_concat history with rfl | ⟨earlier, o, rfl⟩
  · exact absurd rfl spread.nonempty
  · rw [List.concat_eq_append] at *
    obtain ⟨_, tracker, _, observed, tracks, line⟩ := observeAll_concat_ok box
    have enough : minSamples ≤ tracker.n := by
      rw [tracks.count]
      exact spread.1
    unfold refitted at line
    rw [if_pos spread] at line
    have anchor : tracker.meanX = centerX o.1 (window trackerSize (earlier ++ [o])) :=
      congrArg Line.meanX line
    refine ⟨tracker, observed, shift_fits_of_box box, fun x inBox => ?_⟩
    have within := abs_le.mp inBox
    refine ⟨tracker.line.at x, fun checks => ?_, ?_⟩
    · rw [tracks.predict_ok enough ⟨by omega, by omega⟩,
        inRange_of_fits (tracks.bounded.at_fits inBox)]
    · rw [anchor, line, mul_div_right_comm]
      exact abs_fitOf_at_sub_le spread flat close o.1 x

/-- Eight observations within one of a line that falls by a third: at their center 11 the
prediction is within four of the line. -/
theorem line_recovered_falling :
    ∃ tracker, observeAll .enabled ((List.range 8).map fun i => (3 * (i : Int), (i % 2 - i : Int))) =
        .ok tracker ∧
      ∃ v : Int, tracker.predict .enabled 11 = .ok (some v) ∧ |(v : ℚ) + 11 / 3| ≤ 4 := by
  have box : ∀ o ∈ (List.range 8).map fun i => (3 * (i : Int), (i % 2 - i : Int)), InBox o := by
    decide
  have spread : Spread (window trackerSize
      ((List.range 8).map fun i => (3 * (i : Int), (i % 2 - i : Int)))) := by decide
  have near : ∀ s ∈ window trackerSize ((List.range 8).map fun i => (3 * (i : Int), (i % 2 - i : Int))),
      |(s.2 : ℚ) - (0 + (-1 : Int) * s.1 / (3 : Int))| ≤ 1 := by decide +kernel
  have flat : |((-1 : Int) : ℚ) / (3 : Int)| ≤ 1 / 2 := by decide +kernel
  obtain ⟨tracker, observed, _, answers⟩ := line_recovered box spread flat near
  obtain ⟨same, found, center⟩ := exists_of_map_eq_ok (show
    (observeAll .enabled ((List.range 8).map fun i => (3 * (i : Int), (i % 2 - i : Int)))).map
      (fun tracker => tracker.meanX) = .ok 11 by decide +kernel)
  rw [observed .enabled] at found
  rw [← Except.ok.inj found] at center
  obtain ⟨v, predicted, close⟩ := answers 11 (by decide)
  rw [center] at close
  refine ⟨tracker, observed .enabled, v, predicted .enabled, ?_⟩
  norm_num at close ⊢
  exact close

end LinearTracker

end EspClockSync
