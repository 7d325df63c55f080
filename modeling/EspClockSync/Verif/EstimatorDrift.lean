import EspClockSync.Verif.EstimatorAnswers

/-!
# The drift of the estimator

The diagnostic drift is the slope between two samples of least and of greatest local time,
less the nominal slope. Whatever the order of the samples and however the extremes tie, it
is as accurate as these two samples are close to a line, over the time between them.
-/

namespace EspClockSync

open Machine

/-- The exact nanoseconds by which a sample misses a line of drift `d` through `c`. -/
def Sample.missNs (c d : ℚ) (s : Sample) : ℚ :=
  s.serverNs.toNat - (c + s.localUs.toNat * (1000 + d / 10 ^ 6))

/-- All extremes of a window are equally far apart. -/
theorem Extremal.localUs_eq {samples : List Sample} {o n o' n' : Sample}
    (extremal : Extremal samples o n) (extremal' : Extremal samples o' n') :
    o.localUs = o'.localUs ∧ n.localUs = n'.localUs := by
  constructor
  · exact BitVec.le_antisymm (extremal.oldest_le o' extremal'.oldest_mem)
      (extremal'.oldest_le o extremal.oldest_mem)
  · exact BitVec.le_antisymm (extremal'.le_newest n extremal.newest_mem)
      (extremal.le_newest n' extremal'.newest_mem)

/-- The slope between plain samples more than a second apart, without saturation. -/
theorem slopeBetween_of_apart {o n : Sample} (oBounded : o.Bounded) (nBounded : n.Bounded)
    (apart : o.localUs.toNat + 1000000 < n.localUs.toNat) :
    slopeBetween o n = max (-1000000) (min ((((n.serverNs.toNat : Int) - o.serverNs.toNat) *
      1000000).tdiv ((n.localUs.toNat : Int) - o.localUs.toNat) - 1000000000) 1000000) := by
  have early := oBounded.server
  have late := nBounded.server
  have fits : I128Fits (((n.serverNs.toNat : Int) - o.serverNs.toNat) * 1000000) := by
    constructor
    · omega
    · omega
  unfold slopeBetween
  rw [if_pos apart, saturateI128_of_fits fits]

/-- A truncated slope less the nominal one is within a unit of the drift, apart from what
its ends miss. -/
theorem abs_slope_sub_le {rise run : Int} {d miss : ℚ} (forward : 0 < run)
    (near : |(rise : ℚ) - run * (1000 + d / 10 ^ 6)| ≤ miss) :
    |(((rise * 1000000).tdiv run - 1000000000 : Int) : ℚ) - d| ≤ miss * 10 ^ 6 / run + 1 := by
  have scaled : |((rise * 1000000 : Int) : ℚ) - (1000000000 + d) * run| ≤ miss * 10 ^ 6 := by
    have close := abs_le.mp near
    push_cast
    exact abs_le.mpr ⟨by linarith, by linarith⟩
  have slope := abs_tdiv_sub_le forward scaled
  push_cast at slope ⊢
  rw [sub_sub]
  exact slope

/-- The slope between two plain samples near a line is near its drift. -/
theorem abs_slopeBetween_sub_le {o n : Sample} {c d noise : ℚ} (oBounded : o.Bounded)
    (nBounded : n.Bounded) (apart : o.localUs.toNat + 1000000 < n.localUs.toNat)
    (slow : |d| ≤ 10 ^ 6) (oNear : |o.missNs c d| ≤ noise) (nNear : |n.missNs c d| ≤ noise) :
    |(slopeBetween o n : ℚ) - d| ≤
      2 * noise * 10 ^ 6 / ((n.localUs.toNat : ℚ) - o.localUs.toNat) + 1 := by
  have both : |(((n.serverNs.toNat : Int) - o.serverNs.toNat : Int) : ℚ) -
      ((n.localUs.toNat : Int) - o.localUs.toNat : Int) * (1000 + d / 10 ^ 6)| ≤ 2 * noise := by
    have older := abs_le.mp oNear
    have newer := abs_le.mp nNear
    unfold Sample.missNs at older newer
    push_cast
    exact abs_le.mpr ⟨by linarith, by linarith⟩
  have slope := abs_slope_sub_le (show 0 < (n.localUs.toNat : Int) - o.localUs.toNat by omega) both
  have limit : |d| ≤ 1000000 := slow.trans (by norm_num)
  have toward := abs_clamp_sub_le ((((((n.serverNs.toNat : Int) - o.serverNs.toNat) * 1000000).tdiv
    ((n.localUs.toNat : Int) - o.localUs.toNat) - 1000000000 : Int)) : ℚ) limit
  rw [slopeBetween_of_apart oBounded nBounded apart]
  push_cast at toward slope ⊢
  exact toward.trans slope

/-- The final clamp of the drift never acts. -/
theorem quality_driftPpb {est : Estimator} {o n : Sample}
    (slope : est.driftPpb = slopeBetween o n) : est.quality.driftPpb = slopeBetween o n := by
  unfold Estimator.quality
  rw [slope]
  dsimp only
  unfold slopeBetween
  split
  · omega
  · omega

/-- **Accuracy of the drift.** After at least eight plain observations, with a window whose
extremes are `span` apart, the drift is zero up to a second; past that, if every sample of
the window is within `noise` nanoseconds of a line of drift `d`, it is within
`2 * noise / span` (in parts per billion) and one more of `d`. -/
theorem drift_accuracy {history : List Sample} (bounded : ∀ s ∈ history, s.Bounded)
    (enough : 8 ≤ history.length) :
    ∃ est, (∀ checks, Estimator.observeAll checks history = .ok est) ∧
      ∀ o n, Extremal (window 256 history) o n →
        (n.localUs.toNat - o.localUs.toNat ≤ 10 ^ 6 → est.quality.driftPpb = 0) ∧
        (10 ^ 6 < n.localUs.toNat - o.localUs.toNat → ∀ c d noise : ℚ, 0 ≤ noise → |d| ≤ 10 ^ 6 →
          (∀ s ∈ window 256 history,
            |s.serverNs.toNat - (c + s.localUs.toNat * (1000 + d / 10 ^ 6))| ≤ noise) →
          |(est.quality.driftPpb : ℚ) - d| ≤
            2 * noise * 10 ^ 6 / ((n.localUs.toNat : ℚ) - o.localUs.toNat) + 1) := by
  obtain ⟨est, observed, tracks⟩ := observeAll_of_bounded bounded
  obtain ⟨o', n', extremal', slope⟩ := (tracks.fitted (minSamples_le_window enough)).slope
  have drift := quality_driftPpb slope
  have plain : ∀ s ∈ window 256 history, s.Bounded :=
    fun s member => bounded s (mem_of_mem_window member)
  refine ⟨est, observed, fun o n extremal => ?_⟩
  obtain ⟨sameOldest, sameNewest⟩ := extremal.localUs_eq extremal'
  rw [sameOldest, sameNewest, drift]
  constructor
  · intro short
    unfold slopeBetween
    rw [if_neg (by omega)]
  · intro long c d noise _ slow near
    exact abs_slopeBetween_sub_le (plain o' extremal'.oldest_mem) (plain n' extremal'.newest_mem)
      (by omega) slow (near o' extremal'.oldest_mem) (near n' extremal'.newest_mem)

/-- A server clock one part per million fast, observed once a second. -/
def driftingSamples : List Sample :=
  (List.range 8).map fun i => ⟨BitVec.ofNat 128 (1000001000 * i), BitVec.ofNat 64 (1000000 * i)⟩

/-- Seven seconds of it give its drift. -/
theorem drift_accuracy_fast : ∃ est, Estimator.observeAll .enabled driftingSamples = .ok est ∧
    |(est.quality.driftPpb : ℚ) - 1000| ≤ 1 := by
  have each : ∀ s ∈ driftingSamples, ∃ i : Nat, i < 8 ∧ s.serverNs.toNat = 1000001000 * i ∧
      s.localUs.toNat = 1000000 * i := by decide
  have bounded : ∀ s ∈ driftingSamples, s.Bounded := by
    intro s member
    obtain ⟨i, small, server, reading⟩ := each s member
    exact ⟨by omega, by omega⟩
  have whole : window 256 driftingSamples = driftingSamples := window_of_length_le (by decide)
  have extremal : Extremal (window 256 driftingSamples) ⟨0, 0⟩ ⟨7000007000, 7000000⟩ := by
    rw [whole]
    exact ⟨by decide, by decide, by decide, by decide⟩
  obtain ⟨est, observed, accurate⟩ := drift_accuracy bounded (by decide)
  have near : ∀ s ∈ window 256 driftingSamples,
      |(s.serverNs.toNat : ℚ) - (0 + s.localUs.toNat * (1000 + 1000 / 10 ^ 6))| ≤ 0 := by
    rw [whole]
    intro s member
    obtain ⟨i, _, server, reading⟩ := each s member
    rw [server, reading, abs_le]
    push_cast
    constructor
    · linarith
    · linarith
  have fast := (accurate _ _ extremal).2 (by decide) 0 1000 0 le_rfl (by norm_num) near
  refine ⟨est, observed .enabled, fast.trans ?_⟩
  norm_num

end EspClockSync
