import EspClockSync.Machine.Statistics
import EspClockSync.Verif.EstimatorAnswers

/-!
# What the reported residual says

`quality` reports twice the rounded deviation of the window as its 95th percentile. Whatever the
noise, more than three quarters of the window lie within two microseconds more than that of the
translation by which the estimator answers; and a window near a translation reports hardly twice
its distance.
-/

namespace EspClockSync

open Machine

/-- How far an observation is from the translation of the estimator, in nanoseconds. -/
def Estimator.missNs (est : Estimator) (s : Sample) : Nat := (s.exactOffset - est.offsetNs).natAbs

/-- It is the distance from what the estimator answers. -/
theorem Estimator.missNs_eq {est : Estimator} (enough : minSamples ≤ est.n)
    (range : -(1000 * 2 ^ 62) ≤ est.offsetNs ∧ est.offsetNs ≤ 2 ^ 72) {s : Sample} {answer : U128}
    (answered : est.syncedNsAt s.localUs = some answer) :
    est.missNs s = ((s.serverNs.toNat : Int) - answer.toNat).natAbs := by
  have translated := (Estimator.syncedNsAt_eq_some_iff enough range s.localUs answer).mp answered
  unfold Estimator.missNs Sample.exactOffset
  omega

/-- A reported residual that is not cut off is twice the rounded root of the mean square. -/
theorem residualOf_of_ne_max {samples : List Sample} (reported : residualOf samples ≠ u32Max) :
    (residualOf samples).toNat =
      2 * Nat.sqrt (squareSum (meanOffset samples) samples / samples.length) := by
  have value := residualOf_toNat samples
  have whole : (residualOf samples).toNat ≠ 2 ^ 32 - 1 := by
    intro largest
    apply reported
    apply BitVec.eq_of_toNat_eq
    rw [largest]
    rfl
  omega

/-- Fewer than a quarter of a window miss its mean by two microseconds more than its residual. -/
theorem four_mul_countP_residualOf_lt {samples : List Sample} (nonempty : samples ≠ [])
    (reported : residualOf samples ≠ u32Max) :
    4 * samples.countP (fun s => decide
      (1000 * ((residualOf samples).toNat + 2) ≤ (s.exactOffset - meanOffset samples).natAbs)) <
        samples.length := by
  have few := four_mul_countP_lt nonempty (Sample.residualUs (meanOffset samples))
  have doubled := residualOf_of_ne_max reported
  unfold squareSum at doubled
  have threshold : ∀ s ∈ samples, decide (1000 * ((residualOf samples).toNat + 2) ≤
      (s.exactOffset - meanOffset samples).natAbs) = true ↔
      decide (2 * (Nat.sqrt ((samples.map fun s => s.residualUs (meanOffset samples) ^ 2).sum /
        samples.length) + 1) ≤ s.residualUs (meanOffset samples)) = true := by
    intro s _
    rw [decide_eq_true_eq, decide_eq_true_eq, doubled]
    unfold Sample.residualUs
    omega
  rw [List.countP_congr threshold]
  exact few

/-- The squares of whole microseconds are not more than those of nanoseconds. -/
theorem squareSum_le (mean : Int) (samples : List Sample) :
    1000000 * (squareSum mean samples : Int) ≤
      ((samples.map Sample.exactOffset).map fun offset => (offset - mean) ^ 2).sum := by
  unfold squareSum
  induction samples with
  | nil => simp
  | cons s rest ih =>
    have whole : 1000 * s.residualUs mean ≤ (s.exactOffset - mean).natAbs :=
      Nat.mul_div_le (s.exactOffset - mean).natAbs 1000
    have square : 1000000 * ((s.residualUs mean ^ 2 : Nat) : Int) ≤ (s.exactOffset - mean) ^ 2 := by
      rw [← Int.natAbs_sq (s.exactOffset - mean)]
      have scaled := Nat.pow_le_pow_left whole 2
      rw [Nat.mul_pow] at scaled
      exact_mod_cast scaled
    simp only [List.map_cons, List.sum_cons, Nat.cast_add, mul_add]
    exact add_le_add square ih

/-- The squares around a center near all values. -/
theorem sum_sq_le {values : List Int} {center : Int} {noise : Nat}
    (near : ∀ value ∈ values, (value - center).natAbs ≤ noise) :
    (values.map fun value => (value - center) ^ 2).sum ≤ (values.length : Int) * noise ^ 2 := by
  have each : ∀ value ∈ values, (value - center) ^ 2 ≤ (noise : Int) ^ 2 := by
    intro value member
    rw [← Int.natAbs_sq (value - center)]
    exact_mod_cast Nat.pow_le_pow_left (near value member) 2
  calc (values.map fun value => (value - center) ^ 2).sum
    _ ≤ (values.map fun _ => (noise : Int) ^ 2).sum := List.sum_le_sum each
    _ = values.length * noise ^ 2 := by simp

/-- Near a translation a window reports hardly twice its distance from it. -/
theorem residualOf_le {samples : List Sample} (nonempty : samples ≠ []) {theta : Int} {noise : Nat}
    (near : ∀ s ∈ samples, (s.exactOffset - theta).natAbs ≤ noise) :
    1000 * (residualOf samples).toNat ≤ 2 * (noise + 1) := by
  have count : (0 : Int) < samples.length := int_length_pos nonempty
  have offsets : samples.map Sample.exactOffset ≠ [] := by simpa using nonempty
  have smallest := sum_sq_sub_tdiv_le offsets theta
  have nearby : ∀ offset ∈ samples.map Sample.exactOffset, (offset - theta).natAbs ≤ noise := by
    intro offset member
    obtain ⟨s, inside, rfl⟩ := List.mem_map.mp member
    exact near s inside
  have around := sum_sq_le nearby
  rw [List.length_map] at smallest around
  have squares := squareSum_le (meanOffset samples) samples
  have root : Nat.sqrt (squareSum (meanOffset samples) samples / samples.length) ^ 2 *
      samples.length ≤ squareSum (meanOffset samples) samples := by
    have floor := Nat.sqrt_le' (squareSum (meanOffset samples) samples / samples.length)
    exact (Nat.mul_le_mul_right _ floor).trans (Nat.div_mul_le_self _ _)
  have reported := residualOf_toNat samples
  generalize Nat.sqrt (squareSum (meanOffset samples) samples / samples.length) = std at root reported
  have total : 1000000 * (std : Int) ^ 2 * samples.length ≤ samples.length * (noise ^ 2 + 1) := by
    calc 1000000 * (std : Int) ^ 2 * samples.length
      _ = 1000000 * ((std ^ 2 * samples.length : Nat) : Int) := by
        push_cast
        ring
      _ ≤ 1000000 * (squareSum (meanOffset samples) samples : Int) := by
        have cast : ((std ^ 2 * samples.length : Nat) : Int) ≤
          squareSum (meanOffset samples) samples := by exact_mod_cast root
        omega
      _ ≤ _ := squares
      _ ≤ _ := smallest
      _ ≤ samples.length * (noise : Int) ^ 2 + samples.length := by omega
      _ = samples.length * (noise ^ 2 + 1) := by ring
  have square : (1000 * std) ^ 2 ≤ (noise + 1) ^ 2 := by
    have divided : 1000000 * (std : Int) ^ 2 ≤ noise ^ 2 + 1 := by
      rw [mul_comm _ (samples.length : Int)] at total
      exact le_of_mul_le_mul_left total count
    have natural : 1000000 * std ^ 2 ≤ noise ^ 2 + 1 := by exact_mod_cast divided
    calc (1000 * std) ^ 2
      _ = 1000000 * std ^ 2 := by ring
      _ ≤ noise ^ 2 + 1 := natural
      _ ≤ noise ^ 2 + 2 * noise + 1 := by omega
      _ = (noise + 1) ^ 2 := by ring
  have small : 1000 * std ≤ noise + 1 := (Nat.pow_le_pow_iff_left (by decide)).mp square
  omega

/-- **The reported residual.** Every history of at least eight plain observations is observed, and
unless the residual is cut off, more than three quarters of the window lie within two microseconds
more than it of the translation of the estimator, which is its answer wherever it has one. Where
the window lies within `noise` of a translation, the residual is at most twice that, rounded up
by a nanosecond. -/
theorem quality_bounds_residuals {history : List Sample} (bounded : ∀ s ∈ history, s.Bounded)
    (enough : 8 ≤ history.length) :
    ∃ est, (∀ checks, Estimator.observeAll checks history = .ok est) ∧
      (∀ s answer, est.syncedNsAt s.localUs = some answer →
        est.missNs s = ((s.serverNs.toNat : Int) - answer.toNat).natAbs) ∧
      (est.quality.residualUsP95 ≠ u32Max →
        4 * (window windowSize history).countP (fun s => decide
          (1000 * (est.quality.residualUsP95.toNat + 2) ≤ est.missNs s)) <
            (window windowSize history).length) ∧
      ∀ (theta : Int) (noise : Nat),
        (∀ s ∈ window windowSize history, (s.exactOffset - theta).natAbs ≤ noise) →
          1000 * est.quality.residualUsP95.toNat ≤ 2 * (noise + 1) := by
  obtain ⟨est, observed, tracks⟩ := observeAll_of_bounded bounded
  have full := minSamples_le_window enough
  have fitted := tracks.fitted full
  have counted : minSamples ≤ est.n := by
    rw [tracks.count]
    exact full
  have nonempty : window windowSize history ≠ [] := by
    intro empty
    rw [empty] at full
    exact absurd full (by decide)
  have residual : est.quality.residualUsP95 = residualOf (window windowSize history) :=
    (if_pos counted).trans fitted.residual
  refine ⟨est, observed, fun s answer answered => ?_, fun reported => ?_, fun theta noise near => ?_⟩
  · exact Estimator.missNs_eq counted (tracks.offset_range bounded counted) answered
  · rw [residual] at reported ⊢
    unfold Estimator.missNs
    rw [fitted.offset]
    exact four_mul_countP_residualOf_lt nonempty reported
  · rw [residual]
    exact residualOf_le nonempty near

/-- Eight observations a tenth of a second apart, every second one half a millisecond late. -/
def jitteredSamples : List Sample :=
  (List.range 8).map fun i : Nat =>
    ⟨BitVec.ofNat 128 (5000000 + 100000000 * i + 500000 * (i % 2)), BitVec.ofNat 64 (100000 * i)⟩

/-- Their times are what they are made of. -/
theorem toNat_of_mem_jitteredSamples {s : Sample} (member : s ∈ jitteredSamples) :
    ∃ i < 8, s.serverNs.toNat = 5000000 + 100000000 * i + 500000 * (i % 2) ∧
      s.localUs.toNat = 100000 * i := by
  obtain ⟨i, inside, rfl⟩ := List.mem_map.mp member
  have few := List.mem_range.mp inside
  refine ⟨i, few, ?_, ?_⟩
  · rw [BitVec.toNat_ofNat]
    exact Nat.mod_eq_of_lt (by omega)
  · rw [BitVec.toNat_ofNat]
    exact Nat.mod_eq_of_lt (by omega)

/-- They report a residual of at most a millisecond. -/
theorem quality_bounds_residuals_jittered :
    ∃ est, Estimator.observeAll .enabled jitteredSamples = .ok est ∧
      1000 * est.quality.residualUsP95.toNat ≤ 2 * (500000 + 1) := by
  have bounded : ∀ s ∈ jitteredSamples, s.Bounded := by
    intro s member
    obtain ⟨i, few, server, reading⟩ := toNat_of_mem_jitteredSamples member
    exact ⟨by omega, by omega⟩
  obtain ⟨est, observed, _, _, small⟩ := quality_bounds_residuals bounded (by simp [jitteredSamples])
  refine ⟨est, observed .enabled, small 5000000 500000 fun s member => ?_⟩
  obtain ⟨i, few, server, reading⟩ := toNat_of_mem_jitteredSamples (mem_of_mem_window member)
  unfold Sample.exactOffset
  omega

end EspClockSync
