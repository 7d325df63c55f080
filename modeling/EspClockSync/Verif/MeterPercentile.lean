import EspClockSync.Machine.Ring
import EspClockSync.Machine.Statistics
import EspClockSync.Verif.MeterSteps

/-!
# The percentile of the skew meter

The meter keeps the last 1024 magnitudes and reports an entry of them sorted. After every run
that is their 99th percentile: less than one in a hundred exceeds it, at least one in a hundred
reaches it, and up to a hundred matches it is the maximum.
-/

namespace EspClockSync

open Machine

namespace Meter

variable {checks : OverflowChecks} {root : U128 → U64} {settings : Settings}

namespace DirStats

/-- The magnitude of a difference in whole microseconds. -/
def magnitude (deltaNs : Int) : U64 := unsignedAbs (deltaUs deltaNs)

/-- The window takes one more magnitude. -/
theorem pushRecent_window (history : List U64) (abs : U64) :
    pushRecent (window 1024 history) abs = window 1024 (history ++ [abs]) := by
  have length := window_length 1024 history
  unfold pushRecent
  split
  · rename_i long
    rw [List.length_append, List.length_singleton] at long
    exact (window_concat abs (by omega) (by decide)).symm
  · rename_i short
    rw [List.length_append, List.length_singleton] at short
    rw [window_of_length_le (by omega), window_of_length_le (by
      rw [List.length_append, List.length_singleton]
      omega)]

/-- What `percentile99` reports is an entry of the sorted window, a hundredth from its end. -/
theorem percentile99_eq {recent : List U64} (nonempty : recent ≠ []) :
    ∃ (sorted : List U64) (idx : Nat) (inside : idx < sorted.length),
      sorted.Perm recent ∧
      sorted.Pairwise (fun earlier later => earlier.toNat ≤ later.toNat) ∧
      percentile99 recent = sorted[idx] ∧
      100 * idx ≤ 99 * sorted.length ∧ 99 * sorted.length < 100 * (idx + 1) := by
  have perm := List.mergeSort_perm recent fun left right => left.toNat ≤ right.toNat
  have order := List.pairwise_mergeSort
    (fun (a b c : U64) (first : decide (a.toNat ≤ b.toNat) = true)
      (second : decide (b.toNat ≤ c.toNat) = true) =>
      decide_eq_true ((of_decide_eq_true first).trans (of_decide_eq_true second)))
    (fun (a b : U64) => by simpa using Nat.le_total a.toNat b.toNat) recent
  have positive := List.length_pos_iff.mpr nonempty
  unfold percentile99
  dsimp only
  generalize recent.mergeSort (fun left right => left.toNat ≤ right.toNat) = sorted at perm order ⊢
  have length := perm.length_eq
  have inside : min (sorted.length * 99 / 100) (sorted.length - 1) < sorted.length := by omega
  refine ⟨sorted, _, inside, perm, by simpa using order, ?_, by omega, by omega⟩
  rw [List.getElem?_eq_getElem inside, Option.getD_some]

/-- **The 99th percentile.** Of a window that is not empty, less than one in a hundred exceeds
what `percentile99` reports and at least one in a hundred reaches it. -/
theorem percentile99_spec {recent : List U64} (nonempty : recent ≠ []) :
    percentile99 recent ∈ recent ∧
      100 * recent.countP (fun abs => decide ((percentile99 recent).toNat < abs.toNat)) <
        recent.length ∧
      recent.length ≤
        100 * recent.countP (fun abs => decide ((percentile99 recent).toNat ≤ abs.toNat)) := by
  obtain ⟨sorted, idx, inside, perm, order, reported, low, high⟩ := percentile99_eq nonempty
  have above := countP_gt_of_sorted order inside
  have below := countP_lt_of_sorted order inside
  have split := List.length_eq_countP_add_countP
    (fun abs => decide (sorted[idx].toNat ≤ abs.toNat)) (l := sorted)
  simp only [decide_eq_true_eq, not_le] at split
  rw [reported, ← perm.countP_eq, ← perm.countP_eq, ← perm.length_eq]
  constructor
  · exact perm.mem_iff.mp (List.getElem_mem inside)
  constructor
  · omega
  · omega

/-- Of at most a hundred entries it is the largest. -/
theorem le_percentile99 {recent : List U64} (few : recent.length ≤ 100) {abs : U64}
    (member : abs ∈ recent) : abs.toNat ≤ (percentile99 recent).toNat := by
  have rare := (percentile99_spec (List.ne_nil_of_mem member)).2.1
  have nothing : recent.countP
      (fun abs => decide ((percentile99 recent).toNat < abs.toNat)) = 0 := by omega
  have reached := List.countP_eq_zero.mp nothing abs member
  simpa using reached

/-! ## What the statistics hold -/

/-- The window and the percentile of these recorded differences. -/
structure Windowed (stats : DirStats) (deltas : List Int) : Prop where
  /-- The last magnitudes. -/
  recent : stats.recentAbsUs = window 1024 (deltas.map magnitude)
  /-- The percentile is that of the window. -/
  reported : stats.p99AbsUs = percentile99 stats.recentAbsUs

/-- Nothing recorded. -/
theorem windowed_default : DirStats.default.Windowed [] := by
  constructor
  · simp [DirStats.default, window]
  · simp [DirStats.default, percentile99]

/-- One more recorded difference. -/
theorem Windowed.record {stats after : DirStats} {deltas : List Int} {delta : Int}
    (held : stats.Windowed deltas) (recorded : stats.record checks root delta = .ok after) :
    after.Windowed (deltas ++ [delta]) := by
  unfold DirStats.record at recorded
  obtain ⟨n, _, recorded⟩ := bind_eq_ok recorded
  obtain ⟨sumUs, _, recorded⟩ := bind_eq_ok recorded
  obtain ⟨sumSqUs, _, recorded⟩ := bind_eq_ok recorded
  obtain ⟨meanUs, _, recorded⟩ := bind_eq_ok recorded
  obtain ⟨meanSq, _, recorded⟩ := bind_eq_ok recorded
  obtain ⟨var, _, recorded⟩ := bind_eq_ok recorded
  have pushed := pushRecent_window (deltas.map magnitude) (magnitude delta)
  rw [← held.recent] at pushed
  rw [← Except.ok.inj recorded]
  constructor
  · rw [List.map_append]
    exact pushed
  · rfl

/-- Statistics that recorded differences one after the other hold their window. -/
theorem windowed_of_recorded {deltas : List Int} {stats : DirStats}
    (recorded : deltas.foldlM (DirStats.record checks root) DirStats.default = .ok stats) :
    stats.Windowed deltas :=
  foldlM_induction (motive := fun deltas stats => stats.Windowed deltas) windowed_default
    (fun _ _ _ _ _ held stepped => held.record stepped) recorded

end DirStats

/-- Every recorded magnitude is at most the maximum. -/
theorem DirStats.Tally.magnitude_le {stats : DirStats} {deltas : List Int} (tally : stats.Tally deltas)
    {abs : U64} (member : abs ∈ deltas.map DirStats.magnitude) :
    abs.toNat ≤ stats.maxAbsUs.toNat := by
  obtain ⟨delta, recorded, rfl⟩ := List.mem_map.mp member
  unfold DirStats.magnitude
  rw [DirStats.unsignedAbs_deltaUs]
  exact (tally.largest _).mp le_rfl delta recorded

/-- **The percentile of a run.** In a direction with matches, what the meter reports as the 99th
percentile is one of the last 1024 magnitudes; less than one in a hundred of them exceeds it, at
least one in a hundred reaches it. It is at most the maximum, and up to a hundred matches are too
few for it to differ from the maximum. -/
theorem percentile_of_run {events : List Event} {meter : Matching} {log : List (Device × Int)}
    (reached : (matching checks root settings).run events = .ok (meter, log)) (dir : Device)
    (matches_some : deltasOf dir log ≠ []) :
    let p99 := (meter.statsPerDir dir).p99AbsUs
    let recent := window 1024 ((deltasOf dir log).map DirStats.magnitude)
    p99 ∈ recent ∧
      100 * recent.countP (fun abs => decide (p99.toNat < abs.toNat)) < recent.length ∧
      recent.length ≤ 100 * recent.countP (fun abs => decide (p99.toNat ≤ abs.toNat)) ∧
      p99.toNat ≤ (meter.statsPerDir dir).maxAbsUs.toNat ∧
      ((deltasOf dir log).length ≤ 100 → p99 = (meter.statsPerDir dir).maxAbsUs) := by
  intro p99 recent
  have windowed := DirStats.windowed_of_recorded (recorded_of_run reached dir)
  have tally := tally_of_run reached dir
  have reported : p99 = DirStats.percentile99 recent := by
    have percentile := windowed.reported
    rw [windowed.recent] at percentile
    exact percentile
  have nonempty : recent ≠ [] := by
    have length := window_length 1024 ((deltasOf dir log).map DirStats.magnitude)
    have positive := List.length_pos_iff.mpr matches_some
    rw [List.length_map] at length
    have counted : recent.length = min (deltasOf dir log).length 1024 := length
    apply List.length_pos_iff.mp
    omega
  obtain ⟨member, above, reaching⟩ := DirStats.percentile99_spec nonempty
  rw [← reported] at member above reaching
  have largest := tally.magnitude_le (mem_of_mem_window member)
  refine ⟨member, above, reaching, largest, fun few => ?_⟩
  have whole : recent = (deltasOf dir log).map DirStats.magnitude :=
    window_of_length_le (by
      rw [List.length_map]
      omega)
  apply BitVec.eq_of_toNat_eq
  apply le_antisymm largest
  rw [reported]
  apply (tally.largest _).mpr
  intro delta recorded
  have short : recent.length ≤ 100 := by
    rw [whole, List.length_map]
    exact few
  have in_window : DirStats.magnitude delta ∈ recent := by
    rw [whole]
    exact List.mem_map_of_mem recorded
  have reached_by := DirStats.le_percentile99 short in_window
  unfold DirStats.magnitude at reached_by
  rwa [DirStats.unsignedAbs_deltaUs] at reached_by

/-- Three matches in one direction, of which the second is the worst. -/
theorem percentile_of_run_three :
    ∃ meter, (matching .enabled exactRoot Settings.default).run
        [.tx .zero [] 0 1000000000, .rx .one [] 1000005000, .rx .one [] 1000090000,
          .rx .one [] 1000007000] =
        .ok (meter, [(.zero, 5000), (.zero, 90000), (.zero, 7000)]) ∧
      (meter.statsPerDir .zero).p99AbsUs = (meter.statsPerDir .zero).maxAbsUs := by
  obtain ⟨⟨meter, log⟩, ran, same⟩ := exists_of_map_eq_ok (show
    ((matching .enabled exactRoot Settings.default).run
        [.tx .zero [] 0 1000000000, .rx .one [] 1000005000, .rx .one [] 1000090000,
          .rx .one [] 1000007000]).map Prod.snd =
      .ok [(.zero, 5000), (.zero, 90000), (.zero, 7000)] by decide +kernel)
  obtain rfl : log = [(.zero, 5000), (.zero, 90000), (.zero, 7000)] := same
  have percentile := percentile_of_run ran .zero (by decide)
  exact ⟨meter, ran, percentile.2.2.2.2 (by decide)⟩

end Meter

end EspClockSync
