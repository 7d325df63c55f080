import EspClockSync.Meter.Matching

/-!
# What the skew meter records

A pulse only moves the history of its board, an edge only the statistics of one
direction. In every run that ends, the statistics of a direction count the differences
matched in it and hold their largest magnitude in whole microseconds.
-/

namespace EspClockSync

open Machine

namespace Meter

variable {checks : OverflowChecks} {root : U128 → U64} {settings : Settings}

/-- The square root of a variance in whole microseconds. -/
def exactRoot (variance : U128) : U64 := BitVec.ofNat 64 (Nat.sqrt variance.toNat)

/-! ## What the statistics hold -/

/-- The statistics of these recorded differences. -/
structure DirStats.Tally (stats : DirStats) (deltas : List Int) : Prop where
  /-- Their number. -/
  count : stats.n.toNat = deltas.length
  /-- The largest magnitude in whole microseconds. -/
  largest : ∀ bound : Nat, stats.maxAbsUs.toNat ≤ bound ↔
    ∀ delta ∈ deltas, (DirStats.deltaUs delta).natAbs ≤ bound

/-- Nothing recorded. -/
theorem DirStats.tally_default : DirStats.default.Tally [] := ⟨rfl, by simp [DirStats.default]⟩

/-- The magnitude of an `i64` is a `u64`. -/
theorem DirStats.unsignedAbs_deltaUs (delta : Int) :
    (DirStats.unsignedAbs (DirStats.deltaUs delta)).toNat = (DirStats.deltaUs delta).natAbs := by
  have range := wrapI64_fits (delta.tdiv 1000)
  obtain ⟨lower, upper⟩ := range
  unfold DirStats.unsignedAbs DirStats.deltaUs
  rw [BitVec.toNat_ofNat, Nat.mod_eq_of_lt (by omega)]

/-- A division that returns did not divide by zero. -/
theorem DirStats.divI64_ok {dividend divisor quotient : Int}
    (divided : DirStats.divI64 dividend divisor = .ok quotient) : divisor ≠ 0 := by
  intro zero
  unfold DirStats.divI64 at divided
  rw [if_pos zero] at divided
  cases divided

/-- A count that wraps, in its type or in the cast of the mean, is zero there. -/
theorem DirStats.counted_ok {before : U64} {n : Nat}
    (counted : checks.unsigned 64 (before.toNat + 1) = .ok n) (divisor : wrapI64 n ≠ 0) :
    n = before.toNat + 1 ∧ n < 2 ^ 64 := by
  have range := before.isLt
  have counts : n = before.toNat + 1 := by
    unfold OverflowChecks.unsigned at counted
    split at counted
    · exact (Except.ok.inj counted).symm
    · cases checks with
      | enabled => cases counted
      | disabled =>
        have wrapped : (before.toNat + 1) % 2 ^ 64 = n := Except.ok.inj counted
        have zero : n = 0 := by omega
        rw [zero] at divisor
        exact absurd rfl divisor
  refine ⟨counts, ?_⟩
  by_contra large
  have full : n = 2 ^ 64 := by omega
  rw [full] at divisor
  exact absurd (by decide) divisor

/-- One more difference in the statistics of a direction: its count, its sums, its largest
magnitude and its last magnitudes. -/
structure DirStats.Records (checks : OverflowChecks) (stats : DirStats) (deltaNs : Int)
    (after : DirStats) : Prop where
  /-- It is counted. -/
  count : after.n.toNat = stats.n.toNat + 1
  /-- It is added. -/
  sum : checks.i64 (stats.sumUs + DirStats.deltaUs deltaNs) = .ok after.sumUs
  /-- So is its square. -/
  squares : checks.i128 (stats.sumSqUs + DirStats.deltaUs deltaNs * DirStats.deltaUs deltaNs) =
    .ok after.sumSqUs
  /-- The larger magnitude stays. -/
  largest : after.maxAbsUs.toNat = max stats.maxAbsUs.toNat (DirStats.deltaUs deltaNs).natAbs
  /-- Its magnitude joins the last ones. -/
  recent : after.recentAbsUs =
    DirStats.pushRecent stats.recentAbsUs (DirStats.unsignedAbs (DirStats.deltaUs deltaNs))

/-- A record that returns has recorded the difference. -/
theorem DirStats.record_ok {stats after : DirStats} {delta : Int}
    (recorded : stats.record checks root delta = .ok after) :
    stats.Records checks delta after := by
  unfold DirStats.record at recorded
  obtain ⟨n, counted, recorded⟩ := bind_eq_ok recorded
  obtain ⟨sumUs, added, recorded⟩ := bind_eq_ok recorded
  obtain ⟨sumSqUs, squared, recorded⟩ := bind_eq_ok recorded
  obtain ⟨meanUs, divided, recorded⟩ := bind_eq_ok recorded
  obtain ⟨meanSq, _, recorded⟩ := bind_eq_ok recorded
  obtain ⟨var, _, recorded⟩ := bind_eq_ok recorded
  have counts := DirStats.counted_ok counted (DirStats.divI64_ok divided)
  have magnitude := DirStats.unsignedAbs_deltaUs delta
  rw [← Except.ok.inj recorded]
  refine ⟨?_, added, squared, ?_, rfl⟩
  · dsimp only
    rw [BitVec.toNat_ofNat, Nat.mod_eq_of_lt counts.2, counts.1]
  · dsimp only
    split
    · omega
    · omega

/-- A division by a positive value has its truncated quotient. -/
theorem DirStats.divI64_pos (dividend : Int) {divisor : Int} (positive : 0 < divisor) :
    DirStats.divI64 dividend divisor = .ok (dividend.tdiv divisor) := by
  unfold DirStats.divI64
  rw [if_neg (by omega), if_neg (by omega)]

/-- Without overflow checks every difference is recorded, as long as the count has room. -/
theorem DirStats.record_disabled (root : U128 → U64) {stats : DirStats}
    (room : stats.n.toNat + 1 < 2 ^ 63) (deltaNs : Int) :
    ∃ after, stats.record .disabled root deltaNs = .ok after := by
  have counted : wrapI64 ((stats.n.toNat + 1 : Nat) : Int) = (stats.n.toNat + 1 : Nat) :=
    wrapI64_of_fits ⟨by omega, by omega⟩
  obtain ⟨sumUs, added⟩ := OverflowChecks.i64_disabled (stats.sumUs + DirStats.deltaUs deltaNs)
  obtain ⟨sumSqUs, squared⟩ := OverflowChecks.i128_disabled
    (stats.sumSqUs + DirStats.deltaUs deltaNs * DirStats.deltaUs deltaNs)
  obtain ⟨var, subtracted⟩ := OverflowChecks.i128_disabled
    (sumSqUs.tdiv (stats.n.toNat + 1 : Nat) -
      sumUs.tdiv (stats.n.toNat + 1 : Nat) * sumUs.tdiv (stats.n.toNat + 1 : Nat))
  unfold DirStats.record
  dsimp only
  rw [OverflowChecks.unsigned_ok _ (by omega), ok_bind, added, ok_bind, squared, ok_bind, counted,
    DirStats.divI64_pos _ (by omega), ok_bind, divI128_pos _ (by omega), ok_bind, subtracted,
    ok_bind]
  exact ⟨_, rfl⟩

/-- One more recorded difference. -/
theorem DirStats.Tally.record {stats after : DirStats} {deltas : List Int} {delta : Int}
    (held : stats.Tally deltas) (recorded : stats.record checks root delta = .ok after) :
    after.Tally (deltas ++ [delta]) := by
  have records := DirStats.record_ok recorded
  constructor
  · rw [records.count, held.count, List.length_append, List.length_singleton]
  · intro bound
    rw [records.largest, max_le_iff, held.largest bound]
    simp [or_imp, forall_and]

/-- Statistics that recorded differences one after the other hold them. -/
theorem DirStats.tally_of_recorded {deltas : List Int} {stats : DirStats}
    (recorded : deltas.foldlM (DirStats.record checks root) DirStats.default = .ok stats) :
    stats.Tally deltas :=
  foldlM_induction (motive := fun deltas stats => stats.Tally deltas) DirStats.tally_default
    (fun _ _ _ _ _ held stepped => held.record stepped) recorded

/-! ## What a run records -/

/-- The difference an event records, with the board whose pulse it matches. -/
def matched (checks : OverflowChecks) (settings : Settings) (meter : Matching) :
    Event → List (Device × Int)
  | .tx _ _ _ _ => []
  | .rx device _ syncedNs =>
    match nearestTx checks settings syncedNs (meter.txHistory device.other) with
    | .ok (some deltaNs) => [(device.other, deltaNs)]
    | _ => []

/-- The loop with the record of its matches. -/
abbrev matching (checks : OverflowChecks) (root : U128 → U64) (settings : Settings) :
    System (Matching × List (Device × Int)) Event Panic :=
  (metering checks root settings).observed (matched checks settings)

/-- The differences matched in one direction. -/
def deltasOf (dir : Device) (log : List (Device × Int)) : List Int :=
  (log.filter fun entry => entry.1 = dir).map Prod.snd

theorem deltasOf_append (dir : Device) (log more : List (Device × Int)) :
    deltasOf dir (log ++ more) = deltasOf dir log ++ deltasOf dir more := by
  simp [deltasOf]

/-- The outcomes of an event. -/
inductive Received (checks : OverflowChecks) (root : U128 → U64) (settings : Settings)
    (before : Matching) : Event → Matching → Prop where
  /-- A pulse joins the history of its board. -/
  | sent (device : Device) (mac : List Char) (seq : U32) (syncedNs : U128) :
      Received checks root settings before (.tx device mac seq syncedNs)
        { before with
          txHistory := Function.update before.txHistory device
            (pushTx settings (before.txHistory device) syncedNs) }
  /-- An edge without a pulse in the window changes nothing. -/
  | unmatched (device : Device) (mac : List Char) (syncedNs : U128)
      (searched : nearestTx checks settings syncedNs (before.txHistory device.other) = .ok none) :
      Received checks root settings before (.rx device mac syncedNs) before
  /-- A matched edge is recorded in its direction. -/
  | matched (device : Device) (mac : List Char) (syncedNs : U128) (deltaNs : Int) (stats : DirStats)
      (searched : nearestTx checks settings syncedNs (before.txHistory device.other) =
        .ok (some deltaNs))
      (recorded : (before.statsPerDir device.other).record checks root deltaNs = .ok stats) :
      Received checks root settings before (.rx device mac syncedNs)
        { before with statsPerDir := Function.update before.statsPerDir device.other stats }

/-- **Inversion.** An event that returns has one of the listed outcomes. -/
theorem received_of_receive {before after : Matching} {event : Event}
    (returned : receive checks root settings before event = .ok after) :
    Received checks root settings before event after := by
  cases event with
  | tx device mac seq syncedNs =>
    rw [← Except.ok.inj returned]
    exact .sent device mac seq syncedNs
  | rx device mac syncedNs =>
    unfold receive at returned
    obtain ⟨found, searched, returned⟩ := bind_eq_ok returned
    cases found with
    | none =>
      rw [← Except.ok.inj returned]
      exact .unmatched device mac syncedNs searched
    | some deltaNs =>
      obtain ⟨stats, recorded, returned⟩ := bind_eq_ok returned
      rw [← Except.ok.inj returned]
      exact .matched device mac syncedNs deltaNs stats searched recorded

/-- An event records at most one difference in a direction, and the statistics of the
direction take it. -/
theorem Received.recorded {before after : Matching} {event : Event}
    (received : Received checks root settings before event after) (dir : Device) :
    (deltasOf dir (Meter.matched checks settings before event) = [] ∧
        after.statsPerDir dir = before.statsPerDir dir) ∨
      ∃ deltaNs, deltasOf dir (Meter.matched checks settings before event) = [deltaNs] ∧
        (before.statsPerDir dir).record checks root deltaNs = .ok (after.statsPerDir dir) := by
  cases received with
  | sent device mac seq syncedNs => exact .inl ⟨rfl, rfl⟩
  | unmatched device mac syncedNs searched =>
    left
    simp [Meter.matched, searched, deltasOf]
  | matched device mac syncedNs deltaNs stats searched recorded =>
    by_cases same : device.other = dir
    · right
      subst same
      exact ⟨deltaNs, by simp [Meter.matched, searched, deltasOf], by simpa using recorded⟩
    · left
      have other : dir ≠ device.other := fun equal => same equal.symm
      exact ⟨by simp [Meter.matched, searched, deltasOf, same],
        by simp [Function.update_of_ne other]⟩

/-- **Run.** The statistics of each direction are what recording the differences matched in it
one after the other makes. -/
theorem recorded_of_run {events : List Event} {state : Matching × List (Device × Int)}
    (reached : (matching checks root settings).run events = .ok state) (dir : Device) :
    (deltasOf dir state.2).foldlM (DirStats.record checks root) DirStats.default =
      .ok (state.1.statsPerDir dir) := by
  refine System.run_induction (motive := fun _ state =>
    (deltasOf dir state.2).foldlM (DirStats.record checks root) DirStats.default =
      .ok (state.1.statsPerDir dir)) rfl (fun events before event after _ held stepped => ?_) reached
  obtain ⟨moved, logged⟩ := System.observed_step_ok stepped
  rw [logged, deltasOf_append]
  rcases (received_of_receive moved).recorded dir with ⟨none_new, same⟩ | ⟨deltaNs, one, recorded⟩
  · rw [none_new, List.append_nil, same]
    exact held
  · rw [one, foldlM_concat, held]
    exact recorded

/-- **Run.** They hold those differences. -/
theorem tally_of_run {events : List Event} {state : Matching × List (Device × Int)}
    (reached : (matching checks root settings).run events = .ok state) (dir : Device) :
    (state.1.statsPerDir dir).Tally (deltasOf dir state.2) :=
  DirStats.tally_of_recorded (recorded_of_run reached dir)

end Meter

end EspClockSync
