import EspClockSync.Verif.MeterHistory

/-!
# The verdict of the skew meter

The exit status compares the largest magnitudes in whole microseconds, of differences
between times cast to an `i128`. So it cannot tell a run without matches from a good one,
nor see a limit exceeded by less than a microsecond, nor tell times at the two ends of a
`u128` from neighbours.
-/

namespace EspClockSync

open Machine

namespace Meter

variable {checks : OverflowChecks} {root : U128 → U64} {settings : Settings}

/-- The differences of all directions are those of the record. -/
theorem forall_deltasOf {log : List (Device × Int)} {holds : Int → Prop} :
    (∀ dir, ∀ delta ∈ deltasOf dir log, holds delta) ↔ ∀ entry ∈ log, holds entry.2 := by
  simp only [deltasOf, List.mem_map, List.mem_filter, decide_eq_true_eq]
  constructor
  · intro each entry member
    exact each entry.1 entry.2 ⟨entry, ⟨member, rfl⟩, rfl⟩
  · rintro each dir delta ⟨entry, ⟨member, _⟩, rfl⟩
    exact each entry member

/-- A direction is within the limit when its differences are, in whole microseconds; one
without differences is. -/
theorem DirStats.Tally.within_iff {stats : DirStats} {deltas : List Int} (tally : stats.Tally deltas)
    (limit : Nat) :
    (stats.n != 0 && decide (limit < stats.maxAbsUs.toNat)) = false ↔
      ∀ delta ∈ deltas, (DirStats.deltaUs delta).natAbs ≤ limit := by
  rw [← tally.largest limit]
  by_cases empty : stats.n = 0
  · have none_counted := tally.count
    rw [empty] at none_counted
    have nothing : deltas = [] := List.eq_nil_of_length_eq_zero none_counted.symm
    have zero := (tally.largest limit).mpr (by simp [nothing])
    simp [empty, zero]
  · have counting : stats.n ≠ 0#64 := empty
    simp [counting]

/-- The program succeeds when no matched difference exceeds the limit in whole microseconds. -/
theorem exitStatus_eq_success_iff {events : List Event} {meter : Matching}
    {log : List (Device × Int)}
    (reached : (matching checks root settings).run events = .ok (meter, log)) :
    exitStatus settings meter = .success ↔
      ∀ entry ∈ log, (DirStats.deltaUs entry.2).natAbs ≤ settings.limitUs.toNat := by
  have verdict : exitStatus settings meter = .success ↔ (Device.all.any fun dir =>
      (meter.statsPerDir dir).n != 0 &&
        decide (settings.limitUs.toNat < (meter.statsPerDir dir).maxAbsUs.toNat)) = false := by
    unfold exitStatus
    generalize Device.all.any _ = overshoot
    cases overshoot with
    | false => exact iff_of_true rfl rfl
    | true => exact iff_of_false ExitStatus.noConfusion Bool.noConfusion
  have split := @forall_deltasOf log fun delta =>
    (DirStats.deltaUs delta).natAbs ≤ settings.limitUs.toNat
  rw [verdict, ← split, List.any_eq_false]
  simp only [Device.mem_all, true_implies, Bool.not_eq_true]
  exact forall_congr' fun dir => (tally_of_run reached dir).within_iff _

/-! ## Matched pairs -/

/-- An edge and the pulse it was matched with. -/
structure Pair where
  /-- The board of the pulse. -/
  dir : Device
  /-- The time of the edge. -/
  rxSync : U128
  /-- The time of the pulse. -/
  txSync : U128
  deriving DecidableEq

namespace Pair

/-- How far apart the two times are. -/
def distanceNs (pair : Pair) : Nat := ((pair.rxSync.toNat : Int) - pair.txSync.toNat).natAbs

/-- Their difference as an `i128`. -/
def deltaNs (pair : Pair) : Int := wrapI128 ((pair.rxSync.toNat : Int) - pair.txSync.toNat)

/-- What `record` makes of it: its magnitude in whole microseconds, after the cast to an `i64`. -/
def seenUs (pair : Pair) : Nat := (DirStats.deltaUs pair.deltaNs).natAbs

/-- The direction and the difference of a pair. -/
def entry (pair : Pair) : Device × Int := (pair.dir, pair.deltaNs)

/-- A pair of these events in the window: an edge and a pulse of the other board. -/
structure Matched (settings : Settings) (events : List Event) (pair : Pair) : Prop where
  /-- The edge has arrived. -/
  edge : ∃ mac, .rx pair.dir.other mac pair.rxSync ∈ events
  /-- So has the pulse. -/
  pulse : pair.txSync ∈ pulsesOf pair.dir events
  /-- The difference is in the window. -/
  window : pair.deltaNs.natAbs ≤ settings.matchWindowNs

end Pair

/-- The pair that an event matches: an edge, and the first pulse kept at the difference found. -/
def pairs (checks : OverflowChecks) (settings : Settings) (meter : Matching) :
    Event → List Pair
  | .tx _ _ _ _ => []
  | .rx device _ rxSync =>
    match nearestTx checks settings rxSync (meter.txHistory device.other) with
    | .ok (some deltaNs) =>
      ((meter.txHistory device.other).find? fun txSync =>
        decide (checks.i128 (rxSync.toInt - txSync.toInt) = .ok deltaNs)).toList.map
          fun txSync => ⟨device.other, rxSync, txSync⟩
    | _ => []

/-- The loop with the pairs it matches. -/
abbrev pairing (checks : OverflowChecks) (root : U128 → U64) (settings : Settings) :
    System (Matching × List Pair) Event Panic :=
  (metering checks root settings).observed (pairs checks settings)

/-- What a search finds beyond its start is the difference to a pulse, in the window. -/
theorem search_found {rxSync : U128} {history : List U128} {best : Option Int} {deltaNs : Int}
    (returned : search checks settings rxSync best history = .ok (some deltaNs)) :
    best = some deltaNs ∨ deltaNs.natAbs ≤ settings.matchWindowNs ∧
      ∃ txSync ∈ history, checks.i128 (rxSync.toInt - txSync.toInt) = .ok deltaNs := by
  induction history generalizing best with
  | nil => exact .inl (Except.ok.inj returned)
  | cons txSync rest ih =>
    rw [search] at returned
    obtain ⟨d, difference, returned⟩ := bind_eq_ok returned
    rcases ih returned with same | ⟨near, other, member, found⟩
    · split at same
      · rename_i closer
        obtain rfl := Option.some.inj same
        exact .inr ⟨closer.1, txSync, List.mem_cons_self, difference⟩
      · exact .inl same
    · exact .inr ⟨near, other, List.mem_cons_of_mem _ member, found⟩

/-- The difference between two casts is the one of the times, reduced. -/
theorem eq_deltaNs {dir : Device} {rxSync txSync : U128} {deltaNs : Int}
    (difference : checks.i128 (rxSync.toInt - txSync.toInt) = .ok deltaNs) :
    deltaNs = Pair.deltaNs ⟨dir, rxSync, txSync⟩ := by
  rw [OverflowChecks.eq_wrapI128_of_i128_ok difference, BitVec.toInt_eq_toNat_bmod,
    BitVec.toInt_eq_toNat_bmod]
  unfold Pair.deltaNs wrapI128
  rw [Int.bmod_sub_bmod, Int.sub_bmod_bmod]

/-- An edge matches the pulse that its difference was found at. -/
theorem pairs_of_nearestTx {meter : Matching} {device : Device} {rxSync : U128} {deltaNs : Int}
    (mac : List Char)
    (found : nearestTx checks settings rxSync (meter.txHistory device.other) = .ok (some deltaNs)) :
    ∃ txSync ∈ meter.txHistory device.other, deltaNs.natAbs ≤ settings.matchWindowNs ∧
      Pair.deltaNs ⟨device.other, rxSync, txSync⟩ = deltaNs ∧
      pairs checks settings meter (.rx device mac rxSync) = [⟨device.other, rxSync, txSync⟩] := by
  have searched := found
  rw [nearestTx_eq] at searched
  obtain ⟨near, some_tx⟩ := (search_found searched).resolve_left (by simp)
  obtain ⟨txSync, first⟩ := Option.isSome_iff_exists.mp (List.find?_isSome.mpr
    (some_tx.imp fun txSync held => ⟨held.1, decide_eq_true held.2⟩))
  have difference : checks.i128 (rxSync.toInt - txSync.toInt) = .ok deltaNs := by
    simpa using List.find?_some first
  refine ⟨txSync, List.mem_of_find?_eq_some first, near, (eq_deltaNs difference).symm, ?_⟩
  unfold pairs
  dsimp only
  rw [found]
  dsimp only
  rw [first]
  rfl

/-- The differences matched are those of the pairs. -/
theorem matched_eq (checks : OverflowChecks) (settings : Settings) (meter : Matching)
    (event : Event) :
    matched checks settings meter event = (pairs checks settings meter event).map Pair.entry := by
  cases event with
  | tx device mac seq syncedNs => rfl
  | rx device mac rxSync =>
    cases searched : nearestTx checks settings rxSync (meter.txHistory device.other) with
    | error stop => simp [matched, pairs, searched]
    | ok found =>
      cases found with
      | none => simp [matched, pairs, searched]
      | some deltaNs =>
        obtain ⟨txSync, _, _, same, one⟩ := pairs_of_nearestTx mac searched
        rw [one]
        simp [matched, searched, Pair.entry, same]

/-- **Run.** Every pair is an edge and a pulse that have arrived, in the window. -/
theorem matched_of_run {events : List Event} {state : Matching × List Pair}
    (reached : (pairing checks root settings).run events = .ok state) :
    ∀ pair ∈ state.2, pair.Matched settings events := by
  refine System.run_induction
    (motive := fun events state => ∀ pair ∈ state.2, pair.Matched settings events)
    (fun _ member => absurd member List.not_mem_nil)
    (fun events before event after ran held stepped pair member => ?_) reached
  rw [(System.observed_step_ok stepped).2] at member
  rcases List.mem_append.mp member with earlier | now
  · obtain ⟨⟨mac, edge⟩, pulse, window⟩ := held pair earlier
    refine ⟨⟨mac, List.mem_append_left _ edge⟩, ?_, window⟩
    rw [pulsesOf_append]
    exact List.mem_append_left _ pulse
  · cases event with
    | tx device mac seq syncedNs => exact absurd now List.not_mem_nil
    | rx device mac rxSync =>
      cases searched : nearestTx checks settings rxSync (before.1.txHistory device.other) with
      | error stop => simp [pairs, searched] at now
      | ok found =>
        cases found with
        | none => simp [pairs, searched] at now
        | some deltaNs =>
          obtain ⟨txSync, kept, near, same, one⟩ := pairs_of_nearestTx mac searched
          rw [one] at now
          obtain rfl := List.mem_singleton.mp now
          have sent := (kept_of_run (System.run_of_observed ran)).mem_of_mem kept
          refine ⟨⟨mac, by simp⟩, ?_, same ▸ near⟩
          rw [pulsesOf_append]
          exact List.mem_append_left _ sent

/-- Between times below the sign bit of an `i128`, in a window that fits an `i64` of
microseconds, `record` sees the distance in whole microseconds. -/
theorem Pair.Matched.seenUs {events : List Event} {pair : Pair}
    (held : pair.Matched settings events)
    (ranges : ∀ event ∈ events, event.syncedNs.toNat < 2 ^ 127)
    (narrow : settings.matchWindowNs < 1000 * 2 ^ 63) : pair.seenUs = pair.distanceNs / 1000 := by
  obtain ⟨mac, edge⟩ := held.edge
  obtain ⟨_, seq, pulse⟩ := mem_pulsesOf.mp held.pulse
  have rxRange : pair.rxSync.toNat < 2 ^ 127 := ranges _ edge
  have txRange : pair.txSync.toNat < 2 ^ 127 := ranges _ pulse
  have same : pair.deltaNs = pair.rxSync.toNat - pair.txSync.toNat :=
    wrapI128_of_fits ⟨by omega, by omega⟩
  have window := held.window
  have magnitude : (pair.deltaNs.tdiv 1000).natAbs = pair.deltaNs.natAbs / 1000 :=
    Int.natAbs_tdiv pair.deltaNs 1000
  have small : pair.deltaNs.natAbs / 1000 < 2 ^ 63 := by omega
  have fits : I64Fits (pair.deltaNs.tdiv 1000) := by
    constructor
    · omega
    · omega
  unfold Pair.seenUs DirStats.deltaUs Pair.distanceNs
  rw [wrapI64_of_fits fits, magnitude, ← same]

/-! ## The verdict -/

/-- What a successful exit is to say: some edge was matched, and no matched pair is further
apart than the limit. -/
def Sound (settings : Settings) (meter : Matching) (log : List Pair) : Prop :=
  exitStatus settings meter = .success →
    log ≠ [] ∧ ∀ pair ∈ log, pair.distanceNs ≤ settings.limitUs.toNat * 1000

/-- **The verdict and what it misses.** Of every run that ends, a successful exit is sound
exactly when an edge was matched and, if any matched pair is further apart than the limit,
one is seen to be. What is seen of a pair is its distance in whole microseconds, when the times
are below the sign bit of an `i128` and the window fits. -/
theorem verdict_sound_iff {events : List Event} {meter : Matching} {log : List Pair}
    (reached : (pairing checks root settings).run events = .ok (meter, log)) :
    (Sound settings meter log ↔
      log ≠ [] ∧ ((∃ pair ∈ log, settings.limitUs.toNat * 1000 < pair.distanceNs) →
        ∃ pair ∈ log, settings.limitUs.toNat < pair.seenUs)) ∧
    (∀ pair ∈ log, pair.Matched settings events) ∧
    ((∀ event ∈ events, event.syncedNs.toNat < 2 ^ 127) →
      settings.matchWindowNs < 1000 * 2 ^ 63 →
        ∀ pair ∈ log, pair.seenUs = pair.distanceNs / 1000) := by
  have each := matched_of_run reached
  have differences := System.run_observed_map Pair.entry (matched_eq checks settings) reached
  refine ⟨?_, each, fun ranges narrow pair member => (each pair member).seenUs ranges narrow⟩
  unfold Sound
  rw [exitStatus_eq_success_iff differences, List.forall_mem_map]
  have exceeds : (∃ pair ∈ log, settings.limitUs.toNat * 1000 < pair.distanceNs) ↔
      ¬ ∀ pair ∈ log, pair.distanceNs ≤ settings.limitUs.toNat * 1000 := by
    push Not
    rfl
  have seen : (∃ pair ∈ log, settings.limitUs.toNat < pair.seenUs) ↔
      ¬ ∀ pair ∈ log, (DirStats.deltaUs pair.entry.2).natAbs ≤ settings.limitUs.toNat := by
    push Not
    rfl
  rw [exceeds, seen, not_imp_not]
  by_cases empty : log = []
  · subst empty
    simp
  · simp [empty]

/-- A pulse at one second and an edge 100.999 µs later. -/
def lateEdge : List Event := [.tx .zero [] 0 1000000000, .rx .one [] 1000100999]

/-- A pulse at one second and an edge 101 µs later. -/
def laterEdge : List Event := [.tx .zero [] 0 1000000000, .rx .one [] 1000101000]

/-- A pulse at the first and an edge at the last time of a `u128`. -/
def lastEdge : List Event :=
  [.tx .zero [] 0 0, .rx .one [] 340282366920938463463374607431768211455]

/-- The later edge is seen to exceed the limit. -/
theorem verdict_sound_later_edge :
    ∃ meter, (pairing .enabled exactRoot Settings.default).run laterEdge =
        .ok (meter, [⟨.zero, 1000101000, 1000000000⟩]) ∧
      Sound Settings.default meter [⟨.zero, 1000101000, 1000000000⟩] := by
  obtain ⟨⟨meter, log⟩, ran, same⟩ := exists_of_map_eq_ok (show
    ((pairing .enabled exactRoot Settings.default).run laterEdge).map Prod.snd =
      .ok [⟨.zero, 1000101000, 1000000000⟩] by decide +kernel)
  obtain rfl : log = [⟨.zero, 1000101000, 1000000000⟩] := same
  refine ⟨meter, ran, (verdict_sound_iff ran).1.mpr ⟨by decide, fun _ => ?_⟩⟩
  exact ⟨_, List.mem_singleton_self _, by decide⟩

/-- A run of two events that succeeds though its pair is too far apart is not sound. -/
theorem unsound_of_far {events : List Event} {pair : Pair}
    (passed : ((pairing .enabled exactRoot Settings.default).run events).map
      (fun state => (state.2, exitStatus Settings.default state.1)) = .ok ([pair], .success))
    (far : Settings.default.limitUs.toNat * 1000 < pair.distanceNs) :
    ∃ meter, (pairing .enabled exactRoot Settings.default).run events = .ok (meter, [pair]) ∧
      exitStatus Settings.default meter = .success ∧ ¬ Sound Settings.default meter [pair] := by
  obtain ⟨⟨meter, log⟩, ran, same⟩ := exists_of_map_eq_ok passed
  obtain ⟨logged, succeeded⟩ := Prod.mk.inj same
  obtain rfl : log = [pair] := logged
  refine ⟨meter, ran, succeeded, fun sound => ?_⟩
  exact Nat.not_le.mpr far ((sound succeeded).2 pair (List.mem_singleton_self _))

/-- The program succeeds on an edge 100.999 µs late, on one at the other end of the times, and
without any event. -/
theorem verdict_unsound_below_microsecond :
    (∃ meter, (pairing .enabled exactRoot Settings.default).run lateEdge =
        .ok (meter, [⟨.zero, 1000100999, 1000000000⟩]) ∧
      exitStatus Settings.default meter = .success ∧
      ¬ Sound Settings.default meter [⟨.zero, 1000100999, 1000000000⟩]) ∧
    (∃ meter, (pairing .enabled exactRoot Settings.default).run lastEdge =
        .ok (meter, [⟨.zero, 340282366920938463463374607431768211455, 0⟩]) ∧
      exitStatus Settings.default meter = .success ∧
      ¬ Sound Settings.default meter [⟨.zero, 340282366920938463463374607431768211455, 0⟩]) ∧
    ∃ meter, (pairing .enabled exactRoot Settings.default).run [] = .ok (meter, []) ∧
      exitStatus Settings.default meter = .success ∧ ¬ Sound Settings.default meter [] := by
  have passed : exitStatus Settings.default Matching.initial = .success := by decide
  refine ⟨unsound_of_far (by decide +kernel) (by decide),
    unsound_of_far (by decide +kernel) (by decide), Matching.initial, rfl, passed,
    fun sound => (sound passed).1 rfl⟩

end Meter

end EspClockSync
