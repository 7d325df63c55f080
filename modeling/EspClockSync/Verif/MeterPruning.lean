import EspClockSync.Verif.MeterHistory

/-!
# Pruning of the pulse history

The loop drops pulses that fell four windows behind. As long as no edge is more than three
windows behind the latest pulse of the other board, a dropped pulse is outside the window of
every later edge: the loop records what a loop over complete histories records, and that is
the difference to the first of the nearest pulses.
-/

namespace EspClockSync

open Machine

namespace Meter

variable {checks : OverflowChecks} {root : U128 → U64} {settings : Settings}

/-! ## What a search finds -/

/-- The distance of an edge from a pulse. -/
def distance (rxSync txSync : U128) : Nat := ((rxSync.toNat : Int) - txSync.toNat).natAbs

/-- The result of a search for the pulse of least distance in the window: the difference to
the first such pulse. -/
def FirstNearest (settings : Settings) (rxSync : U128) (sent : List U128) : Option Int → Prop
  | none => ∀ txSync ∈ sent, settings.matchWindowNs < distance rxSync txSync
  | some d => ∃ before txSync after, sent = before ++ txSync :: after ∧
      d = rxSync.toNat - txSync.toNat ∧ d.natAbs ≤ settings.matchWindowNs ∧
      (∀ earlier ∈ before, d.natAbs < distance rxSync earlier) ∧
      ∀ later ∈ after, d.natAbs ≤ distance rxSync later

/-- One more pulse replaces what was found only when it is closer. -/
theorem FirstNearest.concat {rxSync : U128} {sent : List U128} {best : Option Int}
    (nearest : FirstNearest settings rxSync sent best) (txSync : U128) :
    FirstNearest settings rxSync (sent ++ [txSync])
      (if ((rxSync.toNat : Int) - txSync.toNat).natAbs ≤ settings.matchWindowNs ∧
          ∀ b ∈ best, ((rxSync.toNat : Int) - txSync.toNat).natAbs < b.natAbs
        then some (rxSync.toNat - txSync.toNat) else best) := by
  split
  · rename_i closer
    refine ⟨sent, txSync, [], rfl, rfl, closer.1, ?_, fun _ member =>
      absurd member List.not_mem_nil⟩
    intro earlier member
    cases best with
    | none =>
      have far := nearest earlier member
      exact Nat.lt_of_le_of_lt closer.1 far
    | some b =>
      have less := closer.2 b rfl
      obtain ⟨before, found, after, rfl, same, _, first, last⟩ := nearest
      rcases List.mem_append.mp member with inFront | behind
      · exact Nat.lt_trans less (first earlier inFront)
      · rcases List.mem_cons.mp behind with rfl | behind
        · rw [same] at less
          exact less
        · exact Nat.lt_of_lt_of_le less (last earlier behind)
  · rename_i farther
    cases best with
    | none =>
      intro earlier member
      rcases List.mem_append.mp member with held | new
      · exact nearest earlier held
      · rw [List.mem_singleton.mp new]
        exact Nat.lt_of_not_le fun near => farther ⟨near, fun _ found => by cases found⟩
    | some b =>
      obtain ⟨before, found, after, rfl, same, near, first, last⟩ := nearest
      refine ⟨before, found, after ++ [txSync], by simp, same, near, first, fun later member => ?_⟩
      rcases List.mem_append.mp member with held | new
      · exact last later held
      · rw [List.mem_singleton.mp new]
        by_contra less
        have closer : distance rxSync txSync < b.natAbs := Nat.lt_of_not_le less
        refine farther ⟨Nat.le_trans (Nat.le_of_lt closer) near, fun other found => ?_⟩
        rw [← Option.some.inj found]
        exact closer

/-- A search over times that survive the casts returns, and finds the first nearest pulse. -/
theorem search_firstNearest (settings : Settings) {rxSync : U128} {sent : List U128}
    (rxRange : rxSync.toNat < 2 ^ 127)
    (ranges : ∀ txSync ∈ sent, txSync.toNat < 2 ^ 127) :
    ∃ found, (∀ checks, search checks settings rxSync none sent = .ok found) ∧
      FirstNearest settings rxSync sent found := by
  induction sent using List.reverseRecOn with
  | nil => exact ⟨none, fun _ => rfl, fun _ member => absurd member List.not_mem_nil⟩
  | append_singleton sent txSync ih =>
    obtain ⟨best, searched, nearest⟩ := ih fun earlier member =>
      ranges earlier (List.mem_append_left _ member)
    have txRange := ranges txSync (by simp)
    have difference : rxSync.toInt - txSync.toInt = rxSync.toNat - txSync.toNat := by
      rw [toInt_of_lt rxSync (by omega), toInt_of_lt txSync (by omega)]
    have fits : I128Fits ((rxSync.toNat : Int) - txSync.toNat) := ⟨by omega, by omega⟩
    refine ⟨_, fun checks => ?_, nearest.concat txSync⟩
    rw [search_append, searched checks, ok_bind, search, difference, checks.i128_ok fits, ok_bind]
    rfl

/-! ## The loop over complete histories -/

/-- One event in a loop that keeps every pulse. -/
def receiveUnpruned (checks : OverflowChecks) (root : U128 → U64) (settings : Settings)
    (meter : Matching) : Event → Checked Matching
  | .tx device _ _ syncedNs =>
    .ok { meter with
      txHistory := Function.update meter.txHistory device (meter.txHistory device ++ [syncedNs]) }
  | .rx device mac syncedNs => receive checks root settings meter (.rx device mac syncedNs)

/-- The loop that keeps every pulse. -/
def unprunedMetering (checks : OverflowChecks) (root : U128 → U64) (settings : Settings) :
    System Matching Event Panic where
  start := Matching.initial
  step := receiveUnpruned checks root settings

/-- Every edge comes at most three windows behind every pulse of the other board so far. -/
def EdgesInTime (settings : Settings) (events : List Event) : Prop :=
  ∀ earlier device mac rxSync, earlier ++ [.rx device mac rxSync] <+: events →
    ∀ txSync ∈ pulsesOf device.other earlier,
      txSync.toNat ≤ rxSync.toNat + settings.matchWindowNs * 3

/-- **Search.** An edge in time finds the same among the kept pulses as among all of them. -/
theorem Kept.nearestTx_eq {events : List Event} {device : Device} {rxSync : U128} {meter : Matching}
    (kept : Kept settings events meter) (rxRange : rxSync.toNat < 2 ^ 127)
    (inTime : ∀ txSync ∈ pulsesOf device.other events,
      txSync.toNat ≤ rxSync.toNat + settings.matchWindowNs * 3) :
    nearestTx checks settings rxSync (meter.txHistory device.other) =
      nearestTx checks settings rxSync (pulsesOf device.other events) := by
  obtain ⟨dropped, whole, older⟩ := kept device.other
  have first : ∀ old ∈ dropped, Outside checks settings rxSync old := by
    intro old member
    obtain ⟨recent, sent, far⟩ := older old member
    exact outside_of_dropped rxRange far (inTime recent sent)
  have none_after : ∀ txSync ∈ [], Outside checks settings rxSync txSync :=
    fun _ member => absurd member List.not_mem_nil
  have around : nearestTx checks settings rxSync (dropped ++ meter.txHistory device.other ++ []) =
      nearestTx checks settings rxSync (meter.txHistory device.other) :=
    nearestTx_between first none_after
  rw [List.append_nil] at around
  rw [whole]
  exact around.symm

/-- What an edge does to the statistics depends on the histories only through the search. -/
theorem receive_rx_statsPerDir (checks : OverflowChecks) (root : U128 → U64) (settings : Settings)
    (meter : Matching) (device : Device) (mac : List Char) (rxSync : U128) :
    (receive checks root settings meter (.rx device mac rxSync)).map Matching.statsPerDir =
      nearestTx checks settings rxSync (meter.txHistory device.other) >>= fun
        | none => .ok meter.statsPerDir
        | some deltaNs =>
          ((meter.statsPerDir device.other).record checks root deltaNs).map
            (Function.update meter.statsPerDir device.other) := by
  unfold receive
  dsimp only
  cases nearestTx checks settings rxSync (meter.txHistory device.other) with
  | error stop => rfl
  | ok found =>
    cases found with
    | none => rfl
    | some deltaNs =>
      rw [ok_bind, ok_bind]
      dsimp only [directionIdx]
      cases (meter.statsPerDir device.other).record checks root deltaNs with
      | error stop => rfl
      | ok stats => rfl

/-- A condition on edges holds of a shorter run. -/
theorem EdgesInTime.of_append {events more : List Event}
    (inTime : EdgesInTime settings (events ++ more)) : EdgesInTime settings events :=
  fun earlier device mac rxSync part =>
    inTime earlier device mac rxSync (part.trans (List.prefix_append _ _))

/-- A loop that keeps every pulse has kept every pulse. -/
theorem txHistory_of_unpruned {events : List Event} {meter : Matching}
    (reached : (unprunedMetering checks root settings).run events = .ok meter) (device : Device) :
    meter.txHistory device = pulsesOf device events := by
  refine System.run_induction
    (motive := fun events meter => meter.txHistory device = pulsesOf device events) rfl
    (fun events before event after _ held stepped => ?_) reached
  cases event with
  | tx sender mac seq syncedNs =>
    rw [← Except.ok.inj stepped, pulsesOf_concat_tx, ← held]
    by_cases same : sender = device
    · subst same
      simp
    · have other : device ≠ sender := fun equal => same equal.symm
      simp [same, Function.update_of_ne other]
  | rx receiver mac rxSync =>
    rw [pulsesOf_concat_rx, ← held]
    have received : Received checks root settings before (.rx receiver mac rxSync) after :=
      received_of_receive stepped
    cases received with
    | unmatched => rfl
    | matched => rfl

/-- **Step.** An edge in time has the same effect on the statistics in both loops. -/
theorem receive_eq_unpruned {events : List Event} {pruned whole : Matching} {device : Device}
    {rxSync : U128} (mac : List Char) (kept : Kept settings events pruned)
    (all : ∀ device, whole.txHistory device = pulsesOf device events)
    (same : pruned.statsPerDir = whole.statsPerDir) (rxRange : rxSync.toNat < 2 ^ 127)
    (inTime : ∀ txSync ∈ pulsesOf device.other events,
      txSync.toNat ≤ rxSync.toNat + settings.matchWindowNs * 3) :
    (receive checks root settings pruned (.rx device mac rxSync)).map Matching.statsPerDir =
      (receive checks root settings whole (.rx device mac rxSync)).map Matching.statsPerDir := by
  rw [receive_rx_statsPerDir, receive_rx_statsPerDir, kept.nearestTx_eq rxRange inTime,
    ← all device.other, same]

/-- **Run.** With every edge in time both loops record the same statistics, or stop alike. -/
theorem run_eq_unpruned (checks : OverflowChecks) (root : U128 → U64) {events : List Event}
    (ranges : ∀ event ∈ events, event.syncedNs.toNat < 2 ^ 127)
    (inTime : EdgesInTime settings events) :
    ((metering checks root settings).run events).map Matching.statsPerDir =
      ((unprunedMetering checks root settings).run events).map Matching.statsPerDir := by
  induction events using List.reverseRecOn with
  | nil => rfl
  | append_singleton events event ih =>
    have earlier := ih (fun event member => ranges event (List.mem_append_left _ member))
      inTime.of_append
    rw [System.run_concat, System.run_concat]
    cases ran : (metering checks root settings).run events with
    | error stop =>
      rw [ran] at earlier
      rw [eq_error_of_map_eq_error earlier.symm]
      rfl
    | ok pruned =>
      rw [ran] at earlier
      obtain ⟨whole, ranWhole, same⟩ := exists_of_map_eq_ok earlier.symm
      rw [ranWhole, ok_bind, ok_bind]
      cases event with
      | tx device mac seq syncedNs =>
        change Except.ok pruned.statsPerDir = Except.ok whole.statsPerDir
        rw [same]
      | rx device mac rxSync =>
        exact receive_eq_unpruned mac (kept_of_run ran) (txHistory_of_unpruned ranWhole) same.symm
          (ranges (.rx device mac rxSync) (by simp))
          (inTime events device mac rxSync (List.prefix_refl _))

/-- What an edge records is what it finds: nothing, or one difference in the direction from
the other board. Without overflow checks it always does, as long as the count has room. -/
def EdgeRecords (checks : OverflowChecks) (root : U128 → U64) (settings : Settings)
    (meter : Matching) (device : Device) (mac : List Char) (rxSync : U128) : Option Int → Prop
  | none => receive checks root settings meter (.rx device mac rxSync) = .ok meter
  | some deltaNs =>
    (∀ after, receive checks root settings meter (.rx device mac rxSync) = .ok after →
      after.txHistory = meter.txHistory ∧ after.statsPerDir device = meter.statsPerDir device ∧
        (meter.statsPerDir device.other).Records checks deltaNs (after.statsPerDir device.other)) ∧
    (checks = .disabled → (meter.statsPerDir device.other).n.toNat + 1 < 2 ^ 63 →
      ∃ after, receive checks root settings meter (.rx device mac rxSync) = .ok after)

/-- An edge records what its search has found. -/
theorem edgeRecords_of_nearestTx {meter : Matching} {device : Device} {rxSync : U128}
    {found : Option Int} (mac : List Char)
    (searched : nearestTx checks settings rxSync (meter.txHistory device.other) = .ok found) :
    EdgeRecords checks root settings meter device mac rxSync found := by
  cases found with
  | none =>
    unfold EdgeRecords receive
    dsimp only
    rw [searched, ok_bind]
  | some deltaNs =>
    constructor
    · intro after returned
      cases received_of_receive returned with
      | unmatched _ _ _ nothing =>
        exact absurd (Except.ok.inj (searched.symm.trans nothing)) (Option.some_ne_none _)
      | matched _ _ _ other stats same recorded =>
        obtain rfl := Option.some.inj (Except.ok.inj (searched.symm.trans same))
        refine ⟨rfl, Function.update_of_ne device.other_ne.symm _ _, ?_⟩
        dsimp only
        rw [Function.update_self]
        exact DirStats.record_ok recorded
    · rintro rfl room
      obtain ⟨stats, recorded⟩ := DirStats.record_disabled root room deltaNs
      unfold receive
      dsimp only
      rw [searched, ok_bind]
      dsimp only [directionIdx]
      rw [recorded]
      exact ⟨_, rfl⟩

/-- **Pruning never changes a match.** When the times survive the casts and every edge comes
at most three windows behind the latest pulse of the other board so far, the loop has the
statistics of a loop over complete histories after every run; and every edge that is reached
finds among the kept pulses what it would find among all, the difference to the first of the
nearest pulses in its window, and records that and nothing else. -/
theorem pruning_keeps_matches (checks : OverflowChecks) (root : U128 → U64) {events : List Event}
    (ranges : ∀ event ∈ events, event.syncedNs.toNat < 2 ^ 127)
    (inTime : EdgesInTime settings events) :
    ((metering checks root settings).run events).map Matching.statsPerDir =
        ((unprunedMetering checks root settings).run events).map Matching.statsPerDir ∧
      ∀ earlier device mac rxSync meter, earlier ++ [.rx device mac rxSync] <+: events →
        (metering checks root settings).run earlier = .ok meter →
        ∃ found, nearestTx checks settings rxSync (meter.txHistory device.other) = .ok found ∧
          nearestTx checks settings rxSync (pulsesOf device.other earlier) = .ok found ∧
          matched checks settings meter (.rx device mac rxSync) =
            found.toList.map (fun deltaNs => (device.other, deltaNs)) ∧
          EdgeRecords checks root settings meter device mac rxSync found ∧
          FirstNearest settings rxSync (pulsesOf device.other earlier) found := by
  refine ⟨run_eq_unpruned checks root ranges inTime,
    fun earlier device mac rxSync meter part ran => ?_⟩
  have rxRange : rxSync.toNat < 2 ^ 127 :=
    ranges (.rx device mac rxSync) (part.subset (by simp))
  have sentRanges : ∀ txSync ∈ pulsesOf device.other earlier, txSync.toNat < 2 ^ 127 := by
    intro txSync member
    obtain ⟨mac', seq, sent⟩ := mem_pulsesOf.mp member
    exact ranges _ (part.subset (List.mem_append_left _ sent))
  obtain ⟨found, searched, nearest⟩ := search_firstNearest settings rxRange sentRanges
  have whole : nearestTx checks settings rxSync (pulsesOf device.other earlier) = .ok found := by
    rw [nearestTx_eq]
    exact searched checks
  have kept : nearestTx checks settings rxSync (meter.txHistory device.other) = .ok found := by
    rw [(kept_of_run ran).nearestTx_eq rxRange (inTime earlier device mac rxSync part)]
    exact whole
  refine ⟨found, kept, whole, ?_, edgeRecords_of_nearestTx mac kept, nearest⟩
  cases found with
  | none => simp [matched, kept]
  | some deltaNs => simp [matched, kept]

/-- Pulses a second apart and an edge a tenth before the second. -/
def edgeBehind : List Event :=
  [.tx .one [] 0 0, .tx .one [] 1 1000000000, .rx .zero [] 900000000]

/-- The first pulse is dropped before the edge arrives, and neither is in its window. -/
theorem pruning_keeps_matches_behind : ∃ meter,
    (metering .enabled exactRoot .default).run edgeBehind.dropLast = .ok meter ∧
      meter.txHistory .one = [1000000000] ∧
      nearestTx .enabled .default 900000000 (meter.txHistory .one) =
        nearestTx .enabled .default 900000000 [0, 1000000000] := by
  have ranges : ∀ event ∈ edgeBehind, event.syncedNs.toNat < 2 ^ 127 := by decide
  have inTime : EdgesInTime .default edgeBehind := by
    rintro earlier device mac rxSync ⟨rest, split⟩ txSync member
    unfold edgeBehind at split
    match earlier with
    | [] => cases split
    | [first] => cases split
    | [first, second] =>
      cases split
      simp only [pulsesOf, Device.other, List.filterMap_cons, List.filterMap_nil] at member
      rcases List.mem_pair.mp member with rfl | rfl
      · decide
      · decide
    | first :: second :: third :: more => simp at split
  obtain ⟨meter, ran, kept⟩ := exists_of_map_eq_ok (show
    ((metering .enabled exactRoot .default).run edgeBehind.dropLast).map
      (fun meter => meter.txHistory .one) = .ok [1000000000] by decide +kernel)
  obtain ⟨found, inKept, inAll, _⟩ := (pruning_keeps_matches .enabled exactRoot ranges inTime).2
    edgeBehind.dropLast .zero [] 900000000 meter (List.prefix_refl _) ran
  exact ⟨meter, ran, kept, inKept.trans inAll.symm⟩

end Meter

end EspClockSync
