import EspClockSync.Verif.LineRoundTrip
import EspClockSync.Verif.MeterSteps

/-!
# Edges of the self loop

The meter does not read the input of an edge. An edge that a board captured from its own
output is matched like one from the other board, whenever the other board has a pulse in
the window; the statistics are free of such edges exactly when none was matched.
-/

namespace EspClockSync

open Machine Rig

namespace Meter

variable {checks : OverflowChecks} {root : U128 → U64} {settings : Settings}

/-- The meter on the lines that two boards print, in the order they are received. -/
def boards (checks : OverflowChecks) (root : U128 → U64) (settings : Settings) :
    System Matching (Device × FirmwareLine) Panic where
  start := Matching.initial
  step meter line := receiveLine checks root settings meter line.1 line.2.text

/-- The lines of the self-loop input. -/
def selfLoop : FirmwareLine → Bool
  | .pulseRx .d34 _ _ _ => true
  | _ => false

/-- The input without the lines of the self loop. -/
def withoutSelfLoop (lines : List (Device × FirmwareLine)) : List (Device × FirmwareLine) :=
  lines.filter fun line => !selfLoop line.2

/-- A line of the self loop that has a time finds no pulse of the other board. -/
def SelfLoopUnmatched (checks : OverflowChecks) (settings : Settings) (meter : Matching) :
    Device × FirmwareLine → Prop
  | (device, .pulseRx .d34 _ (some ns) _) =>
    nearestTx checks settings ns (meter.txHistory device.other) = .ok none
  | _ => True

/-- Without the lines of the self loop the meter ends with the same statistics and exit status. -/
def SelfLoopInvisible (checks : OverflowChecks) (root : U128 → U64) (settings : Settings)
    (lines : List (Device × FirmwareLine)) (meter : Matching) : Prop :=
  ∃ other, (boards checks root settings).run (withoutSelfLoop lines) = .ok other ∧
    other.statsPerDir = meter.statsPerDir ∧ exitStatus settings other = exitStatus settings meter

/-- An edge that returns finds nothing and changes nothing, or is counted in its direction. -/
theorem receive_rx_ok {before after : Matching} {device : Device} {mac : List Char}
    {syncedNs : U128}
    (returned : receive checks root settings before (.rx device mac syncedNs) = .ok after) :
    after.txHistory = before.txHistory ∧
      ((nearestTx checks settings syncedNs (before.txHistory device.other) = .ok none ∧
          after = before) ∨
        (nearestTx checks settings syncedNs (before.txHistory device.other) ≠ .ok none ∧
          ∀ dir, (after.statsPerDir dir).n.toNat =
            (before.statsPerDir dir).n.toNat + if dir = device.other then 1 else 0)) := by
  cases received_of_receive returned with
  | unmatched _ _ _ searched => exact ⟨rfl, .inl ⟨searched, rfl⟩⟩
  | matched _ _ _ deltaNs stats searched recorded =>
    refine ⟨rfl, .inr ⟨by simp [searched], fun dir => ?_⟩⟩
    by_cases same : dir = device.other
    · subst same
      simp [(DirStats.record_ok recorded).count]
    · simp [same]

/-- On the same histories an event moves both meters alike. -/
theorem receive_alike {before after other next : Matching} {event : Event}
    (histories : before.txHistory = other.txHistory)
    (returned : receive checks root settings before event = .ok after)
    (beside : receive checks root settings other event = .ok next) :
    after.txHistory = next.txHistory ∧ ∀ dir,
      (after.statsPerDir dir).n.toNat + (other.statsPerDir dir).n.toNat =
        (next.statsPerDir dir).n.toNat + (before.statsPerDir dir).n.toNat := by
  cases event with
  | tx device mac seq syncedNs =>
    rw [← Except.ok.inj returned, ← Except.ok.inj beside]
    exact ⟨by rw [histories], fun dir => Nat.add_comm _ _⟩
  | rx device mac syncedNs =>
    obtain ⟨kept, outcome⟩ := receive_rx_ok returned
    obtain ⟨kept_beside, outcome_beside⟩ := receive_rx_ok beside
    rw [← histories] at outcome_beside
    refine ⟨kept.trans (histories.trans kept_beside.symm), fun dir => ?_⟩
    rcases outcome with ⟨searched, rfl⟩ | ⟨found, counted⟩
    · rcases outcome_beside with ⟨_, rfl⟩ | ⟨found, _⟩
      · exact Nat.add_comm _ _
      · exact absurd searched found
    · rcases outcome_beside with ⟨searched, _⟩ | ⟨_, counted_beside⟩
      · exact absurd searched found
      · rw [counted dir, counted_beside dir]
        omega

/-- So does a line. -/
theorem receiveLine_alike {before after other next : Matching} {device : Device} {line : List Char}
    (histories : before.txHistory = other.txHistory)
    (returned : receiveLine checks root settings before device line = .ok after)
    (beside : receiveLine checks root settings other device line = .ok next) :
    after.txHistory = next.txHistory ∧ ∀ dir,
      (after.statsPerDir dir).n.toNat + (other.statsPerDir dir).n.toNat =
        (next.statsPerDir dir).n.toNat + (before.statsPerDir dir).n.toNat := by
  unfold receiveLine at returned beside
  cases parsed : parseLine device line with
  | some event =>
    rw [parsed] at returned beside
    exact receive_alike histories returned beside
  | none =>
    rw [parsed] at returned beside
    obtain rfl := Except.ok.inj returned
    obtain rfl := Except.ok.inj beside
    exact ⟨histories, fun dir => Nat.add_comm _ _⟩

/-- A line of the self loop is read as an edge of its board. -/
theorem receiveLine_selfLoop (meter : Matching) (device : Device) (mac : Mac)
    (syncedNs : Option U128) (capUs : U64) :
    receiveLine checks root settings meter device
        (FirmwareLine.pulseRx .d34 mac syncedNs capUs).text =
      match syncedNs with
      | some ns => receive checks root settings meter (.rx device (macText mac) ns)
      | none => .ok meter := by
  unfold receiveLine FirmwareLine.text
  simp only
  rw [parseLine_pulseRxLine device (by decide)]
  cases syncedNs <;> rfl

/-- A line of the self loop that returns is unmatched and changes nothing, or is counted. -/
theorem selfLoop_ok {before after : Matching} {line : Device × FirmwareLine}
    (self : selfLoop line.2 = true)
    (returned : (boards checks root settings).step before line = .ok after) :
    after.txHistory = before.txHistory ∧
      ((SelfLoopUnmatched checks settings before line ∧ after = before) ∨
        (¬ SelfLoopUnmatched checks settings before line ∧ ∃ dir, ∀ other,
          (after.statsPerDir other).n.toNat =
            (before.statsPerDir other).n.toNat + if other = dir then 1 else 0)) := by
  obtain ⟨device, line⟩ := line
  cases line with
  | pulseTx => contradiction
  | other => contradiction
  | pulseRx port mac syncedNs capUs =>
    cases port with
    | d5 => contradiction
    | d34 =>
      simp only [boards, receiveLine_selfLoop] at returned
      cases syncedNs with
      | none =>
        obtain rfl := Except.ok.inj returned
        exact ⟨rfl, .inl ⟨trivial, rfl⟩⟩
      | some ns =>
        obtain ⟨kept, outcome⟩ := receive_rx_ok returned
        refine ⟨kept, ?_⟩
        rcases outcome with ⟨searched, same⟩ | ⟨found, counted⟩
        · exact .inl ⟨searched, same⟩
        · exact .inr ⟨found, device.other, counted⟩

/-- Nothing is asked of the other lines. -/
theorem selfLoopUnmatched_of_other (checks : OverflowChecks) (settings : Settings)
    (meter : Matching) {line : Device × FirmwareLine} (self : selfLoop line.2 = false) :
    SelfLoopUnmatched checks settings meter line := by
  obtain ⟨device, line⟩ := line
  cases line with
  | pulseTx => trivial
  | other => trivial
  | pulseRx port =>
    cases port with
    | d5 => trivial
    | d34 => contradiction

/-- They are kept. -/
theorem withoutSelfLoop_concat (lines : List (Device × FirmwareLine)) (line : Device × FirmwareLine) :
    withoutSelfLoop (lines ++ [line]) =
      if selfLoop line.2 then withoutSelfLoop lines else withoutSelfLoop lines ++ [line] := by
  cases self : selfLoop line.2 with
  | true => simp [withoutSelfLoop, self]
  | false => simp [withoutSelfLoop, self]

/-- Unmatched lines of the self loop leave the run as it is without them. -/
theorem run_withoutSelfLoop {lines : List (Device × FirmwareLine)} {meter : Matching}
    (reached : (boards checks root settings).run lines = .ok meter)
    (unmatched : (boards checks root settings).EachStep (SelfLoopUnmatched checks settings) lines) :
    (boards checks root settings).run (withoutSelfLoop lines) = .ok meter := by
  refine System.run_induction (motive := fun lines meter =>
    (boards checks root settings).EachStep (SelfLoopUnmatched checks settings) lines →
      (boards checks root settings).run (withoutSelfLoop lines) = .ok meter)
    (fun _ => rfl) (fun lines before line after ran same returned each => ?_) reached unmatched
  rw [System.eachStep_concat ran] at each
  rw [withoutSelfLoop_concat]
  cases self : selfLoop line.2 with
  | false =>
    rw [if_neg (by simp), System.run_concat, same each.1]
    exact returned
  | true =>
    rw [if_pos rfl, same each.1]
    rcases (selfLoop_ok self returned).2 with ⟨_, rfl⟩ | ⟨matched, _⟩
    · rfl
    · exact absurd each.2 matched

/-- The histories of both runs are the same, and the counts differ by the matched lines of
the self loop. -/
theorem counts_withoutSelfLoop {lines : List (Device × FirmwareLine)} {meter other : Matching}
    (reached : (boards checks root settings).run lines = .ok meter)
    (beside : (boards checks root settings).run (withoutSelfLoop lines) = .ok other) :
    meter.txHistory = other.txHistory ∧
      (∀ dir, (other.statsPerDir dir).n.toNat ≤ (meter.statsPerDir dir).n.toNat) ∧
      ((∀ dir, (meter.statsPerDir dir).n.toNat ≤ (other.statsPerDir dir).n.toNat) →
        (boards checks root settings).EachStep (SelfLoopUnmatched checks settings) lines) := by
  induction lines using List.reverseRecOn generalizing meter other with
  | nil =>
    obtain rfl := Except.ok.inj reached
    obtain rfl := Except.ok.inj beside
    exact ⟨rfl, fun _ => le_refl _, fun _ => System.eachStep_nil _ _⟩
  | append_singleton lines line ih =>
    obtain ⟨before, ran, returned⟩ := System.run_concat_ok reached
    rw [withoutSelfLoop_concat] at beside
    rw [System.eachStep_concat ran]
    cases self : selfLoop line.2 with
    | false =>
      rw [self, if_neg (by simp)] at beside
      obtain ⟨between, ran_beside, returned_beside⟩ := System.run_concat_ok beside
      obtain ⟨histories, fewer, unmatched⟩ := ih ran ran_beside
      obtain ⟨moved_alike, alike⟩ := receiveLine_alike histories returned returned_beside
      have unaffected := selfLoopUnmatched_of_other checks settings before self
      refine ⟨moved_alike, fun dir => ?_, fun equal => ⟨unmatched fun dir => ?_, unaffected⟩⟩
      · have moved := alike dir
        have before_fewer := fewer dir
        omega
      · have moved := alike dir
        have same := equal dir
        omega
    | true =>
      rw [self, if_pos rfl] at beside
      obtain ⟨histories, fewer, unmatched⟩ := ih ran beside
      obtain ⟨kept, outcome⟩ := selfLoop_ok self returned
      rcases outcome with ⟨now, rfl⟩ | ⟨_, dir, counted⟩
      · exact ⟨histories, fewer, fun equal => ⟨unmatched equal, now⟩⟩
      · refine ⟨kept.trans histories, fun other_dir => ?_, fun equal => ?_⟩
        · have grown := counted other_dir
          have before_fewer := fewer other_dir
          omega
        · have grown := counted dir
          have same := equal dir
          have before_fewer := fewer dir
          rw [if_pos rfl] at grown
          omega

/-- **When the self loop leaves no trace.** For every interleaving of the lines of two
boards that the meter takes to its end, deleting the lines of the self-loop input leaves
both statistics and the exit status as they are exactly when none of them, at its arrival,
finds a pulse of the other board in the window. -/
theorem self_loop_invisible_iff {lines : List (Device × FirmwareLine)} {meter : Matching}
    (reached : (boards checks root settings).run lines = .ok meter) :
    SelfLoopInvisible checks root settings lines meter ↔
      (boards checks root settings).EachStep (SelfLoopUnmatched checks settings) lines := by
  constructor
  · rintro ⟨other, beside, same, _⟩
    apply (counts_withoutSelfLoop reached beside).2.2
    intro dir
    rw [same]
  · intro unmatched
    exact ⟨meter, run_withoutSelfLoop reached unmatched, rfl, rfl⟩

/-- Board 1 sends at one second; board 0 captures its own output 10 µs later. -/
def ownEcho : List (Device × FirmwareLine) :=
  [(.one, .pulseTx (1, 2, 3) 0 1000000000 1000000000 0),
    (.zero, .pulseRx .d34 (4, 5, 6) (some 1000010000) 0)]

/-- Without a pulse of board 1 the echo leaves no trace. -/
theorem self_loop_invisible_alone :
    ∃ meter, (boards .enabled exactRoot Settings.default).run (ownEcho.drop 1) = .ok meter ∧
      SelfLoopInvisible .enabled exactRoot Settings.default (ownEcho.drop 1) meter := by
  obtain ⟨meter, ran, _⟩ := exists_of_map_eq_ok (show
    ((boards .enabled exactRoot Settings.default).run (ownEcho.drop 1)).map (fun _ => ()) =
      .ok () by decide +kernel)
  have unmatched : (boards .enabled exactRoot Settings.default).EachStep
      (SelfLoopUnmatched .enabled Settings.default) ([] ++ ownEcho.drop 1) :=
    (System.eachStep_concat (System.run_nil _)).mpr ⟨System.eachStep_nil _ _, rfl⟩
  exact ⟨meter, ran, (self_loop_invisible_iff ran).mpr unmatched⟩

/-- The echo of board 0 is counted as an edge from board 1. -/
theorem self_loop_counted :
    ∃ meter, (boards .enabled exactRoot Settings.default).run ownEcho = .ok meter ∧
      (meter.statsPerDir .one).n = 1 ∧
      ¬ SelfLoopInvisible .enabled exactRoot Settings.default ownEcho meter := by
  obtain ⟨meter, ran, counted⟩ := exists_of_map_eq_ok (show
    ((boards .enabled exactRoot Settings.default).run ownEcho).map
      (fun meter => (meter.statsPerDir .one).n) = .ok 1 by decide +kernel)
  have uncounted : ((boards .enabled exactRoot Settings.default).run
      (withoutSelfLoop ownEcho)).map (fun meter => (meter.statsPerDir .one).n) = .ok 0 := by
    decide +kernel
  refine ⟨meter, ran, counted, ?_⟩
  rintro ⟨other, beside, same, _⟩
  have zero : (other.statsPerDir .one).n = 0 := by
    rw [beside] at uncounted
    exact Except.ok.inj uncounted
  rw [same, counted] at zero
  exact absurd zero (by decide)

end Meter

end EspClockSync
