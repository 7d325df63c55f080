import EspClockSync.Verif.MeterHistory

/-!
# Schedules of the reader threads

An edge is matched when it arrives, against the pulses that have arrived before it. Two
schedules of the same streams can put a pulse before an edge or after it, so what is
recorded depends on the schedule as soon as there is anything to match. A schedule in
which every edge comes after the pulses near it, and before pulses that drop them, pairs
each edge with the nearest pulse of its stream.
-/

namespace EspClockSync

open Machine

namespace Meter

variable {checks : OverflowChecks} {root : U128 → U64} {settings : Settings}

/-! ## Streams and schedules -/

/-- What two boards send, each event in the stream of its own board. -/
structure Streams where
  /-- The stream of a board. -/
  events : Device → List Event
  /-- Its events are its own. -/
  own : ∀ device, ∀ event ∈ events device, event.device = device

/-- A schedule of the streams delivers every event once, each stream in its own order. -/
def Streams.Schedule (streams : Streams) (events : List Event) : Prop :=
  ∀ device, events.filter (fun event => event.device = device) = streams.events device

/-- The events of a stream, in any schedule. -/
theorem Streams.Schedule.mem_iff {streams : Streams} {events : List Event}
    (schedule : streams.Schedule events) (event : Event) :
    event ∈ events ↔ event ∈ streams.events event.device := by
  rw [← schedule event.device, List.mem_filter]
  simp

/-- Every schedule delivers the pulses of a stream in their order. -/
theorem Streams.Schedule.pulsesOf_eq {streams : Streams} {events : List Event}
    (schedule : streams.Schedule events) (device : Device) :
    pulsesOf device events = pulsesOf device (streams.events device) := by
  rw [← schedule device]
  unfold pulsesOf
  rw [List.filterMap_filter]
  apply List.filterMap_congr
  intro event _
  cases event with
  | rx board mac syncedNs => simp
  | tx board mac seq syncedNs => by_cases same : board = device <;> simp [Event.device, same]

/-- The difference of an edge to the nearest of these pulses, if one is in the window. -/
def nearestOf (checks : OverflowChecks) (settings : Settings) (sent : List U128) :
    Event → Option Int
  | .tx _ _ _ _ => none
  | .rx _ _ syncedNs =>
    match nearestTx checks settings syncedNs sent with
    | .ok found => found
    | .error _ => none

/-- The differences of the edges of the other board to the nearest of all pulses of this one. -/
def Streams.nearest (checks : OverflowChecks) (settings : Settings) (streams : Streams)
    (dir : Device) : List Int :=
  (streams.events dir.other).filterMap
    (nearestOf checks settings (pulsesOf dir (streams.events dir)))

/-- Every schedule runs to its end, and two schedules match the same differences in each
direction, whatever their order. -/
def Reproducible (checks : OverflowChecks) (root : U128 → U64) (settings : Settings)
    (streams : Streams) : Prop :=
  ∀ events others, streams.Schedule events → streams.Schedule others →
    ∃ state other, (matching checks root settings).run events = .ok state ∧
      (matching checks root settings).run others = .ok other ∧
      ∀ dir, (deltasOf dir state.2).Perm (deltasOf dir other.2)

/-- Every schedule runs to its end and pairs every edge with the nearest of all pulses. -/
def Paired (checks : OverflowChecks) (root : U128 → U64) (settings : Settings)
    (streams : Streams) : Prop :=
  ∀ events, streams.Schedule events →
    ∃ state, (matching checks root settings).run events = .ok state ∧
      ∀ dir, (deltasOf dir state.2).Perm (streams.nearest checks settings dir)

/-- No edge of either board is in the window of a pulse of the other. -/
def Apart (checks : OverflowChecks) (settings : Settings) (streams : Streams) : Prop :=
  ∀ device mac rxSync, .rx device mac rxSync ∈ streams.events device →
    ∀ txSync ∈ pulsesOf device.other (streams.events device.other),
      Outside checks settings rxSync txSync

/-- Streams that are apart match nothing, in any prefix of any schedule. -/
theorem run_of_apart {streams : Streams} (apart : Apart checks settings streams)
    {events : List Event} (sent : ∀ event ∈ events, event ∈ streams.events event.device) :
    ∃ meter, (matching checks root settings).run events = .ok (meter, []) := by
  induction events using List.reverseRecOn with
  | nil => exact ⟨Matching.initial, rfl⟩
  | append_singleton events event ih =>
    obtain ⟨meter, reached⟩ := ih fun earlier member =>
      sent earlier (List.mem_append_left _ member)
    have kept := kept_of_run (System.run_of_observed reached)
    have own := sent event (by simp)
    rw [System.run_concat, reached, ok_bind]
    cases event with
    | tx device mac seq syncedNs => exact ⟨_, rfl⟩
    | rx device mac syncedNs =>
      have nothing : nearestTx checks settings syncedNs (meter.txHistory device.other) = .ok none := by
        rw [nearestTx_eq]
        apply search_outside
        intro txSync member
        obtain ⟨mac', seq, pulse⟩ := mem_pulsesOf.mp (kept.mem_of_mem member)
        apply apart device mac syncedNs own
        exact mem_pulsesOf.mpr ⟨mac', seq, sent _ (List.mem_append_left _ pulse)⟩
      have unchanged : receive checks root settings meter (.rx device mac syncedNs) = .ok meter := by
        unfold receive
        dsimp only
        rw [nothing, ok_bind]
      refine ⟨meter, ?_⟩
      simp only [System.observed, metering, unchanged, matched, nothing, Except.map]
      rfl

/-! ## Two schedules of one match -/

/-- A pulse is in the history of its board right after it. -/
theorem mem_txHistory_of_sent {before after : Matching} {device : Device} {mac : List Char}
    {seq : U32} {syncedNs : U128}
    (returned : receive checks root settings before (.tx device mac seq syncedNs) = .ok after) :
    syncedNs ∈ after.txHistory device := by
  obtain rfl := Except.ok.inj returned
  simp [mem_pushTx_self]

/-- An event never matches a pulse of its own board. -/
theorem deltasOf_matched_own (checks : OverflowChecks) (settings : Settings) (meter : Matching)
    (event : Event) : deltasOf event.device (matched checks settings meter event) = [] := by
  cases event with
  | tx device mac seq syncedNs => rfl
  | rx device mac syncedNs =>
    unfold matched
    dsimp only
    split
    · simp [deltasOf, Event.device, device.other_ne]
    · rfl

/-- Without pulses of the other board an event matches nothing from it. -/
theorem matched_of_no_pulse {meter : Matching} {event : Event} {device : Device}
    (board : event.device = device) (empty : meter.txHistory device.other = []) :
    matched checks settings meter event = [] := by
  cases event with
  | tx sender mac seq syncedNs => rfl
  | rx receiver mac syncedNs =>
    have none_sent : meter.txHistory receiver.other = [] := by
      rw [← empty, ← board]
      rfl
    simp [matched, nearestTx, none_sent]

/-- Events of one board match nothing from the other. -/
theorem run_of_own {events : List Event} {device : Device} {state : Matching × List (Device × Int)}
    (own : ∀ event ∈ events, event.device = device)
    (reached : (matching checks root settings).run events = .ok state) :
    deltasOf device.other state.2 = [] := by
  induction events using List.reverseRecOn generalizing state with
  | nil =>
    obtain rfl := Except.ok.inj reached
    rfl
  | append_singleton events event ih =>
    obtain ⟨before, ran, stepped⟩ := System.run_concat_ok reached
    have unmatched := ih (fun earlier member => own earlier (by simp [member])) ran
    have kept := kept_of_run (System.run_of_observed ran)
    have empty : before.1.txHistory device.other = [] := by
      apply List.eq_nil_iff_forall_not_mem.mpr
      intro txSync member
      obtain ⟨mac, seq, sent⟩ := mem_pulsesOf.mp (kept.mem_of_mem member)
      exact device.other_ne (own _ (List.mem_append_left _ sent))
    rw [(System.observed_step_ok stepped).2, deltasOf_append, unmatched,
      matched_of_no_pulse (own event (by simp)) empty]
    rfl

/-- After events of one board, events of the other board match nothing from the other. -/
theorem run_then_own {first second : List Event} {device : Device}
    {state : Matching × List (Device × Int)} (own : ∀ event ∈ first, event.device = device)
    (others : ∀ event ∈ second, event.device = device.other)
    (reached : (matching checks root settings).run (first ++ second) = .ok state) :
    deltasOf device.other state.2 = [] := by
  induction second using List.reverseRecOn generalizing state with
  | nil =>
    rw [List.append_nil] at reached
    exact run_of_own own reached
  | append_singleton second event ih =>
    rw [← List.append_assoc] at reached
    obtain ⟨before, ran, stepped⟩ := System.run_concat_ok reached
    have earlier := ih (fun e member => others e (List.mem_append_left _ member)) ran
    have board := others event (by simp)
    rw [(System.observed_step_ok stepped).2, deltasOf_append, earlier, ← board,
      deltasOf_matched_own]
    rfl

/-- An edge that arrives with a pulse of the other board in the window is matched. -/
theorem outside_or_matched {before after : Matching} {device : Device} {mac : List Char}
    {rxSync txSync : U128} (kept : txSync ∈ before.txHistory device.other)
    (returned : receive checks root settings before (.rx device mac rxSync) = .ok after) :
    Outside checks settings rxSync txSync ∨
      deltasOf device.other (matched checks settings before (.rx device mac rxSync)) ≠ [] := by
  cases received_of_receive returned with
  | unmatched _ _ _ searched =>
    left
    rw [nearestTx_eq] at searched
    exact (search_ok searched).2 txSync kept rfl
  | matched _ _ _ deltaNs stats searched recorded =>
    right
    simp [matched, searched, deltasOf]

/-- A part of a stream stays when the events of its board are kept. -/
theorem Streams.filter_own {streams : Streams} {device : Device} {part : List Event}
    (inside : ∀ event ∈ part, event ∈ streams.events device) :
    part.filter (fun event => event.device = device) = part := by
  apply List.filter_eq_self.mpr
  intro event member
  exact decide_eq_true (streams.own device event (inside event member))

/-- A part of the other stream goes. -/
theorem Streams.filter_other {streams : Streams} {device : Device} {part : List Event}
    (inside : ∀ event ∈ part, event ∈ streams.events device.other) :
    part.filter (fun event => event.device = device) = [] := by
  apply List.filter_eq_nil_iff.mpr
  intro event member same
  have away := streams.own device.other event (inside event member)
  exact device.other_ne (away.symm.trans (of_decide_eq_true same))

/-- A schedule of two streams in two parts each. -/
theorem schedule_of_parts {streams : Streams} {device : Device}
    (first second otherFirst otherSecond : List Event)
    (own : streams.events device = first ++ second)
    (others : streams.events device.other = otherFirst ++ otherSecond) :
    streams.Schedule (first ++ otherFirst ++ (second ++ otherSecond)) := by
  have in_first : ∀ event ∈ first, event ∈ streams.events device := by simp +contextual [own]
  have in_second : ∀ event ∈ second, event ∈ streams.events device := by simp +contextual [own]
  have in_otherFirst : ∀ event ∈ otherFirst, event ∈ streams.events device.other := by
    simp +contextual [others]
  have in_otherSecond : ∀ event ∈ otherSecond, event ∈ streams.events device.other := by
    simp +contextual [others]
  intro board
  simp only [List.filter_append]
  by_cases same : board = device
  · subst same
    rw [streams.filter_own in_first, streams.filter_own in_second, streams.filter_other in_otherFirst,
      streams.filter_other in_otherSecond, own]
    simp
  · have other : board = device.other := Device.eq_other_of_ne same
    subst other
    rw [← device.other_other] at in_first in_second
    rw [streams.filter_other in_first, streams.filter_other in_second,
      streams.filter_own in_otherFirst, streams.filter_own in_otherSecond, others]
    simp

/-- With an edge right after a pulse in its window, a run that ends has matched something. -/
theorem outside_or_recorded {earlier more : List Event} {state : Matching × List (Device × Int)}
    {device : Device} {mac mac' : List Char} {seq : U32} {rxSync txSync : U128}
    (reached : (matching checks root settings).run
      (earlier ++ [.tx device.other mac' seq txSync] ++ [.rx device mac rxSync] ++ more) =
        .ok state) :
    Outside checks settings rxSync txSync ∨ deltasOf device.other state.2 ≠ [] := by
  obtain ⟨at_edge, ran, logged⟩ := System.log_prefix_of_append reached
  obtain ⟨at_pulse, ran, edge_stepped⟩ := System.run_concat_ok ran
  obtain ⟨_, _, pulse_stepped⟩ := System.run_concat_ok ran
  have sent : receive checks root settings _ (.tx device.other mac' seq txSync) = .ok at_pulse.1 :=
    (System.observed_step_ok pulse_stepped).1
  obtain ⟨returned, recorded⟩ := System.observed_step_ok edge_stepped
  rcases outside_or_matched (mem_txHistory_of_sent sent) returned with outside | some_delta
  · exact .inl outside
  · right
    intro nothing
    obtain ⟨rest, whole⟩ := logged
    rw [← whole, recorded, deltasOf_append, deltasOf_append] at nothing
    simp only [List.append_eq_nil_iff] at nothing
    exact some_delta nothing.1.2

/-- The edges of streams that are apart have no nearest pulse. -/
theorem nearest_of_apart {streams : Streams} (apart : Apart checks settings streams)
    (dir : Device) : streams.nearest checks settings dir = [] := by
  apply List.filterMap_eq_nil_iff.mpr
  intro event member
  cases event with
  | tx device mac seq syncedNs => rfl
  | rx device mac syncedNs =>
    have board : device = dir.other := streams.own _ _ member
    subst board
    have far := apart dir.other mac syncedNs member
    rw [Device.other_other] at far
    unfold nearestOf
    dsimp only
    rw [nearestTx_eq, search_outside none far]

/-- **Reproducible streams are apart.** Delivered after the pulse an edge is matched if
the pulse is in the window; with all its board's events first, it matches nothing. -/
theorem apart_of_reproducible {streams : Streams}
    (reproducible : Reproducible checks root settings streams) : Apart checks settings streams := by
  intro device mac rxSync edge txSync sent
  obtain ⟨mac', seq, pulse⟩ := mem_pulsesOf.mp sent
  obtain ⟨before, after, own⟩ := List.append_of_mem edge
  obtain ⟨earlier, later, others⟩ := List.append_of_mem pulse
  have pulse_first := schedule_of_parts before _ (earlier ++ [_]) later own
    (by rw [others, List.append_assoc, List.singleton_append])
  have edge_first := schedule_of_parts (streams.events device) [] []
    (streams.events device.other) (List.append_nil _).symm rfl
  obtain ⟨state, other, reached, reached_other, same⟩ := reproducible _ _ pulse_first edge_first
  have unmatched : deltasOf device.other other.2 = [] := by
    simp only [List.append_nil, List.nil_append] at reached_other
    exact run_then_own (streams.own device) (streams.own device.other) reached_other
  have recorded_nothing : deltasOf device.other state.2 = [] := by
    have deltas := same device.other
    rw [unmatched] at deltas
    exact List.Perm.eq_nil deltas
  have to_edge : before ++ (earlier ++ [.tx device.other mac' seq txSync]) ++
      (.rx device mac rxSync :: after ++ later) =
      (before ++ earlier) ++ [.tx device.other mac' seq txSync] ++ [.rx device mac rxSync] ++
        (after ++ later) := by
    simp
  rw [to_edge] at reached
  rcases outside_or_recorded reached with outside | recorded
  · exact outside
  · exact absurd recorded_nothing recorded

/-- Schedules that pair every edge with the nearest pulse match the same differences. -/
theorem reproducible_of_paired {streams : Streams} (paired : Paired checks root settings streams) :
    Reproducible checks root settings streams := by
  intro events others schedule schedule_others
  obtain ⟨state, reached, nearest⟩ := paired events schedule
  obtain ⟨other, reached_other, nearest_other⟩ := paired others schedule_others
  exact ⟨state, other, reached, reached_other, fun dir => (nearest dir).trans (nearest_other dir).symm⟩

/-- Streams that are apart have no pairs to lose. -/
theorem paired_of_apart {streams : Streams} (apart : Apart checks settings streams) :
    Paired checks root settings streams := by
  intro events schedule
  have sent : ∀ event ∈ events, event ∈ streams.events event.device := fun event member =>
    (schedule.mem_iff event).mp member
  obtain ⟨meter, reached⟩ := run_of_apart apart sent
  refine ⟨(meter, []), reached, fun dir => ?_⟩
  rw [nearest_of_apart apart dir]
  exact List.Perm.refl []

/-! ## Timely schedules -/

/-- A schedule in which an edge arrives after the pulses in its window and before pulses so
late that those are dropped. -/
structure Timely (checks : OverflowChecks) (settings : Settings) (events : List Event) : Prop where
  /-- The casts of the times to `i128` keep them. -/
  range : ∀ event ∈ events, event.syncedNs.toNat < 2 ^ 127
  /-- No pulse of the other board is far ahead of the edge. -/
  early : ∀ before device mac rxSync after, events = before ++ .rx device mac rxSync :: after →
    ∀ txSync ∈ pulsesOf device.other before,
      txSync.toNat ≤ rxSync.toNat + settings.matchWindowNs * 3
  /-- No pulse in the window of the edge is still to come. -/
  late : ∀ before device mac rxSync after, events = before ++ .rx device mac rxSync :: after →
    ∀ txSync ∈ pulsesOf device.other after, Outside checks settings rxSync txSync

/-- What an edge of a timely schedule finds is the nearest of all pulses. -/
theorem Timely.nearestTx_eq {events before after : List Event} {device : Device} {mac : List Char}
    {rxSync : U128} {meter : Matching} (timely : Timely checks settings events)
    (split : events = before ++ .rx device mac rxSync :: after) (kept : Kept settings before meter) :
    nearestTx checks settings rxSync (meter.txHistory device.other) =
      nearestTx checks settings rxSync (pulsesOf device.other events) := by
  obtain ⟨dropped, whole, older⟩ := kept device.other
  have pulses : pulsesOf device.other events =
      dropped ++ meter.txHistory device.other ++ pulsesOf device.other after := by
    rw [split, pulsesOf_append, whole]
    rfl
  have rxRange : rxSync.toNat < 2 ^ 127 :=
    timely.range (.rx device mac rxSync) (by rw [split]; simp)
  have first : ∀ old ∈ dropped, Outside checks settings rxSync old := by
    intro old member
    obtain ⟨recent, sent, far⟩ := older old member
    exact outside_of_dropped rxRange far (timely.early _ _ _ _ _ split recent sent)
  rw [pulses]
  exact (nearestTx_between first (timely.late _ _ _ _ _ split)).symm

/-- **Step.** An event of a timely schedule is matched with the nearest of all pulses. -/
theorem Timely.deltasOf_matched {events before after : List Event} {event : Event}
    {meter : Matching} (timely : Timely checks settings events)
    (split : events = before ++ event :: after) (kept : Kept settings before meter) (dir : Device) :
    deltasOf dir (matched checks settings meter event) =
      ([event].filter fun event => event.device = dir.other).filterMap
        (nearestOf checks settings (pulsesOf dir events)) := by
  by_cases board : event.device = dir.other
  · have facing_edge : ([event].filter fun event => event.device = dir.other) = [event] := by
      simp [board]
    rw [facing_edge]
    cases event with
    | tx device mac seq syncedNs => rfl
    | rx device mac rxSync =>
      have facing : device.other = dir := by
        rw [show device = dir.other from board, Device.other_other]
      have found := timely.nearestTx_eq split kept
      rw [facing] at found
      cases nearest : nearestTx checks settings rxSync (pulsesOf dir events) with
      | error stop => simp [matched, nearestOf, facing, found, nearest, deltasOf]
      | ok best =>
        cases best with
        | none => simp [matched, nearestOf, facing, found, nearest, deltasOf]
        | some deltaNs => simp [matched, nearestOf, facing, found, nearest, deltasOf]
  · have own : dir = event.device := by
      have same := Device.eq_other_of_ne board
      rw [same, Device.other_other]
    have none_left : ([event].filter fun event => event.device = dir.other) = [] := by
      simp [board]
    rw [none_left, own, deltasOf_matched_own]
    rfl

/-- **Run.** A timely schedule that ends has paired every edge with the nearest pulse. -/
theorem nearest_of_timely {streams : Streams} {events : List Event}
    {state : Matching × List (Device × Int)} (schedule : streams.Schedule events)
    (timely : Timely checks settings events)
    (reached : (matching checks root settings).run events = .ok state) (dir : Device) :
    deltasOf dir state.2 = streams.nearest checks settings dir := by
  have along : ∀ earlier (state : Matching × List (Device × Int)), earlier <+: events →
      (matching checks root settings).run earlier = .ok state →
      deltasOf dir state.2 = (earlier.filter fun event => event.device = dir.other).filterMap
        (nearestOf checks settings (pulsesOf dir events)) := by
    intro earlier state part ran
    induction earlier using List.reverseRecOn generalizing state with
    | nil =>
      obtain rfl := Except.ok.inj ran
      rfl
    | append_singleton earlier event ih =>
      obtain ⟨before, ran, stepped⟩ := System.run_concat_ok ran
      obtain ⟨after, split⟩ := part
      rw [List.append_assoc, List.singleton_append] at split
      have so_far := ih before ⟨event :: after, split⟩ ran
      have kept := kept_of_run (System.run_of_observed ran)
      rw [(System.observed_step_ok stepped).2, deltasOf_append, so_far,
        timely.deltasOf_matched split.symm kept, List.filter_append, List.filterMap_append]
  have whole := along events state (List.prefix_refl _) reached
  rw [schedule dir.other, schedule.pulsesOf_eq dir] at whole
  exact whole

/-- **Only streams without a match are reproducible.** Over all schedules of two streams,
the loop ends and matches the same differences exactly when no edge is in the window of a
pulse of the other board, and only then does every schedule pair each edge with the nearest
pulse: any match there is can be lost by delivering the edge first. A timely schedule that
ends pairs each edge, whatever the streams. In every run that ends, what is matched in a
direction is what its statistics have recorded. -/
theorem meter_reproducible_iff (checks : OverflowChecks) (root : U128 → U64) (settings : Settings)
    (streams : Streams) :
    ((Reproducible checks root settings streams ↔ Apart checks settings streams) ∧
      (Paired checks root settings streams ↔ Apart checks settings streams) ∧
      ∀ events state, streams.Schedule events → Timely checks settings events →
        (matching checks root settings).run events = .ok state →
        ∀ dir, deltasOf dir state.2 = streams.nearest checks settings dir) ∧
    ∀ events state, (matching checks root settings).run events = .ok state → ∀ dir,
      (deltasOf dir state.2).foldlM (DirStats.record checks root) DirStats.default =
          .ok (state.1.statsPerDir dir) ∧
        (state.1.statsPerDir dir).Tally (deltasOf dir state.2) := by
  refine ⟨⟨⟨apart_of_reproducible, fun apart => ?_⟩, ⟨fun paired => ?_, paired_of_apart⟩, ?_⟩,
    fun events state reached dir => ⟨recorded_of_run reached dir, tally_of_run reached dir⟩⟩
  · exact reproducible_of_paired (paired_of_apart apart)
  · exact apart_of_reproducible (reproducible_of_paired paired)
  · intro events state schedule timely reached dir
    exact nearest_of_timely schedule timely reached dir

/-- A pulse of the first board at one second and an edge of the second board ten
microseconds later, as they are stamped. -/
def onePulse : Streams where
  events
    | .zero => [.tx .zero [] 0 1000000000]
    | .one => [.rx .one [] 1000010000]
  own device event member := by
    cases device with
    | zero => rw [List.mem_singleton.mp member]; rfl
    | one => rw [List.mem_singleton.mp member]; rfl

/-- The schedule that delivers the pulse first. -/
theorem onePulse_pulse_first :
    onePulse.Schedule [.tx .zero [] 0 1000000000, .rx .one [] 1000010000] := by
  intro device
  cases device with
  | zero => rfl
  | one => rfl

/-- It is timely. -/
theorem onePulse_timely :
    Timely .enabled .default [.tx .zero [] 0 1000000000, .rx .one [] 1000010000] := by
  have split : ∀ before device mac rxSync after,
      [.tx .zero [] 0 1000000000, .rx .one [] 1000010000] =
        before ++ Event.rx device mac rxSync :: after →
      before = [.tx .zero [] 0 1000000000] ∧ device = .one ∧ rxSync = 1000010000 ∧ after = [] := by
    intro before device mac rxSync after same
    cases before with
    | nil => cases same
    | cons first rest =>
      cases rest with
      | nil =>
        cases same
        exact ⟨rfl, rfl, rfl, rfl⟩
      | cons second more => simp at same
  constructor
  · intro event member
    rcases List.mem_pair.mp member with rfl | rfl
    · decide
    · decide
  · intro before device mac rxSync after same
    obtain ⟨rfl, rfl, rfl, rfl⟩ := split before device mac rxSync after same
    intro txSync member
    obtain rfl := List.mem_singleton.mp member
    decide
  · intro before device mac rxSync after same
    obtain ⟨rfl, rfl, rfl, rfl⟩ := split before device mac rxSync after same
    exact fun _ member => absurd member List.not_mem_nil

/-- Delivered in time, the edge is matched with the pulse. -/
theorem onePulse_matched_in_time : ∃ state,
    (matching .enabled exactRoot .default).run
      [.tx .zero [] 0 1000000000, .rx .one [] 1000010000] = .ok state ∧
    deltasOf .zero state.2 = onePulse.nearest .enabled .default .zero := by
  obtain ⟨state, reached, _⟩ := exists_of_map_eq_ok (show
    ((matching .enabled exactRoot .default).run
      [.tx .zero [] 0 1000000000, .rx .one [] 1000010000]).map (fun state => deltasOf .zero state.2) =
        .ok [10000] by decide +kernel)
  have paired := (meter_reproducible_iff .enabled exactRoot .default onePulse).1.2.2
  exact ⟨state, reached, paired _ state onePulse_pulse_first onePulse_timely reached .zero⟩

/-- **A match lost to the schedule.** With the default options the difference is recorded
if the pulse is delivered first, and nothing is recorded if the edge is. -/
theorem onePulse_not_reproducible :
    ¬ Reproducible .enabled exactRoot .default onePulse ∧
      ¬ Paired .enabled exactRoot .default onePulse := by
  have edge_first : onePulse.Schedule [.rx .one [] 1000010000, .tx .zero [] 0 1000000000] := by
    intro device
    cases device with
    | zero => rfl
    | one => rfl
  obtain ⟨recorded, reached, logged⟩ := exists_of_map_eq_ok (show
    ((matching .enabled exactRoot .default).run
      [.tx .zero [] 0 1000000000, .rx .one [] 1000010000]).map (fun state => deltasOf .zero state.2) =
        .ok [10000] by decide +kernel)
  obtain ⟨missed, reached_other, logged_other⟩ := exists_of_map_eq_ok (show
    ((matching .enabled exactRoot .default).run
      [.rx .one [] 1000010000, .tx .zero [] 0 1000000000]).map (fun state => deltasOf .zero state.2) =
        .ok [] by decide +kernel)
  have irreproducible : ¬ Reproducible .enabled exactRoot .default onePulse := by
    intro reproducible
    obtain ⟨state, other, ran, ran_other, same⟩ := reproducible _ _ onePulse_pulse_first edge_first
    obtain rfl := Except.ok.inj (reached.symm.trans ran)
    obtain rfl := Except.ok.inj (reached_other.symm.trans ran_other)
    have deltas := same .zero
    rw [logged, logged_other] at deltas
    exact absurd deltas.length_eq (by decide)
  exact ⟨irreproducible, fun paired => irreproducible (reproducible_of_paired paired)⟩

end Meter

end EspClockSync
