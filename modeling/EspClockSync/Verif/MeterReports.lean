import EspClockSync.Meter.Status
import EspClockSync.Verif.MeterVerdict

/-!
# The reports of the skew meter

With its clock and its reports the loop still is the matching loop over the events it takes. Its
reports show the statistics after growing prefixes of those events, so a run that ends well never
warned; and under a clock that does not go back they are a second apart.
-/

namespace EspClockSync

open Machine

namespace Meter

variable {checks : OverflowChecks} {root : U128 → U64} {settings : Settings} {schedule : Schedule}

/-! ## A turn of the loop -/

/-- The event that a turn takes: none once the loop has ended or its deadline is there. -/
def taken (schedule : Schedule) (loop : MainLoop) (turn : Turn) : List Event :=
  match turn.arrival with
  | .event event => if loop.ended = false ∧ turn.now < schedule.deadline then [event] else []
  | .timeout => []
  | .disconnected => []

/-- After its end and from its deadline on the loop takes nothing. -/
theorem taken_eq_nil {loop : MainLoop} {turn : Turn}
    (idle : loop.ended = true ∨ ¬ turn.now < schedule.deadline) : taken schedule loop turn = [] := by
  unfold taken
  cases turn.arrival with
  | event event =>
    rcases idle with stopped | late
    · simp [stopped]
    · simp [late]
  | timeout => rfl
  | disconnected => rfl

/-- The outcomes of a turn. -/
inductive Turned (checks : OverflowChecks) (root : U128 → U64) (settings : Settings)
    (schedule : Schedule) (before : MainLoop) (turn : Turn) : MainLoop → Prop where
  /-- The turn takes what it takes without a report. -/
  | quiet (matching : Matching) (ended : Bool)
      (received : (taken schedule before turn).foldlM (receive checks root settings)
        before.matching = .ok matching) :
      Turned checks root settings schedule before turn
        { before with matching := matching, ended := ended }
  /-- Before the deadline, at least a second after the last report, it reports. -/
  | reported (matching : Matching)
      (received : (taken schedule before turn).foldlM (receive checks root settings)
        before.matching = .ok matching)
      (inTime : turn.now < schedule.deadline)
      (due : before.lastPrint + 1000000000 ≤ turn.asked) :
      Turned checks root settings schedule before turn
        { before with
          matching := matching
          lastPrint := turn.printed
          reports := before.reports ++ [⟨turn.printed, statusLines settings matching⟩] }

/-- What was taken is reported or not. -/
theorem turned_maybePrintStats {before : MainLoop} {turn : Turn} {matching : Matching}
    (received : (taken schedule before turn).foldlM (receive checks root settings)
      before.matching = .ok matching)
    (inTime : turn.now < schedule.deadline) :
    Turned checks root settings schedule before turn
      (maybePrintStats settings turn { before with matching := matching }) := by
  unfold maybePrintStats
  dsimp only
  split
  · exact .quiet matching before.ended received
  · rename_i late
    exact .reported matching received inTime (by omega)

/-- **Inversion.** A turn that returns has one of the listed outcomes. -/
theorem turned_of_turnLoop {before after : MainLoop} {turn : Turn}
    (returned : turnLoop checks root settings schedule before turn = .ok after) :
    Turned checks root settings schedule before turn after := by
  unfold turnLoop at returned
  split at returned
  · rename_i stopped
    have nothing : taken schedule before turn = [] := taken_eq_nil (.inl stopped)
    obtain rfl := Except.ok.inj returned
    exact .quiet before.matching before.ended (by rw [nothing]; rfl)
  · rename_i running
    rw [Bool.not_eq_true] at running
    split at returned
    · rename_i inTime
      cases arrived : turn.arrival with
      | timeout =>
        have nothing : taken schedule before turn = [] := by simp [taken, arrived]
        rw [arrived] at returned
        obtain rfl := Except.ok.inj returned
        exact turned_maybePrintStats (by rw [nothing]; rfl) inTime
      | disconnected =>
        have nothing : taken schedule before turn = [] := by simp [taken, arrived]
        rw [arrived] at returned
        obtain rfl := Except.ok.inj returned
        exact .quiet before.matching true (by rw [nothing]; rfl)
      | event event =>
        have one : taken schedule before turn = [event] := by
          simp [taken, arrived, running, inTime]
        rw [arrived] at returned
        obtain ⟨matching, moved, returned⟩ := bind_eq_ok returned
        have received : (taken schedule before turn).foldlM (receive checks root settings)
            before.matching = .ok matching := by
          rw [one, List.foldlM_cons, moved]
          rfl
        obtain rfl := Except.ok.inj returned
        split
        · exact turned_maybePrintStats received inTime
        · exact .quiet matching before.ended received
    · rename_i late
      have nothing : taken schedule before turn = [] := taken_eq_nil (.inr late)
      obtain rfl := Except.ok.inj returned
      exact .quiet before.matching true (by rw [nothing]; rfl)

/-- What the turn took moves the matching loop. -/
theorem Turned.received {before after : MainLoop} {turn : Turn}
    (turned : Turned checks root settings schedule before turn after) :
    (taken schedule before turn).foldlM (receive checks root settings) before.matching =
      .ok after.matching := by
  cases turned with
  | quiet matching ended received => exact received
  | reported matching received inTime due => exact received

/-- The loop with the record of the events it takes. -/
abbrev taking (checks : OverflowChecks) (root : U128 → U64) (settings : Settings)
    (schedule : Schedule) : System (MainLoop × List Event) Turn Panic :=
  (mainLoop checks root settings schedule).observed (taken schedule)

/-- **Refinement.** The loop of `main` is the matching loop over the events it takes. -/
theorem metering_of_run {turns : List Turn} {state : MainLoop × List Event}
    (reached : (taking checks root settings schedule).run turns = .ok state) :
    (metering checks root settings).run state.2 = .ok state.1.matching :=
  System.run_of_stuttering (metering checks root settings) MainLoop.matching (taken schedule) rfl
    (fun _ _ _ stepped => (turned_of_turnLoop stepped).received) reached

/-! ## What the reports show -/

/-- A report shows the statistics after these events. -/
def Shows (checks : OverflowChecks) (root : U128 → U64) (settings : Settings) (seen : List Event)
    (report : Report) : Prop :=
  ∃ meter, (metering checks root settings).run seen = .ok meter ∧
    report.lines = statusLines settings meter

/-- The reports show the statistics after growing prefixes of the events taken. -/
def Reporting (checks : OverflowChecks) (root : U128 → U64) (settings : Settings)
    (events : List Event) (reports : List Report) : Prop :=
  ∃ prefixes : List (List Event), prefixes.Pairwise (· <+: ·) ∧
    (∀ seen ∈ prefixes, seen <+: events) ∧
    List.Forall₂ (Shows checks root settings) prefixes reports

/-- More events keep what the reports show. -/
theorem Reporting.append {events : List Event} {reports : List Report}
    (held : Reporting checks root settings events reports) (more : List Event) :
    Reporting checks root settings (events ++ more) reports := by
  obtain ⟨prefixes, growing, within, shown⟩ := held
  exact ⟨prefixes, growing, fun seen member => (within seen member).trans (List.prefix_append _ _),
    shown⟩

/-- A report of everything taken so far. -/
theorem Reporting.concat {events : List Event} {reports : List Report} {report : Report}
    (held : Reporting checks root settings events reports)
    (shows_all : Shows checks root settings events report) :
    Reporting checks root settings events (reports ++ [report]) := by
  obtain ⟨prefixes, growing, within, shown⟩ := held
  refine ⟨prefixes ++ [events], ?_, ?_, ?_⟩
  · apply List.pairwise_append.mpr
    refine ⟨growing, List.pairwise_singleton _ _, fun seen member last lastMember => ?_⟩
    rw [List.mem_singleton.mp lastMember]
    exact within seen member
  · intro seen member
    rcases List.mem_append.mp member with earlier | last
    · exact within seen earlier
    · rw [List.mem_singleton.mp last]
  · exact List.rel_append shown (List.Forall₂.cons shows_all List.Forall₂.nil)

/-- Each report shows the statistics after a prefix. -/
theorem Reporting.seen_before {events : List Event} {reports : List Report} {report : Report}
    (held : Reporting checks root settings events reports) (member : report ∈ reports) :
    ∃ seen, seen <+: events ∧ Shows checks root settings seen report := by
  obtain ⟨prefixes, _, within, shown⟩ := held
  obtain ⟨length, each⟩ := List.forall₂_iff_get.mp shown
  obtain ⟨i, inside, rfl⟩ := List.mem_iff_getElem.mp member
  have start : i < prefixes.length := by rw [length]; exact inside
  exact ⟨prefixes[i], within _ (List.getElem_mem start), each i start inside⟩

/-- **Run.** The reports of a run show what it has taken. -/
theorem reporting_of_run {turns : List Turn} {state : MainLoop × List Event}
    (reached : (taking checks root settings schedule).run turns = .ok state) :
    Reporting checks root settings state.2 state.1.reports := by
  refine System.run_induction
    (motive := fun _ state => Reporting checks root settings state.2 state.1.reports)
    ⟨[], List.Pairwise.nil, fun _ member => absurd member List.not_mem_nil, List.Forall₂.nil⟩
    (fun turns before turn after ran held stepped => ?_) reached
  obtain ⟨moved, logged⟩ := System.observed_step_ok stepped
  have reached : (taking checks root settings schedule).run (turns ++ [turn]) = .ok after := by
    rw [System.run_concat, ran]
    exact stepped
  have refined := metering_of_run reached
  have kept := held.append (taken schedule before.1 turn)
  rw [← logged] at kept
  obtain ⟨loop, events⟩ := after
  cases turned_of_turnLoop moved with
  | quiet matching ended received => exact kept
  | reported matching received inTime due => exact kept.concat ⟨matching, refined, rfl⟩

/-! ## The verdict of the reports -/

/-- The first word of a warning. -/
def warning : List Char := "!! ".toList

/-- A final line does not warn. -/
theorem not_warning_finalLines (meter : Matching) {line : List Char}
    (member : line ∈ finalLines meter) : ¬ warning <+: line := by
  have final (i : Device) : ¬ warning <+: finalLine meter i := by
    have label (rest : List Char) : ¬ warning <+: finalLabel i ++ rest := by
      cases i with
      | zero => exact fun starts => absurd (List.cons_prefix_cons.mp starts).1 (by decide)
      | one => exact fun starts => absurd (List.cons_prefix_cons.mp starts).1 (by decide)
    unfold finalLine DirStats.format
    dsimp only
    split
    · exact label _
    · simp only [List.append_assoc]
      exact label _
  rcases List.mem_cons.mp member with rfl | direction
  · decide
  · obtain ⟨i, _, rfl⟩ := List.mem_map.mp direction
    exact final i

/-- A line of a report that warns is about a direction beyond the limit. -/
theorem overshoot_of_warning {meter : Matching} {line : List Char}
    (member : line ∈ statusLines settings meter) (warns : warning <+: line) :
    exitStatus settings meter = .overshoot := by
  obtain ⟨i, _, shown⟩ := List.mem_filterMap.mp member
  unfold statusLine at shown
  dsimp only at shown
  split at shown
  · cases shown
  · rename_i counting
    have some_match : (meter.statsPerDir i).n ≠ 0#64 := counting
    obtain rfl := Option.some.inj shown
    have beyond : settings.limitUs.toNat < (meter.statsPerDir i).maxAbsUs.toNat := by
      by_contra within
      unfold okText at warns
      rw [if_pos (Nat.le_of_not_lt within)] at warns
      exact absurd (List.cons_prefix_cons.mp warns).1 (by decide)
    unfold exitStatus
    rw [if_pos]
    apply List.any_eq_true.mpr
    exact ⟨i, Device.mem_all i, by simp [some_match, beyond]⟩

/-- What has gone beyond the limit stays beyond it. -/
theorem overshoot_of_prefix {seen events : List Event} {earlier meter : Matching}
    (growing : seen <+: events)
    (ran : (metering checks root settings).run seen = .ok earlier)
    (reached : (metering checks root settings).run events = .ok meter)
    (beyond : exitStatus settings earlier = .overshoot) : exitStatus settings meter = .overshoot := by
  obtain ⟨more, rfl⟩ := growing
  obtain ⟨log, whole⟩ := System.observed_of_run (matched checks settings) reached
  obtain ⟨⟨between, logged⟩, ran_before, part⟩ := System.log_prefix_of_append whole
  obtain rfl := Except.ok.inj ((System.run_of_observed ran_before).symm.trans ran)
  cases verdict : exitStatus settings meter with
  | overshoot => rfl
  | success =>
    have within := (exitStatus_eq_success_iff whole).mp verdict
    have passed : exitStatus settings between = .success :=
      (exitStatus_eq_success_iff ran_before).mpr
        fun entry member => within entry (part.subset member)
    rw [passed] at beyond
    cases beyond

/-- **The reports of a run.** In every run the loop of `main` is the matching loop over the
events it takes before its deadline, and its reports show the statistics after growing prefixes of
these. A run that exits with success has printed no warning. -/
theorem reports_of_run {turns : List Turn} {loop : MainLoop} {events : List Event}
    (reached : (taking checks root settings schedule).run turns = .ok (loop, events)) :
    (metering checks root settings).run events = .ok loop.matching ∧
      Reporting checks root settings events loop.reports ∧
      (exitStatus settings loop.matching = .success →
        ∀ line ∈ printedLines loop, ¬ warning <+: line) := by
  have refined := metering_of_run reached
  have reporting := reporting_of_run reached
  refine ⟨refined, reporting, fun passed line printed warns => ?_⟩
  rcases List.mem_append.mp printed with reported | final
  · obtain ⟨report, member, shown⟩ := List.mem_flatMap.mp reported
    obtain ⟨seen, part, meter, ran, lines⟩ := reporting.seen_before member
    rw [lines] at shown
    have beyond := overshoot_of_prefix part ran refined (overshoot_of_warning shown warns)
    rw [passed] at beyond
    cases beyond
  · exact not_warning_finalLines loop.matching final warns

/-- A run of a minute from the instant zero. -/
def oneMinute : Schedule := ⟨0, 60, 0⟩

/-- A pulse, the edge it causes and a wait in vain that reports them. -/
def oneMatch : List Turn :=
  [⟨10, .event (.tx .zero [] 0 1000000000), 20, 20⟩,
    ⟨30, .event (.rx .one [] 1000005000), 40, 40⟩,
    ⟨500000050, .timeout, 1000000060, 1000000070⟩]

/-- The report of the match does not warn. -/
theorem reports_of_run_one_match :
    ∃ loop, (taking .enabled exactRoot Settings.default oneMinute).run oneMatch =
        .ok (loop, [.tx .zero [] 0 1000000000, .rx .one [] 1000005000]) ∧
      loop.reports.length = 1 ∧ ∀ line ∈ printedLines loop, ¬ warning <+: line := by
  obtain ⟨⟨loop, events⟩, ran, same⟩ := exists_of_map_eq_ok (show
    ((taking .enabled exactRoot Settings.default oneMinute).run oneMatch).map
      (fun state => (state.2, state.1.reports.length,
        exitStatus Settings.default state.1.matching)) =
      .ok ([.tx .zero [] 0 1000000000, .rx .one [] 1000005000], 1, .success) by decide +kernel)
  obtain ⟨taken_events, same⟩ := Prod.mk.inj same
  obtain ⟨one, passed⟩ := Prod.mk.inj same
  obtain rfl : events = _ := taken_events
  exact ⟨loop, ran, one, (reports_of_run ran).2.2 passed⟩

/-! ## The pace of the reports -/

/-- The readings of the clock in a turn, in their order. -/
def Turn.readings (turn : Turn) : List Nat := [turn.now, turn.asked, turn.printed]

/-- The clock does not go back during these turns. -/
def Forward (schedule : Schedule) (turns : List Turn) : Prop :=
  (schedule.lastPrint :: turns.flatMap Turn.readings).Pairwise (· ≤ ·)

/-- The reports so far came at least a second apart. -/
structure Paced (schedule : Schedule) (turns : List Turn) (loop : MainLoop) : Prop where
  /-- The last print has been read from the clock. -/
  read : loop.lastPrint ∈ schedule.lastPrint :: turns.flatMap Turn.readings
  /-- It is the newest. -/
  newest : ∀ report ∈ loop.reports, report.printed ≤ loop.lastPrint
  /-- Every report is a second later than those before it. -/
  apart : loop.reports.Pairwise fun earlier later => earlier.printed + 1000000000 ≤ later.printed
  /-- Each of them took a whole second. -/
  room : loop.reports.length ≤ (loop.lastPrint - schedule.lastPrint) / 1000000000
  /-- The clock has not gone back. -/
  after : schedule.lastPrint ≤ loop.lastPrint
  /-- There are no more than seconds before the deadline. -/
  few : loop.reports.length ≤ schedule.seconds.toNat

/-- The reading that a turn begins with is not before the last print. -/
theorem Paced.lastPrint_le {turns : List Turn} {turn : Turn} {loop : MainLoop}
    (paced : Paced schedule turns loop) (forward : Forward schedule (turns ++ [turn])) :
    loop.lastPrint ≤ turn.now ∧ turn.asked ≤ turn.printed := by
  unfold Forward at forward
  rw [List.flatMap_append, ← List.cons_append] at forward
  obtain ⟨_, last, across⟩ := List.pairwise_append.mp forward
  constructor
  · exact across _ paced.read turn.now (by simp [Turn.readings])
  · simp only [List.flatMap_cons, List.flatMap_nil, List.append_nil, Turn.readings] at last
    exact List.rel_of_pairwise_cons (List.pairwise_cons.mp last).2 List.mem_cons_self

/-- **Run.** Under a clock that does not go back the reports of a run are paced. -/
theorem paced_of_run {turns : List Turn} {loop : MainLoop}
    (reached : (mainLoop checks root settings schedule).run turns = .ok loop)
    (later : schedule.started ≤ schedule.lastPrint) (forward : Forward schedule turns) :
    Paced schedule turns loop := by
  refine System.run_induction
    (motive := fun turns loop => Forward schedule turns → Paced schedule turns loop)
    (fun _ => ⟨List.mem_cons_self, fun _ member => absurd member List.not_mem_nil,
      List.Pairwise.nil, Nat.zero_le _, le_rfl, Nat.zero_le _⟩)
    (fun turns before turn after _ held stepped forward => ?_) reached forward
  have grown : schedule.lastPrint :: (turns ++ [turn]).flatMap Turn.readings =
      (schedule.lastPrint :: turns.flatMap Turn.readings) ++ turn.readings := by
    simp
  have paced := held (by
    unfold Forward at forward ⊢
    rw [grown] at forward
    exact (List.pairwise_append.mp forward).1)
  obtain ⟨head, ordered⟩ := paced.lastPrint_le forward
  have room := paced.room
  have since := paced.after
  cases turned_of_turnLoop stepped with
  | quiet matching ended received =>
    refine ⟨?_, paced.newest, paced.apart, room, since, paced.few⟩
    rw [grown]
    exact List.mem_append_left _ paced.read
  | reported matching received inTime due =>
    constructor
    · rw [grown]
      exact List.mem_append_right _ (by simp [Turn.readings])
    · intro report member
      rcases List.mem_append.mp member with earlier | now
      · have known := paced.newest report earlier
        dsimp only
        omega
      · rw [List.mem_singleton.mp now]
    · apply List.pairwise_append.mpr
      refine ⟨paced.apart, List.pairwise_singleton _ _, fun report member last lastMember => ?_⟩
      have known := paced.newest report member
      have latest : last.printed = turn.printed :=
        congrArg Report.printed (List.mem_singleton.mp lastMember)
      show report.printed + 1000000000 ≤ last.printed
      omega
    · rw [List.length_append, List.length_singleton]
      dsimp only
      omega
    · dsimp only
      omega
    · simp only [List.length_append, List.length_singleton]
      unfold Schedule.deadline at inTime
      omega

/-- A report has a line for each direction at most. -/
theorem length_statusLines_le (settings : Settings) (meter : Matching) :
    (statusLines settings meter).length ≤ 2 :=
  List.length_filterMap_le _ _

/-- **The pace of the reports.** Under a clock that does not go back every report of a run comes at
least a second after those before it, each prints at most two lines, and there are at most as many
reports as the run has seconds, and lines as twice that. -/
theorem reports_paced {turns : List Turn} {loop : MainLoop}
    (reached : (mainLoop checks root settings schedule).run turns = .ok loop)
    (later : schedule.started ≤ schedule.lastPrint) (forward : Forward schedule turns) :
    loop.reports.Pairwise (fun earlier later => earlier.printed + 1000000000 ≤ later.printed) ∧
      (∀ report ∈ loop.reports, report.lines.length ≤ 2) ∧
      loop.reports.length ≤ schedule.seconds.toNat ∧
      (loop.reports.flatMap Report.lines).length ≤ 2 * schedule.seconds.toNat := by
  have paced := paced_of_run reached later forward
  obtain ⟨events, taken⟩ := System.observed_of_run (taken schedule) reached
  have each : ∀ report ∈ loop.reports, report.lines.length ≤ 2 := by
    intro report member
    obtain ⟨seen, _, meter, _, lines⟩ := (reporting_of_run taken).seen_before member
    rw [lines]
    exact length_statusLines_le settings meter
  refine ⟨paced.apart, each, paced.few, ?_⟩
  calc (loop.reports.flatMap Report.lines).length
    _ = (loop.reports.map fun report => report.lines.length).sum := List.length_flatMap
    _ ≤ (loop.reports.map fun _ => 2).sum := List.sum_le_sum each
    _ = 2 * loop.reports.length := by simp [Nat.mul_comm]
    _ ≤ 2 * schedule.seconds.toNat := Nat.mul_le_mul_left 2 paced.few

/-- The one report of a minute in which nothing else happens is no more than sixty. -/
theorem reports_paced_one_match :
    ∃ loop, (mainLoop .enabled exactRoot Settings.default oneMinute).run oneMatch = .ok loop ∧
      loop.reports.length = 1 ∧ (loop.reports.flatMap Report.lines).length ≤ 2 * 60 := by
  obtain ⟨loop, ran, one⟩ := exists_of_map_eq_ok (show
    ((mainLoop .enabled exactRoot Settings.default oneMinute).run oneMatch).map
      (fun loop => loop.reports.length) = .ok 1 by decide +kernel)
  have forward : Forward oneMinute oneMatch := by
    unfold Forward
    decide
  exact ⟨loop, ran, one, (reports_paced ran le_rfl forward).2.2.2⟩

end Meter

end EspClockSync
