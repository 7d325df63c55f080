import EspClockSync.Meter.Matching

/-!
# The loop of the skew meter against the clock

The loop takes events until its deadline, waiting for each at most half a second. After an edge
that it searched for, and after every wait in vain, it reports both directions unless the last
report is less than a second old. After the loop the final lines and the exit status say how the
run went. Instants are nanoseconds, and the deadline is one that the clock has.
-/

namespace EspClockSync

open Machine

namespace Meter

/-- What `recv_timeout` returns. -/
inductive Arrival where
  /-- An event. -/
  | event (event : Event)
  /-- Nothing came in time. -/
  | timeout
  /-- All reader threads are gone. -/
  | disconnected

/-- One turn of the loop: what arrives, and what the clock reads at the head of the loop and
in `maybe_print_stats`. -/
structure Turn where
  /-- `Instant::now()` in the condition of the loop. -/
  now : Nat
  /-- What is received. -/
  arrival : Arrival
  /-- The reading in `last.elapsed()`. -/
  asked : Nat
  /-- The reading that becomes `*last`. -/
  printed : Nat

/-- The readings before the loop and the length of the run. -/
structure Schedule where
  /-- The reading that the deadline counts from. -/
  started : Nat
  /-- `--seconds`. -/
  seconds : U64
  /-- The first value of `last_print`. -/
  lastPrint : Nat

/-- `deadline`. -/
def Schedule.deadline (schedule : Schedule) : Nat :=
  schedule.started + schedule.seconds.toNat * 1000000000

/-! ## Lines -/

/-- A number with its sign: `{:+}`. -/
def signedDecimal (value : Int) : List Char :=
  (if value < 0 then '-' else '+') :: decimal value.natAbs

/-- `DirStats::format`. -/
def DirStats.format (stats : DirStats) (label : List Char) : List Char :=
  label ++ "  n=".toList ++ (decimal stats.n.toNat).leftpad 5 ' ' ++
    "  mean=".toList ++ (signedDecimal stats.meanUs).leftpad 6 ' ' ++ "µs".toList ++
    "  stddev=".toList ++ (decimal stats.stddevUs.toNat).leftpad 5 ' ' ++ "µs".toList ++
    "  p99=".toList ++ (decimal stats.p99AbsUs.toNat).leftpad 5 ' ' ++ "µs".toList ++
    "  max|Δ|=".toList ++ (decimal stats.maxAbsUs.toNat).leftpad 5 ' ' ++ "µs".toList

/-- The label of a direction in a report. -/
def shortLabel : Device → List Char
  | .zero => "0→1".toList
  | .one => "1→0".toList

/-- The label of a direction in the final lines. -/
def finalLabel : Device → List Char
  | .zero => "device 0 → device 1".toList
  | .one => "device 1 → device 0".toList

/-- The first word of a line of a report. -/
def okText (settings : Settings) (stats : DirStats) : List Char :=
  if stats.maxAbsUs.toNat ≤ settings.limitUs.toNat then "OK ".toList else "!! ".toList

/-- The line of a report for a direction, which has none before its first match. -/
def statusLine (settings : Settings) (meter : Matching) (i : Device) : Option (List Char) :=
  let s := meter.statsPerDir i
  if s.n = 0 then none
  else some (okText settings s ++ ' ' :: s.format (shortLabel i))

/-- The lines of a report. -/
def statusLines (settings : Settings) (meter : Matching) : List (List Char) :=
  Device.all.filterMap (statusLine settings meter)

/-- The final line of a direction. -/
def finalLine (meter : Matching) (i : Device) : List Char :=
  let stats := meter.statsPerDir i
  if stats.n = 0 then finalLabel i ++ ": no matched events".toList
  else stats.format (finalLabel i)

/-- What `main` prints after the loop. -/
def finalLines (meter : Matching) : List (List Char) :=
  "\n=== final ===".toList :: Device.all.map (finalLine meter)

/-! ## The loop -/

/-- A report of `maybe_print_stats`. -/
structure Report where
  /-- The instant it leaves as the last print. -/
  printed : Nat
  /-- Its lines. -/
  lines : List (List Char)

/-- The variables of `main` in the loop, and what it has printed. -/
structure MainLoop where
  /-- The histories and statistics. -/
  matching : Matching
  /-- `last_print`. -/
  lastPrint : Nat
  /-- The reports printed so far. -/
  reports : List Report
  /-- Whether the loop has ended. -/
  ended : Bool

/-- `maybe_print_stats`. -/
def maybePrintStats (settings : Settings) (turn : Turn) (loop : MainLoop) : MainLoop :=
  if turn.asked - loop.lastPrint < 1000000000 then loop
  else { loop with
    lastPrint := turn.printed
    reports := loop.reports ++ [⟨turn.printed, statusLines settings loop.matching⟩] }

/-- Whether an event goes on to `maybe_print_stats`: an edge does that has a history to be
searched for in. -/
def asksToPrint (meter : Matching) : Event → Bool
  | .tx _ _ _ _ => false
  | .rx device _ _ => !(meter.txHistory device.other).isEmpty

/-- The body of the loop for what it receives. -/
def takeArrival (checks : OverflowChecks) (root : U128 → U64) (settings : Settings)
    (loop : MainLoop) (turn : Turn) : Arrival → Checked MainLoop
  | .timeout => .ok (maybePrintStats settings turn loop)
  | .disconnected => .ok { loop with ended := true }
  | .event event => do
    let matching ← receive checks root settings loop.matching event
    let taken := { loop with matching := matching }
    .ok (if asksToPrint loop.matching event then maybePrintStats settings turn taken else taken)

/-- One turn of the loop, which ends at its deadline. -/
def turnLoop (checks : OverflowChecks) (root : U128 → U64) (settings : Settings)
    (schedule : Schedule) (loop : MainLoop) (turn : Turn) : Checked MainLoop :=
  if loop.ended then .ok loop
  else if turn.now < schedule.deadline then
    takeArrival checks root settings loop turn turn.arrival
  else .ok { loop with ended := true }

/-- The loop of `main` with its clock. -/
def mainLoop (checks : OverflowChecks) (root : U128 → U64) (settings : Settings)
    (schedule : Schedule) : System MainLoop Turn Panic where
  start := ⟨Matching.initial, schedule.lastPrint, [], false⟩
  step := turnLoop checks root settings schedule

/-- All lines of a run. -/
def printedLines (loop : MainLoop) : List (List Char) :=
  loop.reports.flatMap Report.lines ++ finalLines loop.matching

end Meter

end EspClockSync
