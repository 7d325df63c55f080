import EspClockSync.Machine.System
import EspClockSync.Meter.Line
import EspClockSync.Meter.Stats

/-!
# The matching loop of the skew meter

The loop takes the events of both boards in the order in which the reader threads
delivered them. A pulse joins the history of its board, from which old pulses fall out;
an edge is matched once, against the history of the other board as it stands.
-/

namespace EspClockSync

open Machine

namespace Meter

/-- The options of the command line that decide matches and verdict. -/
structure Settings where
  /-- `--limit-us`. -/
  limitUs : U64
  /-- `--match-window-ms`. -/
  matchWindowMs : U64

namespace Settings

/-- The values of options that are not given. -/
def default : Settings := ⟨100, 50⟩

/-- `match_window_ns`. -/
def matchWindowNs (settings : Settings) : Nat := settings.matchWindowMs.toNat * 1000000

end Settings

/-- The variables of the loop. -/
structure Matching where
  /-- `tx_history`: the times of the pulses kept for each board, oldest first. -/
  txHistory : Device → List U128
  /-- `stats_per_dir`, by the board that sent the pulse. -/
  statsPerDir : Device → DirStats

/-- No event has arrived. -/
def Matching.initial : Matching := ⟨fun _ => [], fun _ => DirStats.default⟩

/-- The history of a board after one more pulse. -/
def pushTx (settings : Settings) (history : List U128) (syncedNs : U128) : List U128 :=
  let cutoffSyncedNs := syncedNs.toNat - settings.matchWindowNs * 4
  (history ++ [syncedNs]).dropWhile fun kept => kept.toNat < cutoffSyncedNs

/-- The search for the pulse of least distance, after the best one so far. -/
def search (checks : OverflowChecks) (settings : Settings) (rxSync : U128) :
    Option Int → List U128 → Checked (Option Int)
  | best, [] => .ok best
  | best, syncedNs :: rest => do
    let d ← checks.i128 (rxSync.toInt - syncedNs.toInt)
    let closer := d.natAbs ≤ settings.matchWindowNs ∧ ∀ b ∈ best, d.natAbs < b.natAbs
    search checks settings rxSync (if closer then some d else best) rest

/-- `direction_idx`. -/
def directionIdx (txDev : Device) : Device := txDev

/-- What the search finds for an edge: nothing while the other board has sent nothing. -/
def nearestTx (checks : OverflowChecks) (settings : Settings) (rxSync : U128)
    (history : List U128) : Checked (Option Int) :=
  if history.isEmpty then .ok none else search checks settings rxSync none history

/-- One event in the loop of `main`. -/
def receive (checks : OverflowChecks) (root : U128 → U64) (settings : Settings) (meter : Matching) :
    Event → Checked Matching
  | .tx device _ _ syncedNs =>
    .ok { meter with
      txHistory := Function.update meter.txHistory device
        (pushTx settings (meter.txHistory device) syncedNs) }
  | .rx device _ syncedNs => do
    let other := device.other
    match ← nearestTx checks settings syncedNs (meter.txHistory other) with
    | none => .ok meter
    | some deltaNs => do
      let dir := directionIdx other
      let stats ← (meter.statsPerDir dir).record checks root deltaNs
      .ok { meter with statsPerDir := Function.update meter.statsPerDir dir stats }

/-- The loop of `main` over the events that arrive before its deadline. -/
def metering (checks : OverflowChecks) (root : U128 → U64) (settings : Settings) :
    System Matching Event Panic where
  start := Matching.initial
  step := receive checks root settings

/-- A line of a board, read by its reader thread and received by the loop. -/
def receiveLine (checks : OverflowChecks) (root : U128 → U64) (settings : Settings)
    (meter : Matching) (device : Device) (line : List Char) : Checked Matching :=
  match parseLine device line with
  | some event => receive checks root settings meter event
  | none => .ok meter

/-- How the program exits. -/
inductive ExitStatus where
  /-- With zero. -/
  | success
  /-- With two. -/
  | overshoot
  deriving DecidableEq

/-- The verdict after the loop. -/
def exitStatus (settings : Settings) (meter : Matching) : ExitStatus :=
  let overshoot := Device.all.any fun i =>
    (meter.statsPerDir i).n != 0 && settings.limitUs.toNat < (meter.statsPerDir i).maxAbsUs.toNat
  if overshoot then .overshoot else .success

end Meter

end EspClockSync
