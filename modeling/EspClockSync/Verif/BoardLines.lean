import EspClockSync.Verif.PulseTicks
import EspClockSync.Verif.ReaderLines

/-!
# From the board to the meter

Everything a board prints is whole lines, and nothing is read from those that are not about a
pulse or an edge. So the thread of the meter that reads its port sends events of its pulses and
edges only, whatever the port times out: in their order, with the MAC of the board and under
the index of the port. A line lost shows as a number left out.
-/

namespace EspClockSync

open Machine Meter

namespace Rig

variable {channel : Channel SnifferEvent} {checks : OverflowChecks} {mac : Mac}

/-- The event that stands for a line of a board. -/
def FirmwareLine.event (device : Device) : FirmwareLine → Option Event
  | .pulseTx mac seq syncedNs _ _ => some (.tx device (macText mac) seq syncedNs)
  | .pulseRx _ mac syncedNs _ => syncedNs.map fun ns => .rx device (macText mac) ns
  | .other _ => none

/-- A line as a board with this MAC prints it. -/
inductive FirmwareLine.Printed (mac : Mac) : FirmwareLine → Prop where
  /-- A pulse. -/
  | pulse (seq : U32) (syncedNs targetNs : U128) (capUs : U64) :
      Printed mac (.pulseTx mac seq syncedNs targetNs capUs)
  /-- An edge. -/
  | edge (port : Port) (syncedNs : Option U128) (capUs : U64) :
      Printed mac (.pulseRx port mac syncedNs capUs)
  /-- Another line. -/
  | other (line : OtherLine) (unread : Unread line.text) : Printed mac (.other line)

/-- Nothing is read from the line before the pulses, although it begins like one. -/
theorem unread_converged : Unread OtherLine.converged.text where
  tails := by
    intro tail device part
    have each : ∀ tail ∈ OtherLine.converged.text.tails, Meter.parseLine device tail = none := by
      cases device with
      | zero => decide
      | one => decide
    exact each tail ((List.mem_tails _ _).mpr part)
  feed := by decide
  carriage := by decide

/-- Fields of numbers in base sixteen are quiet. -/
theorem quiet_of_mem_zip {labels : List String} (names : ∀ label ∈ labels, Quiet label.toList)
    {registers : List U32} {entry : String × List Char}
    (member : entry ∈ labels.zip (registers.map fun register => hexNumeral register.toNat)) :
    Quiet entry.1.toList ∧ Quiet entry.2 := by
  obtain ⟨name, value⟩ := List.of_mem_zip member
  obtain ⟨register, _, same⟩ := List.mem_map.mp value
  exact ⟨names _ name, same ▸ quiet_hexNumeral _⟩

/-- **The other lines.** Nothing is read from a line of the firmware that is not about a pulse or
an edge, nor from a tail of it, whatever values it shows. -/
theorem OtherLine.unread (line : OtherLine) (own : ∀ text, line ≠ .logged text) :
    Unread line.text := by
  have number : ∀ value : Nat, Quiet (decimal value) := quiet_decimal
  cases line with
  | booted mac =>
    have bytes : Quiet ([':'].intercalate (mac.toList.map hexByte)) :=
      quiet_intercalate (List.forall_mem_map.mpr fun byte _ => quiet_hexByte byte)
    have line : Quiet ("=== clock-sync-test boot,".toList ++
        fieldsText [("mac", [':'].intercalate (mac.toList.map hexByte))]) :=
      .fields (by decide) (List.forall_mem_singleton.mpr ⟨show Quiet "mac".toList by decide, bytes⟩)
    have closing : Quiet "===".toList := by decide
    exact (line.word closing).unread
  | configured => exact Quiet.unread (by decide +kernel)
  | calibrated cap0 instant0 dCap dInstant usPerTickInstantQ32 =>
    apply Quiet.unread
    apply Quiet.fields (by decide)
    simp only [List.forall_mem_cons, number, and_true]
    decide
  | anchored t0 q32 =>
    apply Quiet.unread
    have remark : Quiet "(hard-coded 80:1)".toList := by decide
    refine Quiet.word (.fields (by decide) ?_) remark
    simp only [List.forall_mem_cons, number, and_true]
    decide
  | initialised => exact Quiet.unread (by decide)
  | converged => exact unread_converged
  | stats quality framesSeen framesMatched samplesDropped =>
    apply Quiet.unread
    apply Quiet.fields (by decide)
    simp only [List.forall_mem_cons, number, quiet_decimalInt,
      and_true]
    decide
  | mcpwmDump registers ch0Hits ch1Hits =>
    apply Quiet.unread
    refine Quiet.fields (.fields (by decide) fun entry => quiet_of_mem_zip (by decide)) ?_
    simp only [List.forall_mem_cons, number, and_true]
    decide
  | connected => exact Quiet.unread (by decide)
  | logged text => exact absurd rfl (own text)

/-- Every printed line is whole. -/
theorem FirmwareLine.Printed.whole {line : FirmwareLine} (printed : line.Printed mac) :
    Whole line.text := by
  cases printed with
  | pulse seq syncedNs targetNs capUs => exact whole_pulseTxLine mac seq syncedNs targetNs capUs
  | edge port syncedNs capUs => exact whole_pulseRxLine port mac syncedNs capUs
  | other line unread => exact unread.whole

/-- The meter reads the event of every printed line. -/
theorem FirmwareLine.Printed.parseLine {line : FirmwareLine} (printed : line.Printed mac)
    (device : Device) : Meter.parseLine device line.text = line.event device := by
  cases printed with
  | pulse seq syncedNs targetNs capUs =>
    exact parseLine_pulseTxLine device mac seq syncedNs targetNs capUs
  | edge port syncedNs capUs =>
    have clean : Unbroken port.label := by
      cases port with
      | d5 => decide
      | d34 => decide
    exact parseLine_pulseRxLine device clean mac syncedNs capUs
  | other line unread => exact unread.tails _ device List.suffix_rfl

/-- Every step prints such lines only, where what packages log is unread. -/
theorem Board.Stepped.printed {before after : Board channel} {action : BoardAction}
    (held : ∀ line ∈ before.printed, line.Printed mac)
    (logs : ∀ text, action = .print (.logged text) → Unread text)
    (stepped : before.Stepped checks mac action after) :
    ∀ line ∈ after.printed, line.Printed mac := by
  cases stepped with
  | noted line =>
    have unread : Unread line.text := by
      cases line with
      | logged text => exact logs text rfl
      | _ => exact OtherLine.unread _ fun _ => by simp
    exact List.forall_mem_append.mpr ⟨held, List.forall_mem_singleton.mpr (.other line unread)⟩
  | converged =>
    exact List.forall_mem_append.mpr
      ⟨held, List.forall_mem_singleton.mpr (.other .converged unread_converged)⟩
  | told nowUs cap tick edgeCap actualSyncedNs =>
    exact List.forall_mem_append.mpr ⟨held, List.forall_mem_singleton.mpr (.pulse ..)⟩
  | logged nowUs raw port capUs syncedNs =>
    exact List.forall_mem_append.mpr ⟨held, List.forall_mem_singleton.mpr (.edge ..)⟩
  | _ => exact held

end Rig

end EspClockSync
