import EspClockSync.Machine.Checked
import EspClockSync.Machine.Text

/-!
# The lines that the skew meter reads

The meter takes a line by its first word and its fields by their keys, in any order;
keys it does not know are skipped.
-/

namespace EspClockSync

open Machine

namespace Meter

/-- One of the two boards, by the index of its serial port. -/
inductive Device where
  /-- The board at the first port. -/
  | zero
  /-- The board at the second port. -/
  | one
  deriving DecidableEq

/-- `1 - rx_dev`. -/
def Device.other : Device → Device
  | .zero => .one
  | .one => .zero

@[simp] theorem Device.other_other (device : Device) : device.other.other = device := by
  cases device with
  | zero => rfl
  | one => rfl

theorem Device.other_ne (device : Device) : device.other ≠ device := by
  cases device with
  | zero => decide
  | one => decide

/-- There are two boards. -/
theorem Device.eq_other_of_ne {device board : Device} (different : board ≠ device) :
    board = device.other := by
  cases board with
  | zero =>
    cases device with
    | zero => exact absurd rfl different
    | one => rfl
  | one =>
    cases device with
    | zero => rfl
    | one => exact absurd rfl different

/-- The indices of both boards, in order. -/
def Device.all : List Device := [.zero, .one]

/-- There are no others. -/
theorem Device.mem_all (device : Device) : device ∈ Device.all := by
  cases device with
  | zero => decide
  | one => decide

/-- An event the meter has read. -/
inductive Event where
  /-- `Event::Tx`. -/
  | tx (device : Device) (mac : List Char) (seq : U32) (syncedNs : U128)
  /-- `Event::Rx`. -/
  | rx (device : Device) (mac : List Char) (syncedNs : U128)
  deriving DecidableEq

/-- The fields of a line read so far. -/
structure Fields where
  /-- The value of `mac`. -/
  mac : Option (List Char)
  /-- The value of `seq`. -/
  seq : Option U32
  /-- The value of `synced_ns`. -/
  syncedNs : Option U128

/-- No field has been read. -/
def Fields.none : Fields := ⟨.none, .none, .none⟩

/-- One `key=value` of a `pulse_tx` line. -/
def txField (fields : Fields) (key value : List Char) : Fields :=
  if key = "mac".toList then { fields with mac := some value }
  else if key = "seq".toList then { fields with seq := parseUnsigned 32 value }
  else if key = "synced_ns".toList then { fields with syncedNs := parseUnsigned 128 value }
  else fields

/-- One `key=value` of a `pulse_rx` line. -/
def rxField (fields : Fields) (key value : List Char) : Fields :=
  if key = "mac".toList then { fields with mac := some value }
  else if key = "synced_ns".toList ∧ value ≠ "NONE".toList then
    { fields with syncedNs := parseUnsigned 128 value }
  else fields

/-- The loop over the words of a line, which gives up at a word without `=`. -/
def readFields (take : Fields → List Char → List Char → Fields) :
    Fields → List (List Char) → Option Fields
  | fields, [] => some fields
  | fields, kv :: rest => do
    let (key, value) ← splitOnce '=' kv
    readFields take (take fields key value) rest

/-- `parse_line`. -/
def parseLine (device : Device) (line : List Char) : Option Event :=
  match stripPrefix "pulse_tx ".toList line with
  | some rest => do
    let fields ← readFields txField .none (splitWhitespace rest)
    some (.tx device (← fields.mac) (← fields.seq) (← fields.syncedNs))
  | none =>
    match stripPrefix "pulse_rx ".toList line with
    | some rest => do
      let fields ← readFields rxField .none (splitWhitespace rest)
      some (.rx device (← fields.mac) (← fields.syncedNs))
    | none => none

end Meter

end EspClockSync
