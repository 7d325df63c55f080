import EspClockSync.Meter.Line
import EspClockSync.Rig.Report

/-!
# Printed lines and read events

The firmware and the meter share no code, but every line of a pulse or an edge that the
one prints is read by the other with the printed values, and an edge without a time is
dropped.
-/

namespace EspClockSync

open Machine

namespace Rig

/-- A text without whitespace. -/
def Unbroken (text : List Char) : Prop := ∀ c ∈ text, isWhitespace c = false

instance (text : List Char) : Decidable (Unbroken text) :=
  List.decidableBAll (fun c => isWhitespace c = false) text

/-- A field of unbroken parts is one word. -/
theorem field_unbroken {key : String} {value : List Char} (keyClean : Unbroken key.toList)
    (valueClean : Unbroken value) : Unbroken (field key value) := by
  intro c member
  rcases List.mem_append.mp member with inKey | inRest
  · exact keyClean c inKey
  · rcases List.mem_cons.mp inRest with rfl | inValue
    · decide
    · exact valueClean c inValue

/-- A MAC is printed without whitespace. -/
theorem macText_unbroken (mac : Mac) : Unbroken (macText mac) := by
  intro c member
  simp only [macText, List.mem_append, List.mem_cons] at member
  rcases member with first | rfl | second | rfl | third
  · exact not_isWhitespace_hexByte _ c first
  · decide
  · exact not_isWhitespace_hexByte _ c second
  · decide
  · exact not_isWhitespace_hexByte _ c third

/-- So is a time, absent or not. -/
theorem syncedText_unbroken (syncedNs : Option U128) : Unbroken (syncedText syncedNs) := by
  cases syncedNs with
  | none => decide
  | some ns => exact not_isWhitespace_decimal _

/-- A field is never empty. -/
theorem field_ne_nil (key : String) (value : List Char) : field key value ≠ [] := by
  simp [field]

/-- A field and a space begin a text of fields. -/
theorem splitWhitespace_field {key : String} {value rest : List Char}
    (keyClean : Unbroken key.toList) (valueClean : Unbroken value) :
    splitWhitespace (field key value ++ ' ' :: rest) = field key value :: splitWhitespace rest :=
  wordsFrom_append [] (field_unbroken keyClean valueClean) (field_ne_nil key value)

/-- A field ends a text of fields. -/
theorem splitWhitespace_last {key : String} {value : List Char} (keyClean : Unbroken key.toList)
    (valueClean : Unbroken value) : splitWhitespace (field key value) = [field key value] :=
  wordsFrom_last [] (field_unbroken keyClean valueClean) (field_ne_nil key value)

end Rig

namespace Meter

open Rig

/-- The loop takes a field whose key has no `=`. -/
theorem readFields_field {take : Fields → List Char → List Char → Fields} (fields : Fields)
    {key : String} {value : List Char} {rest : List (List Char)} (clean : '=' ∉ key.toList) :
    readFields take fields (field key value :: rest) =
      readFields take (take fields key.toList value) rest := by
  rw [readFields, field, splitOnce_append clean]
  rfl

/-- A printed pulse is read with its MAC, sequence number and time. -/
theorem parseLine_pulseTxLine (device : Device) (mac : Mac) (seq : U32) (syncedNs targetNs : U128)
    (capUs : U64) :
    parseLine device (pulseTxLine mac seq syncedNs targetNs capUs) =
      some (.tx device (macText mac) seq syncedNs) := by
  unfold parseLine pulseTxLine
  rw [List.append_assoc, stripPrefix_append]
  simp only
  rw [splitWhitespace_field (by decide) (macText_unbroken mac),
    splitWhitespace_field (by decide) (not_isWhitespace_decimal _),
    splitWhitespace_field (by decide) (not_isWhitespace_decimal _),
    splitWhitespace_field (by decide) (not_isWhitespace_decimal _),
    splitWhitespace_last (by decide) (not_isWhitespace_decimal _),
    readFields_field _ (by decide), readFields_field _ (by decide), readFields_field _ (by decide),
    readFields_field _ (by decide), readFields_field _ (by decide)]
  simp [readFields, txField, Fields.none, parseUnsigned_decimal]

/-- A printed edge is read with its MAC and time, and without a time it is dropped. -/
theorem parseLine_pulseRxLine (device : Device) {port : List Char} (clean : Unbroken port)
    (mac : Mac) (syncedNs : Option U128) (capUs : U64) :
    parseLine device (pulseRxLine port mac syncedNs capUs) =
      syncedNs.map fun ns => .rx device (macText mac) ns := by
  have other : stripPrefix "pulse_tx ".toList (pulseRxLine port mac syncedNs capUs) = none := by
    unfold pulseRxLine
    rw [List.append_assoc]
    exact stripPrefix_append_none _ (by decide) (by decide)
  unfold parseLine
  rw [other]
  simp only
  unfold pulseRxLine
  rw [List.append_assoc, stripPrefix_append]
  simp only
  rw [splitWhitespace_field (by decide) clean,
    splitWhitespace_field (by decide) (macText_unbroken mac),
    splitWhitespace_field (by decide) (syncedText_unbroken syncedNs),
    splitWhitespace_last (by decide) (not_isWhitespace_decimal _),
    readFields_field _ (by decide), readFields_field _ (by decide), readFields_field _ (by decide),
    readFields_field _ (by decide)]
  cases syncedNs with
  | none => simp [readFields, rxField, Fields.none, syncedText]
  | some ns =>
    have timed : decimal ns.toNat ≠ ['N', 'O', 'N', 'E'] := fun same =>
      absurd (isDigit_of_mem_decimal (same ▸ List.mem_cons_self)) (by decide)
    simp [readFields, rxField, Fields.none, syncedText, parseUnsigned_decimal, timed]

/-- **The meter reads what the firmware prints.** For all values and every label without
whitespace or `=`, a printed pulse is read with its device, MAC, sequence number and time,
a printed edge with its device, MAC and time, and an edge without a time is dropped. -/
theorem firmware_lines_read_back (device : Device) (mac : Mac) (seq : U32)
    (syncedNs targetNs : U128) (capUs : U64) {port : List Char}
    (clean : ∀ c ∈ port, isWhitespace c = false ∧ c ≠ '=') :
    parseLine device (pulseTxLine mac seq syncedNs targetNs capUs) =
      some (.tx device (macText mac) seq syncedNs) ∧
    parseLine device (pulseRxLine port mac (some syncedNs) capUs) =
      some (.rx device (macText mac) syncedNs) ∧
    parseLine device (pulseRxLine port mac none capUs) = none := by
  have label : Unbroken port := fun c member => (clean c member).1
  refine ⟨parseLine_pulseTxLine device mac seq syncedNs targetNs capUs, ?_, ?_⟩
  · rw [parseLine_pulseRxLine device label]
    rfl
  · rw [parseLine_pulseRxLine device label]
    rfl

/-- The lines of a board with the largest time. -/
theorem firmware_lines_read_back_d34 :
    parseLine .one (pulseTxLine (0, 10, 255) 7 (BitVec.allOnes 128) 0 12) =
      some (.tx .one (macText (0, 10, 255)) 7 (BitVec.allOnes 128)) ∧
    parseLine .one (pulseRxLine "D34".toList (0, 10, 255) (some (BitVec.allOnes 128)) 12) =
      some (.rx .one (macText (0, 10, 255)) (BitVec.allOnes 128)) ∧
    parseLine .one (pulseRxLine "D34".toList (0, 10, 255) none 12) = none := by
  refine firmware_lines_read_back .one (0, 10, 255) 7 (BitVec.allOnes 128) 0 12 ?_
  intro c member
  have label : c = 'D' ∨ c = '3' ∨ c = '4' := by simpa using member
  rcases label with rfl | rfl | rfl
  · decide
  · decide
  · decide

end Meter

end EspClockSync
