import EspClockSync.Meter.Reader
import EspClockSync.Verif.LineRoundTrip

/-!
# Lines through the reader threads

A timeout in the middle of a line costs that line and nothing else: what is left of a line of
the firmware is never read as an event. So whatever the timing of a port, its thread sends
events of the lines that were printed, in their order; and a port that times out only between
lines loses none.
-/

namespace EspClockSync

open Machine

/-! ## Tails of printed lines -/

/-- Two characters of which the first does not occur never follow each other. -/
theorem not_infix_of_not_mem {first second : Char} {text : List Char} (absent : first ∉ text) :
    ¬ [first, second] <:+: text := fun inside => absent (inside.subset List.mem_cons_self)

/-- Two characters are apart in a text when they are on both sides of another one. -/
theorem not_infix_append_cons {first second between : Char} {text more : List Char}
    (apart : ¬ [first, second] <:+: text) (later : ¬ [first, second] <:+: more)
    (notFirst : between ≠ first) (notSecond : between ≠ second) :
    ¬ [first, second] <:+: text ++ between :: more := by
  induction text with
  | nil =>
    intro inside
    rcases List.infix_cons_iff.mp inside with starts | rest
    · exact notFirst (List.cons_prefix_cons.mp starts).1.symm
    · exact later rest
  | cons c text ih =>
    intro inside
    rcases List.infix_cons_iff.mp inside with starts | rest
    · obtain ⟨rfl, next⟩ := List.cons_prefix_cons.mp starts
      cases text with
      | nil => exact notSecond (List.cons_prefix_cons.mp next).1.symm
      | cons d text =>
        obtain ⟨rfl, _⟩ := List.cons_prefix_cons.mp next
        exact apart (List.IsPrefix.isInfix ⟨text, rfl⟩)
    · exact ih (fun found => apart (found.trans (List.suffix_cons c text).isInfix)) rest

/-- A text begins with what was stripped of it. -/
theorem prefix_of_stripPrefix {start text rest : List Char}
    (stripped : stripPrefix start text = some rest) : start <+: text := by
  induction start generalizing text with
  | nil => exact List.nil_prefix
  | cons c start ih =>
    cases text with
    | nil => contradiction
    | cons d text =>
      rw [stripPrefix] at stripped
      split at stripped
      · rename_i same
        exact List.cons_prefix_cons.mpr ⟨same, ih stripped⟩
      · contradiction

namespace Meter

open Rig

/-- An event begins with the two letters of its first word. -/
theorem parseLine_of_not_prefix (device : Device) {text : List Char}
    (other : ¬ ['p', 'u'] <+: text) : parseLine device text = none := by
  have tx : stripPrefix "pulse_tx ".toList text = none := by
    cases stripped : stripPrefix "pulse_tx ".toList text with
    | none => rfl
    | some rest =>
      have starts : ['p', 'u'] <+: "pulse_tx ".toList := by decide
      exact absurd (starts.trans (prefix_of_stripPrefix stripped)) other
  have rx : stripPrefix "pulse_rx ".toList text = none := by
    cases stripped : stripPrefix "pulse_rx ".toList text with
    | none => rfl
    | some rest =>
      have starts : ['p', 'u'] <+: "pulse_rx ".toList := by decide
      exact absurd (starts.trans (prefix_of_stripPrefix stripped)) other
  unfold parseLine
  rw [tx]
  dsimp only
  rw [rx]

/-- A line of which no proper tail is read as an event, and which is one line. -/
structure Whole (text : List Char) : Prop where
  /-- Nothing is read from a proper tail. -/
  tails : ∀ tail device, tail <:+ text → tail ≠ text → parseLine device tail = none
  /-- It has no line feed. -/
  feed : '\n' ∉ text
  /-- Nor a carriage return. -/
  carriage : '\r' ∉ text

/-- A line of which nothing is read, from the whole or from a tail. -/
structure Unread (text : List Char) : Prop where
  /-- No tail is an event. -/
  tails : ∀ tail device, tail <:+ text → parseLine device tail = none
  /-- It has no line feed. -/
  feed : '\n' ∉ text
  /-- Nor a carriage return. -/
  carriage : '\r' ∉ text

/-- Such a line is whole. -/
theorem Unread.whole {text : List Char} (unread : Unread text) : Whole text where
  tails := fun tail device part _ => unread.tails tail device part
  feed := unread.feed
  carriage := unread.carriage

/-! ## Quiet texts -/

/-- A text without the two letters together, on one line. -/
structure Quiet (text : List Char) : Prop where
  /-- The letters are apart. -/
  apart : ¬ ['p', 'u'] <:+: text
  /-- It has no line feed. -/
  feed : '\n' ∉ text
  /-- Nor a carriage return. -/
  carriage : '\r' ∉ text

instance (text : List Char) : Decidable (Quiet text) :=
  decidable_of_iff (¬ ['p', 'u'] <:+: text ∧ '\n' ∉ text ∧ '\r' ∉ text)
    ⟨fun quiet => ⟨quiet.1, quiet.2.1, quiet.2.2⟩,
      fun quiet => ⟨quiet.apart, quiet.feed, quiet.carriage⟩⟩

/-- Nothing is read from a quiet text. -/
theorem Quiet.unread {text : List Char} (quiet : Quiet text) : Unread text where
  tails := fun _ device part => parseLine_of_not_prefix device fun starts =>
    quiet.apart (starts.isInfix.trans part.isInfix)
  feed := quiet.feed
  carriage := quiet.carriage

/-- A line is whole when only its first letter is in the way of quiet. -/
theorem Quiet.whole_cons {c : Char} {text : List Char} (quiet : Quiet text)
    (inLine : c ∉ ['\n', '\r']) : Whole (c :: text) where
  tails := by
    intro tail device part proper
    rcases List.suffix_cons_iff.mp part with same | inside
    · exact absurd same proper
    · exact quiet.unread.tails tail device inside
  feed := by
    intro member
    rcases List.mem_cons.mp member with rfl | later
    · exact inLine List.mem_cons_self
    · exact quiet.feed later
  carriage := by
    intro member
    rcases List.mem_cons.mp member with rfl | later
    · exact inLine (List.mem_cons_of_mem _ List.mem_cons_self)
    · exact quiet.carriage later

/-- Texts are quiet together when a character between them is none of the letters. -/
theorem Quiet.append_cons {before after : List Char} {between : Char} (quiet : Quiet before)
    (later : Quiet after) (other : between ∉ ['p', 'u', '\n', '\r']) :
    Quiet (before ++ between :: after) := by
  simp only [List.mem_cons, List.not_mem_nil, or_false, not_or] at other
  obtain ⟨first, second, feed, carriage⟩ := other
  constructor
  · exact not_infix_append_cons quiet.apart later.apart first second
  · simp [quiet.feed, later.feed, Ne.symm feed]
  · simp [quiet.carriage, later.carriage, Ne.symm carriage]

/-- A word and what comes after a space. -/
theorem Quiet.word {before after : List Char} (quiet : Quiet before) (later : Quiet after) :
    Quiet (before ++ ' ' :: after) := quiet.append_cons later (by decide)

/-- A field is as quiet as its key and its value. -/
theorem Quiet.field {key : String} {value : List Char} (name : Quiet key.toList)
    (quiet : Quiet value) : Quiet (field key value) := name.append_cons quiet (by decide)

/-- So are fields after a quiet text. -/
theorem Quiet.fields {text : List Char} (quiet : Quiet text) {fields : List (String × List Char)}
    (each : ∀ entry ∈ fields, Quiet entry.1.toList ∧ Quiet entry.2) :
    Quiet (text ++ fieldsText fields) := by
  induction fields generalizing text with
  | nil =>
    rw [fieldsText, List.flatMap_nil, List.append_nil]
    exact quiet
  | cons entry rest ih =>
    have first := each entry List.mem_cons_self
    have line := ih (quiet.word (.field first.1 first.2)) fun other member =>
      each other (List.mem_cons_of_mem entry member)
    rw [List.append_assoc] at line
    exact line

/-- Texts between colons are quiet together. -/
theorem quiet_intercalate {parts : List (List Char)} (each : ∀ part ∈ parts, Quiet part) :
    Quiet ([':'].intercalate parts) := by
  induction parts with
  | nil => decide
  | cons part rest ih =>
    have first := each part List.mem_cons_self
    have later := ih fun other member => each other (List.mem_cons_of_mem part member)
    cases rest with
    | nil =>
      rw [List.intercalate_singleton]
      exact first
    | cons next rest =>
      rw [List.intercalate_cons_cons]
      simpa using first.append_cons later (by decide)

/-- A text without the first letter is quiet when it is one line. -/
theorem quiet_of_not_mem {text : List Char} (first : 'p' ∉ text) (feed : '\n' ∉ text)
    (carriage : '\r' ∉ text) : Quiet text := ⟨not_infix_of_not_mem first, feed, carriage⟩

/-- A printed number is quiet. -/
theorem quiet_decimal (value : Nat) : Quiet (decimal value) := by
  have absent : ∀ c : Char, c.isDigit = false → c ∉ decimal value := by
    intro c letter member
    rw [isDigit_of_mem_decimal member] at letter
    contradiction
  exact quiet_of_not_mem (absent 'p' (by decide)) (absent '\n' (by decide)) (absent '\r' (by decide))

/-- With its sign too. -/
theorem quiet_decimalInt (value : Int) : Quiet (decimalInt value) := by
  unfold decimalInt
  split
  · have signed : Quiet ([] ++ '-' :: decimal value.natAbs) :=
      Quiet.append_cons (by decide) (quiet_decimal _) (by decide)
    exact signed
  · exact quiet_decimal _

/-- What has digits in base sixteen only is quiet. -/
theorem quiet_of_digits {text : List Char}
    (digits : ∀ c ∈ text, ∃ digit < 16, Nat.digitChar digit = c) : Quiet text := by
  have absent : ∀ c, (∀ digit < 16, Nat.digitChar digit ≠ c) → c ∉ text := by
    intro c other member
    obtain ⟨digit, small, same⟩ := digits c member
    exact other digit small same
  exact quiet_of_not_mem (absent 'p' (by decide)) (absent '\n' (by decide)) (absent '\r' (by decide))

/-- So is a number in base sixteen. -/
theorem quiet_hexNumeral (value : Nat) : Quiet (hexNumeral value) := by
  have digits : Quiet (Nat.toDigits 16 value) := quiet_of_digits fun _ => digit_of_mem_toDigits
  have marked : Quiet (['0'] ++ 'x' :: Nat.toDigits 16 value) :=
    Quiet.append_cons (by decide) digits (by decide)
  exact marked

/-- So is a byte. -/
theorem quiet_hexByte (byte : U8) : Quiet (hexByte byte) := by
  apply quiet_of_digits
  intro c member
  have range := byte.isLt
  simp only [hexByte, List.mem_cons, List.not_mem_nil, or_false] at member
  rcases member with rfl | rfl
  · exact ⟨_, by omega, rfl⟩
  · exact ⟨_, by omega, rfl⟩

/-- And a MAC. -/
theorem quiet_macText (mac : Mac) : Quiet (macText mac) :=
  (quiet_hexByte _).append_cons ((quiet_hexByte _).append_cons (quiet_hexByte _) (by decide))
    (by decide)

/-- A printed pulse is whole. -/
theorem whole_pulseTxLine (mac : Mac) (seq : U32) (syncedNs targetNs : U128) (capUs : U64) :
    Whole (pulseTxLine mac seq syncedNs targetNs capUs) := by
  have line : pulseTxLine mac seq syncedNs targetNs capUs =
      'p' :: ("ulse_tx".toList ++ ' ' :: (field "mac" (macText mac) ++ ' ' ::
        (field "seq" (decimal seq.toNat) ++ ' ' ::
        (field "synced_ns" (decimal syncedNs.toNat) ++ ' ' ::
        (field "target_ns" (decimal targetNs.toNat) ++ ' ' ::
        field "cap_us" (decimal capUs.toNat)))))) := rfl
  rw [line]
  refine Quiet.whole_cons (.word (by decide) ?_) (by decide)
  apply Quiet.word (.field (by decide) (quiet_macText mac))
  apply Quiet.word (.field (by decide) (quiet_decimal _))
  apply Quiet.word (.field (by decide) (quiet_decimal _))
  apply Quiet.word (.field (by decide) (quiet_decimal _))
  exact .field (by decide) (quiet_decimal _)

/-- A printed edge is whole. -/
theorem whole_pulseRxLine (port : Port) (mac : Mac) (syncedNs : Option U128) (capUs : U64) :
    Whole (pulseRxLine port.label mac syncedNs capUs) := by
  have line : pulseRxLine port.label mac syncedNs capUs =
      'p' :: ("ulse_rx".toList ++ ' ' :: (field "port" port.label ++ ' ' ::
        (field "mac" (macText mac) ++ ' ' ::
        (field "synced_ns" (syncedText syncedNs) ++ ' ' ::
        field "cap_us" (decimal capUs.toNat))))) := rfl
  have label : Quiet port.label := by
    cases port with
    | d5 => decide
    | d34 => decide
  have time : Quiet (syncedText syncedNs) := by
    cases syncedNs with
    | none => decide
    | some ns => exact quiet_decimal _
  rw [line]
  refine Quiet.whole_cons (.word (by decide) ?_) (by decide)
  apply Quiet.word (.field (by decide) label)
  apply Quiet.word (.field (by decide) (quiet_macText mac))
  apply Quiet.word (.field (by decide) time)
  exact .field (by decide) (quiet_decimal _)

/-! ## What a thread sends -/

/-- The character that a read brings. -/
def Delivery.text : Delivery → Option Char
  | .char c => some c
  | _ => none

/-- The text that was delivered. -/
def delivered (deliveries : List Delivery) : List Char := deliveries.filterMap Delivery.text

/-- Each read brings a character or times out. -/
def Steady (deliveries : List Delivery) : Prop :=
  ∀ delivery ∈ deliveries, delivery = .timeout ∨ ∃ c, delivery = .char c

end Meter

end EspClockSync
