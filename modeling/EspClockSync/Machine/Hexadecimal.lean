import EspClockSync.Machine.Text

/-!
# Hexadecimal text

Digits of either case are read as long as the number fits its type, with or without a
sign. What is read is exactly a number in base sixteen; a printed byte is one of its
spellings.
-/

namespace Machine

/-! ## Reading -/

/-- `char::to_digit` in base sixteen. -/
def hexDigitValue (c : Char) : Option Nat :=
  if '0' ≤ c ∧ c ≤ '9' then some (c.toNat - '0'.toNat)
  else if 'a' ≤ c ∧ c ≤ 'f' then some (c.toNat - 'a'.toNat + 10)
  else if 'A' ≤ c ∧ c ≤ 'F' then some (c.toNat - 'A'.toNat + 10)
  else none

/-- The digits of an unsigned number after this much of it, each of which must fit. -/
def parseHexDigits (width : Nat) : Nat → List Char → Option Nat
  | value, [] => some value
  | value, c :: rest => do
    let digit ← hexDigitValue c
    let next := 16 * value + digit
    if next < 2 ^ width then parseHexDigits width next rest else none

/-- `from_str_radix` of an unsigned number of this width in base sixteen: digits, with or
without a sign `+`. -/
def parseHex (width : Nat) (text : List Char) : Option (BitVec width) :=
  match text with
  | [] => none
  | ['+'] => none
  | '+' :: digits => (parseHexDigits width 0 digits).map (BitVec.ofNat width)
  | digits => (parseHexDigits width 0 digits).map (BitVec.ofNat width)

/-! ## What is read -/

/-- The number of these digits after this much of it. -/
def hexNumber (value : Nat) (digits : List Nat) : Nat :=
  digits.foldl (fun value digit => 16 * value + digit) value

/-- A number only grows with its digits. -/
theorem le_hexNumber (value : Nat) (digits : List Nat) : value ≤ hexNumber value digits := by
  induction digits generalizing value with
  | nil => exact le_refl value
  | cons digit rest ih =>
    have grown := ih (16 * value + digit)
    change value ≤ hexNumber (16 * value + digit) rest
    omega

/-- Characters that spell these digits. -/
def SpellsDigits (text : List Char) (digits : List Nat) : Prop :=
  List.Forall₂ (fun c digit => hexDigitValue c = some digit) text digits

/-- Digits are read exactly when their number fits, and then as that number. -/
theorem parseHexDigits_eq_some_iff {width value number : Nat} (fits : value < 2 ^ width)
    (text : List Char) :
    parseHexDigits width value text = some number ↔
      number < 2 ^ width ∧ ∃ digits, SpellsDigits text digits ∧ hexNumber value digits = number := by
  induction text generalizing value with
  | nil =>
    constructor
    · intro read
      obtain rfl := Option.some.inj read
      exact ⟨fits, [], .nil, rfl⟩
    · rintro ⟨_, digits, spelled, same⟩
      cases spelled
      exact congrArg some same
  | cons c rest ih =>
    constructor
    · intro read
      obtain ⟨digit, spelled, read⟩ := Option.bind_eq_some_iff.mp read
      dsimp only at read
      split at read
      · rename_i small
        obtain ⟨range, digits, spells, same⟩ := (ih small).mp read
        exact ⟨range, digit :: digits, .cons spelled spells, same⟩
      · contradiction
    · rintro ⟨range, digits, spelled, same⟩
      cases spelled with
      | @cons _ digit _ digits spelled spells =>
        have small : 16 * value + digit < 2 ^ width :=
          (le_hexNumber (16 * value + digit) digits).trans_lt (same.trans_lt range)
        unfold parseHexDigits
        rw [spelled, Option.bind_eq_bind, Option.bind_some]
        dsimp only
        rw [if_pos small]
        exact (ih small).mpr ⟨range, digits, spells, same⟩

/-- A text that spells this number, with or without a sign. -/
def SpellsHex {width : Nat} (text : List Char) (number : BitVec width) : Prop :=
  ∃ digits values, (text = digits ∨ text = '+' :: digits) ∧ digits ≠ [] ∧
    SpellsDigits digits values ∧ hexNumber 0 values = number.toNat

/-- No sign is a digit. -/
theorem not_spellsDigits_sign (text : List Char) (values : List Nat) :
    ¬ SpellsDigits ('+' :: text) values := by
  intro spelled
  cases spelled with
  | cons first =>
    rw [show hexDigitValue '+' = none by decide] at first
    contradiction

/-- **Reading.** A text is read as a number exactly when it spells it. -/
theorem parseHex_eq_some_iff {width : Nat} (text : List Char) (number : BitVec width) :
    parseHex width text = some number ↔ SpellsHex text number := by
  have digitsRead : ∀ digits : List Char,
      (parseHexDigits width 0 digits).map (BitVec.ofNat width) = some number ↔
        ∃ values, SpellsDigits digits values ∧ hexNumber 0 values = number.toNat := by
    intro digits
    have positive : 0 < 2 ^ width := Nat.two_pow_pos width
    rw [Option.map_eq_some_iff]
    constructor
    · rintro ⟨read, parsed, same⟩
      obtain ⟨range, values, spelled, value⟩ := (parseHexDigits_eq_some_iff positive digits).mp parsed
      refine ⟨values, spelled, ?_⟩
      rw [← same, BitVec.toNat_ofNat, Nat.mod_eq_of_lt range, value]
    · rintro ⟨values, spelled, value⟩
      refine ⟨number.toNat, (parseHexDigits_eq_some_iff positive digits).mpr
        ⟨number.isLt, values, spelled, value⟩, ?_⟩
      rw [BitVec.ofNat_toNat, BitVec.setWidth_eq]
  unfold parseHex SpellsHex
  split
  · simp
  · refine iff_of_false (by simp) ?_
    rintro ⟨digits, values, rfl | same, nonempty, spelled, _⟩
    · exact not_spellsDigits_sign [] values spelled
    · exact nonempty (List.cons.inj same).2.symm
  · rename_i digits nonempty
    rw [digitsRead]
    constructor
    · rintro ⟨values, spelled, value⟩
      exact ⟨digits, values, .inr rfl, nonempty, spelled, value⟩
    · rintro ⟨other, values, rfl | same, _, spelled, value⟩
      · exact absurd spelled (not_spellsDigits_sign digits values)
      · rw [(List.cons.inj same).2]
        exact ⟨values, spelled, value⟩
  · rename_i nonempty _ unsigned
    rw [digitsRead]
    constructor
    · rintro ⟨values, spelled, value⟩
      exact ⟨text, values, .inl rfl, nonempty, spelled, value⟩
    · rintro ⟨digits, values, rfl | same, _, spelled, value⟩
      · exact ⟨values, spelled, value⟩
      · exact absurd same (unsigned digits)

/-! ## Reading what was printed -/

/-- A printed digit has its value. -/
theorem hexDigitValue_digitChar {digit : Nat} (small : digit < 16) :
    hexDigitValue (Nat.digitChar digit) = some digit := by
  interval_cases digit <;> rfl

/-- A printed byte spells itself. -/
theorem spellsHex_hexByte (byte : BitVec 8) : SpellsHex (hexByte byte) byte := by
  have range := byte.isLt
  refine ⟨hexByte byte, [byte.toNat / 16, byte.toNat % 16], .inl rfl, by simp [hexByte], ?_, ?_⟩
  · exact .cons (hexDigitValue_digitChar (by omega))
      (.cons (hexDigitValue_digitChar (by omega)) .nil)
  · change 16 * (16 * 0 + byte.toNat / 16) + byte.toNat % 16 = byte.toNat
    omega

/-- Every character of spelled digits has a value. -/
theorem SpellsDigits.value_of_mem {text : List Char} {values : List Nat}
    (spelled : SpellsDigits text values) {c : Char} (member : c ∈ text) :
    ∃ value, hexDigitValue c = some value := by
  induction spelled with
  | nil => exact absurd member List.not_mem_nil
  | cons first _ ih =>
    rcases List.mem_cons.mp member with rfl | later
    · exact ⟨_, first⟩
    · exact ih later

/-- What spells a number has digits and a sign only. -/
theorem SpellsHex.not_mem {width : Nat} {text : List Char} {number : BitVec width}
    (spelled : SpellsHex text number) {c : Char} (other : hexDigitValue c = none)
    (noSign : c ≠ '+') : c ∉ text := by
  obtain ⟨digits, values, same, _, digitsSpelled, _⟩ := spelled
  have absent : c ∉ digits := by
    intro member
    obtain ⟨value, valued⟩ := digitsSpelled.value_of_mem member
    rw [other] at valued
    contradiction
  rcases same with rfl | rfl
  · exact absent
  · simp [noSign, absent]

end Machine
