import Mathlib

/-!
# Lines of text

A line is a list of characters. Printing writes numbers in decimal or base sixteen and bytes
as two lower-case hexadecimal digits; reading splits at whitespace or at a character,
and takes digits of a number as long as its type holds them.
-/

namespace Machine

/-! ## Printing -/

/-- `{}` of an unsigned number. -/
def decimal (value : Nat) : List Char := Nat.toDigits 10 value

/-- `{}` of a signed number. -/
def decimalInt (value : Int) : List Char :=
  if value < 0 then '-' :: decimal value.natAbs else decimal value.natAbs

/-- `{:#x}` of an unsigned number. -/
def hexNumeral (value : Nat) : List Char := '0' :: 'x' :: Nat.toDigits 16 value

/-- `{:02x}` of a byte. -/
def hexByte (byte : BitVec 8) : List Char :=
  [Nat.digitChar (byte.toNat / 16), Nat.digitChar (byte.toNat % 16)]

/-- The UTF-8 encoding of a text. -/
def utf8 (text : List Char) : List (BitVec 8) :=
  text.flatMap fun c => (String.utf8EncodeChar c).map UInt8.toBitVec

/-! ## Reading -/

/-- `char::is_whitespace`, the Unicode property `White_Space`. -/
def isWhitespace (c : Char) : Bool :=
  (0x09 ≤ c.toNat && c.toNat ≤ 0x0D) || c.toNat == 0x20 || c.toNat == 0x85 || c.toNat == 0xA0 ||
    c.toNat == 0x1680 || (0x2000 ≤ c.toNat && c.toNat ≤ 0x200A) || c.toNat == 0x2028 ||
    c.toNat == 0x2029 || c.toNat == 0x202F || c.toNat == 0x205F || c.toNat == 0x3000

/-- The words of a text, of the first of which these characters are already read. -/
def wordsFrom (word : List Char) : List Char → List (List Char)
  | [] => if word.isEmpty then [] else [word]
  | c :: rest =>
    if isWhitespace c then
      if word.isEmpty then wordsFrom [] rest else word :: wordsFrom [] rest
    else wordsFrom (word ++ [c]) rest

/-- `str::split_whitespace`. -/
def splitWhitespace (text : List Char) : List (List Char) := wordsFrom [] text

/-- `str::split_once` at a character. -/
def splitOnce (delimiter : Char) : List Char → Option (List Char × List Char)
  | [] => none
  | c :: rest =>
    if c = delimiter then some ([], rest)
    else (splitOnce delimiter rest).map fun parts => (c :: parts.1, parts.2)

/-- `str::strip_prefix`. -/
def stripPrefix : List Char → List Char → Option (List Char)
  | [], text => some text
  | _ :: _, [] => none
  | c :: start, d :: text => if c = d then stripPrefix start text else none

/-- The digits of an unsigned number after this much of it, each of which must fit. -/
def parseDigits (width : Nat) : Nat → List Char → Option Nat
  | value, [] => some value
  | value, c :: rest =>
    if c.isDigit then
      let next := 10 * value + (c.toNat - '0'.toNat)
      if next < 2 ^ width then parseDigits width next rest else none
    else none

/-- `FromStr` of an unsigned number of this width: digits, with or without a sign `+`. -/
def parseUnsigned (width : Nat) (text : List Char) : Option (BitVec width) :=
  match text with
  | [] => none
  | ['+'] => none
  | '+' :: digits => (parseDigits width 0 digits).map (BitVec.ofNat width)
  | digits => (parseDigits width 0 digits).map (BitVec.ofNat width)

/-! ## Encoded text -/

/-- Text within ASCII. -/
def IsAscii (text : List Char) : Prop := ∀ c ∈ text, c.toNat < 128

/-- Such a character is encoded as one byte, which has its number. -/
theorem map_utf8EncodeChar {c : Char} (ascii : c.toNat < 128) :
    (String.utf8EncodeChar c).map UInt8.toBitVec = [BitVec.ofNat 8 c.toNat] := by
  have one : c.utf8Size = 1 :=
    Char.utf8Size_eq_one_iff.mpr (UInt32.le_iff_toNat_le.mpr (Nat.le_of_lt_succ ascii))
  rw [String.utf8EncodeChar_eq_singleton one]
  rfl

/-- Every other one takes more bytes. -/
theorem one_lt_length_utf8EncodeChar {c : Char} (other : ¬ c.toNat < 128) :
    1 < (String.utf8EncodeChar c).length := by
  rw [String.length_utf8EncodeChar]
  have positive := c.utf8Size_pos
  have several : c.utf8Size ≠ 1 := by
    intro one
    have small := UInt32.le_iff_toNat_le.mp (Char.utf8Size_eq_one_iff.mp one)
    exact other (Nat.lt_succ_of_le small)
  omega

/-- Text within ASCII is encoded byte by byte. -/
theorem utf8_of_isAscii {text : List Char} (ascii : IsAscii text) :
    utf8 text = text.map fun c => BitVec.ofNat 8 c.toNat := by
  rw [utf8, List.map_eq_flatMap]
  exact List.flatMap_congr fun c member => map_utf8EncodeChar (ascii c member)

/-- No text has more characters than bytes. -/
theorem length_le_length_utf8 (text : List Char) : text.length ≤ (utf8 text).length := by
  induction text with
  | nil => exact Nat.zero_le 0
  | cons c rest ih =>
    have bytes : 0 < (String.utf8EncodeChar c).length :=
      List.length_pos_iff.mpr String.utf8EncodeChar_ne_nil
    rw [utf8, List.flatMap_cons, List.length_append, List.length_map, List.length_cons]
    exact Nat.add_comm rest.length 1 ▸ Nat.add_le_add bytes ih

/-- Only text within ASCII has as many. -/
theorem isAscii_of_length_utf8 {text : List Char} (same : (utf8 text).length = text.length) :
    IsAscii text := by
  induction text with
  | nil => exact fun _ member => absurd member List.not_mem_nil
  | cons c rest ih =>
    have total : (utf8 (c :: rest)).length =
        (String.utf8EncodeChar c).length + (utf8 rest).length := by
      rw [utf8, List.flatMap_cons, List.length_append, List.length_map]
      rfl
    have more := length_le_length_utf8 rest
    have first : c.toNat < 128 := by
      by_contra other
      have several := one_lt_length_utf8EncodeChar other
      rw [total, List.length_cons] at same
      omega
    have one : (String.utf8EncodeChar c).length = 1 := by
      rw [← List.length_map (f := UInt8.toBitVec), map_utf8EncodeChar first]
      rfl
    have later : IsAscii rest := ih (by
      rw [total, one, List.length_cons] at same
      omega)
    exact List.forall_mem_cons.mpr ⟨first, later⟩

/-! ## Reading what was printed -/

/-- A word to its end, and then the words after a space. -/
theorem wordsFrom_append (read : List Char) {word rest : List Char}
    (clean : ∀ c ∈ word, isWhitespace c = false) (nonempty : read ++ word ≠ []) :
    wordsFrom read (word ++ ' ' :: rest) = (read ++ word) :: splitWhitespace rest := by
  induction word generalizing read with
  | nil =>
    rw [List.append_nil] at nonempty
    have space : isWhitespace ' ' = true := by decide
    simp [wordsFrom, space, nonempty, splitWhitespace]
  | cons c word ih =>
    have first := clean c List.mem_cons_self
    rw [List.cons_append, wordsFrom, first]
    simp only [Bool.false_eq_true, if_false]
    rw [ih (read ++ [c]) (fun d member => clean d (List.mem_cons_of_mem c member)) (by simp)]
    simp

/-- A last word. -/
theorem wordsFrom_last (read : List Char) {word : List Char}
    (clean : ∀ c ∈ word, isWhitespace c = false) (nonempty : read ++ word ≠ []) :
    wordsFrom read word = [read ++ word] := by
  induction word generalizing read with
  | nil =>
    rw [List.append_nil] at nonempty
    simp [wordsFrom, nonempty]
  | cons c word ih =>
    have first := clean c List.mem_cons_self
    rw [wordsFrom, first]
    simp only [Bool.false_eq_true, if_false]
    rw [ih (read ++ [c]) (fun d member => clean d (List.mem_cons_of_mem c member)) (by simp)]
    simp

/-- The text is split at the first occurrence. -/
theorem splitOnce_append {delimiter : Char} {key value : List Char}
    (clean : delimiter ∉ key) : splitOnce delimiter (key ++ delimiter :: value) = some (key, value) := by
  induction key with
  | nil => simp [splitOnce]
  | cons c key ih =>
    have differs : c ≠ delimiter := fun same => clean (same ▸ List.mem_cons_self)
    have later : delimiter ∉ key := fun member => clean (List.mem_cons_of_mem c member)
    simp [splitOnce, differs, ih later]

/-- A text starts with its prefix. -/
theorem stripPrefix_append (start text : List Char) : stripPrefix start (start ++ text) = some text := by
  induction start with
  | nil => cases text <;> rfl
  | cons c start ih => simp [stripPrefix, ih]

/-- It does not start with another text of that length. -/
theorem stripPrefix_append_none {start other : List Char} (text : List Char)
    (size : start.length ≤ other.length) (differ : ¬ start <+: other) :
    stripPrefix start (other ++ text) = none := by
  induction start generalizing other with
  | nil => exact absurd List.nil_prefix differ
  | cons c start ih =>
    cases other with
    | nil => simp at size
    | cons d other =>
      rw [List.cons_append, stripPrefix]
      by_cases same : c = d
      · rw [if_pos same]
        apply ih (Nat.le_of_succ_le_succ size)
        exact fun starts => differ (List.cons_prefix_cons.mpr ⟨same, starts⟩)
      · rw [if_neg same]

/-- Digits whose number fits are read as that number. -/
theorem parseDigits_eq {width value : Nat} {digits : List Char}
    (numeric : ∀ c ∈ digits, c.isDigit = true) (fits : Nat.ofDigitChars 10 digits value < 2 ^ width) :
    parseDigits width value digits = some (Nat.ofDigitChars 10 digits value) := by
  induction digits generalizing value with
  | nil => simp [parseDigits]
  | cons c rest ih =>
    rw [Nat.ofDigitChars_cons] at fits ⊢
    have partial_fits : 10 * value + (c.toNat - '0'.toNat) < 2 ^ width := by
      have grown := @Nat.ofDigitChars_eq_ofDigitChars_zero rest
        (10 * value + (c.toNat - '0'.toNat))
      have scale : 1 ≤ 10 ^ rest.length := Nat.one_le_pow _ _ (by decide)
      have product := Nat.mul_le_mul_right (10 * value + (c.toNat - '0'.toNat)) scale
      omega
    rw [parseDigits, if_pos (numeric c List.mem_cons_self)]
    simp only [partial_fits, if_true]
    exact ih (fun d member => numeric d (List.mem_cons_of_mem c member)) fits

/-- A printed number has digits only. -/
theorem isDigit_of_mem_decimal {value : Nat} {c : Char} (member : c ∈ decimal value) :
    c.isDigit = true := Nat.isDigit_of_mem_toDigits (by decide) (by decide) member

/-- A number in base sixteen has digits only. -/
theorem digit_of_mem_toDigits {value : Nat} {c : Char} (member : c ∈ Nat.toDigits 16 value) :
    ∃ digit < 16, Nat.digitChar digit = c := by
  induction value using Nat.strongRecOn with
  | ind value ih =>
    rw [Nat.toDigits_eq_if (by decide)] at member
    split at member
    · rename_i small
      exact ⟨value, small, (List.mem_singleton.mp member).symm⟩
    · rcases List.mem_append.mp member with high | last
      · exact ih (value / 16) (by omega) high
      · exact ⟨value % 16, Nat.mod_lt _ (by decide), (List.mem_singleton.mp last).symm⟩

/-- Printing a number and reading it gives the number back. -/
theorem parseUnsigned_decimal {width : Nat} (value : BitVec width) :
    parseUnsigned width (decimal value.toNat) = some value := by
  have digits : parseDigits width 0 (decimal value.toNat) = some value.toNat := by
    rw [parseDigits_eq (fun c member => isDigit_of_mem_decimal member) (by
      rw [decimal, Nat.ofDigitChars_ten_toDigits]
      exact value.isLt)]
    rw [decimal, Nat.ofDigitChars_ten_toDigits]
  have unsigned : ∀ rest, decimal value.toNat ≠ '+' :: rest := by
    intro rest same
    have sign : '+'.isDigit = true := isDigit_of_mem_decimal (same ▸ List.mem_cons_self)
    exact absurd sign (by decide)
  have nonempty : decimal value.toNat ≠ [] := Nat.toDigits_ne_nil
  unfold parseUnsigned
  split
  · contradiction
  · exact absurd ‹_› (unsigned _)
  · exact absurd ‹_› (unsigned _)
  · rw [digits]
    simp

/-- A printed number is one word. -/
theorem not_isWhitespace_decimal (value : Nat) :
    ∀ c ∈ decimal value, isWhitespace c = false := by
  intro c member
  have digit := Char.isDigit_iff_toNat.mp (isDigit_of_mem_decimal member)
  have low : 48 ≤ c.toNat := digit.1
  have high : c.toNat ≤ 57 := digit.2
  simp only [isWhitespace, Bool.or_eq_false_iff, Bool.and_eq_false_iff, decide_eq_false_iff_not,
    beq_eq_false_iff_ne]
  omega

/-- So is a printed byte. -/
theorem not_isWhitespace_hexByte (byte : BitVec 8) :
    ∀ c ∈ hexByte byte, isWhitespace c = false := by
  have digit : ∀ d < 16, isWhitespace (Nat.digitChar d) = false := by decide
  have range := byte.isLt
  intro c member
  simp only [hexByte, List.mem_cons, List.not_mem_nil, or_false] at member
  rcases member with rfl | rfl
  · exact digit _ (by omega)
  · exact digit _ (by omega)

end Machine
