import EspClockSync.Firmware.Bootstrap

/-!
# The lines the firmware reads

What is read as an answer is what was typed, whatever else the reads return: empty reads, failed
ones and carriage returns leave the line as it is, and so does a slip that is taken back, however
the corrections nest.
-/

namespace EspClockSync

open Machine

namespace Firmware

/-- A byte that stands for itself in a line. -/
def IsText (b : U8) : Prop := b ≠ 0x0a ∧ b ≠ 0x0d ∧ b ≠ 0x08 ∧ b ≠ 0x7f

instance (b : U8) : Decidable (IsText b) := inferInstanceAs (Decidable (_ ∧ _))

/-- A key that takes back a character. -/
def IsErase (b : U8) : Prop := b = 0x08 ∨ b = 0x7f

instance (b : U8) : Decidable (IsErase b) := inferInstanceAs (Decidable (_ ∨ _))

/-- The characters that the firmware pushes for these bytes. -/
def textOf (bytes : List U8) : List Char := bytes.map byteChar

/-- What the firmware makes of an encoded text is that text exactly within ASCII. -/
theorem textOf_utf8_iff (text : List Char) : textOf (utf8 text) = text ↔ IsAscii text := by
  constructor
  · intro same
    apply isAscii_of_length_utf8
    rw [← List.length_map (f := byteChar)]
    exact congrArg List.length same
  · intro ascii
    rw [utf8_of_isAscii ascii, textOf, List.map_map]
    calc text.map (byteChar ∘ fun c => BitVec.ofNat 8 c.toNat)
      _ = text.map id := List.map_congr_left fun c member => by
        have small := ascii c member
        rw [Function.comp, byteChar, BitVec.toNat_ofNat, Nat.mod_eq_of_lt (by omega),
          Char.ofNat_toNat, id]
      _ = text := List.map_id text

/-! ## Single reads -/

/-- A byte of text joins the line. -/
theorem take_of_isText (board : Bootstrap) {b : U8} (text : IsText b) :
    board.take b = ({ board with out := board.out ++ [byteChar b] }, echo b) := by
  obtain ⟨feed, carriage, back, delete⟩ := text
  unfold Bootstrap.take
  rw [if_neg feed, if_neg carriage, if_neg (not_or.mpr ⟨back, delete⟩)]

/-- An erase takes back the last character. -/
theorem take_of_isErase (board : Bootstrap) {b : U8} (erase : IsErase b) :
    board.take b = ({ board with out := board.out.dropLast }, []) := by
  unfold Bootstrap.take
  rcases erase with rfl | rfl
  · rfl
  · rfl

/-- Reads from a bootstrap that is not answered go on after the first one. -/
theorem readAll_cons {board : Bootstrap} (open_question : board.answered = false) (next : UartRead)
    (rest : List UartRead) :
    board.readAll (next :: rest) = (board.read next).1.readAll rest := by
  rw [Bootstrap.readAll, if_neg (by rw [open_question]; exact Bool.false_ne_true)]

/-- Answered, the bootstrap stays as it is. -/
theorem readAll_answered {board : Bootstrap} (answered : board.answered = true)
    (reads : List UartRead) : board.readAll reads = board := by
  cases reads with
  | nil => rfl
  | cons next rest => rw [Bootstrap.readAll, if_pos answered]

/-- Reads come one after the other. -/
theorem readAll_append (board : Bootstrap) (reads more : List UartRead) :
    board.readAll (reads ++ more) = (board.readAll reads).readAll more := by
  induction reads generalizing board with
  | nil => rfl
  | cons next rest ih =>
    cases answered : board.answered with
    | true => rw [readAll_answered answered, readAll_answered answered, readAll_answered answered]
    | false => rw [List.cons_append, readAll_cons answered, readAll_cons answered, ih]

/-! ## What is typed -/

/-- Reads that leave a line as it is. -/
inductive Idle : List UartRead → Prop where
  /-- No read. -/
  | nil : Idle []
  /-- A read of nothing. -/
  | nothing : Idle [.nothing]
  /-- A read that fails. -/
  | failed (e : List U8) : Idle [.failed e]
  /-- A carriage return. -/
  | carriage : Idle [.byte 0x0d]
  /-- A slip and its correction, with idle reads between them. -/
  | corrected {b erase : U8} {between : List UartRead} (slip : IsText b) (taken : IsErase erase)
      (idle : Idle between) : Idle (.byte b :: (between ++ [.byte erase]))
  /-- One after the other. -/
  | append {reads more : List UartRead} (first : Idle reads) (second : Idle more) :
      Idle (reads ++ more)

/-- Idle reads change nothing in the bootstrap. -/
theorem Idle.readAll {reads : List UartRead} (idle : Idle reads) (board : Bootstrap)
    (open_question : board.answered = false) : board.readAll reads = board := by
  induction idle generalizing board with
  | nil => rfl
  | nothing => rw [readAll_cons open_question]; rfl
  | failed e => rw [readAll_cons open_question]; rfl
  | carriage => rw [readAll_cons open_question]; rfl
  | @corrected b erase between slip taken _ ih =>
    have typed : (board.read (.byte b)).1 = { board with out := board.out ++ [byteChar b] } := by
      rw [Bootstrap.read, take_of_isText board slip]
    have kept := ih { board with out := board.out ++ [byteChar b] } open_question
    have erased := take_of_isErase { board with out := board.out ++ [byteChar b] } taken
    rw [readAll_cons open_question, typed, readAll_append, kept, readAll_cons (by exact open_question),
      Bootstrap.read, erased]
    dsimp only
    rw [List.dropLast_concat]
    rfl
  | append _ _ ihFirst ihSecond =>
    rw [readAll_append, ihFirst board open_question, ihSecond board open_question]

/-- Reads that type a text, with idle reads anywhere between its bytes. -/
inductive Types : List UartRead → List U8 → Prop where
  /-- Nothing is typed. -/
  | nil : Types [] []
  /-- One more byte. -/
  | key {reads : List UartRead} {text : List U8} {b : U8} (typed : Types reads text)
      (plain : IsText b) : Types (reads ++ [.byte b]) (text ++ [b])
  /-- Idle reads. -/
  | idle {reads more : List UartRead} {text : List U8} (typed : Types reads text)
      (idle : Idle more) : Types (reads ++ more) text

/-- What is typed joins the line. -/
theorem Types.readAll {reads : List UartRead} {text : List U8} (types : Types reads text)
    (board : Bootstrap) (open_question : board.answered = false) :
    board.readAll reads = { board with out := board.out ++ textOf text } := by
  induction types with
  | nil => simp [Bootstrap.readAll, textOf]
  | @key reads text b _ plain ih =>
    rw [readAll_append, ih, readAll_cons (by exact open_question), Bootstrap.read,
      take_of_isText _ plain]
    simp [Bootstrap.readAll, textOf]
  | @idle reads more text _ idle ih =>
    have kept := idle.readAll { board with out := board.out ++ textOf text } open_question
    rw [readAll_append, ih, kept]

/-- A line that is typed and ended answers the question. -/
theorem Types.answer {reads : List UartRead} {text : List U8} (types : Types reads text)
    {answers : List (List Char)} (open_question : answers.length < 3) (rest : List UartRead) :
    (⟨answers, []⟩ : Bootstrap).readAll (reads ++ .byte 0x0a :: rest) =
      (⟨answers ++ [textOf text], []⟩ : Bootstrap).readAll rest := by
  have waiting (out : List Char) : (⟨answers, out⟩ : Bootstrap).answered = false :=
    decide_eq_false (Nat.not_le.mpr open_question)
  rw [readAll_append, types.readAll _ (waiting []), readAll_cons (waiting _)]
  rfl

/-- **The answers.** Three texts, typed in turn as their UTF-8 bytes and each ended by a line feed,
are what the firmware has read exactly when they are within ASCII, whatever empty and failed
reads, carriage returns and corrected slips come between, and whatever comes after. -/
theorem answers_of_typed {ssid password server : List Char} {first second third : List UartRead}
    (typesSsid : Types first (utf8 ssid)) (typesPassword : Types second (utf8 password))
    (typesServer : Types third (utf8 server)) (rest : List UartRead) :
    (Bootstrap.start.readAll (first ++ .byte 0x0a :: (second ++ .byte 0x0a ::
      (third ++ .byte 0x0a :: rest)))).answers = [ssid, password, server] ↔
        IsAscii ssid ∧ IsAscii password ∧ IsAscii server := by
  unfold Bootstrap.start
  rw [typesSsid.answer (by exact Nat.zero_lt_succ 2),
    typesPassword.answer (by exact Nat.one_lt_succ_succ 1),
    typesServer.answer (by exact Nat.lt_succ_self 2), readAll_answered rfl]
  dsimp only [List.nil_append, List.cons_append]
  simp only [List.cons.injEq, and_true, textOf_utf8_iff]

/-- A network name with a slip in it, an open network and no server. -/
theorem answers_of_typed_corrected :
    (Bootstrap.start.readAll [.byte 0x61, .nothing, .byte 0x63, .byte 0x7f, .byte 0x62, .byte 0x0d,
      .byte 0x0a, .byte 0x0d, .byte 0x0a, .byte 0x0a]).answers = ["ab".toList, [], []] := by
  have name : Types [.byte 0x61, .nothing, .byte 0x63, .byte 0x7f, .byte 0x62, .byte 0x0d]
      (utf8 "ab".toList) := by
    have slip : Idle [.byte 0x63, .byte 0x7f] :=
      .corrected (by decide) (by decide) .nil
    rw [show utf8 "ab".toList = [0x61, 0x62] by decide]
    exact .idle (.key (.idle (.idle (.key .nil (by decide)) .nothing) slip) (by decide)) .carriage
  have empty : Types [.byte 0x0d] (utf8 []) := .idle .nil .carriage
  have ascii : IsAscii "ab".toList ∧ IsAscii [] ∧ IsAscii [] := by simp [IsAscii]
  exact (answers_of_typed name empty (.nil : Types [] (utf8 [])) []).mpr ascii

end Firmware

end EspClockSync
