import EspClockSync.Firmware.Exchange
import EspClockSync.Machine.Occurrence
import EspClockSync.Verif.BootstrapLines

/-!
# Questions and answers

However board and driver script take turns, the board reads what the script was given: no prompt is
answered before it is asked, since nothing that the board prints before ends like it. Unless a read
failed, neither waits for the other for ever.
-/

namespace EspClockSync

open Machine

namespace Firmware

/-! ## Prompts -/

/-- `":"`. -/
abbrev colon : U8 := 0x3a

/-- `" "`. -/
abbrev space : U8 := 0x20

/-- The prompt that the script knows and the firmware does not print. -/
def bssidPrompt : List U8 := asciiBytes "bssid: "

/-- What ends like a prompt, within a line, and not like the notice of an error. -/
structure IsPrompt (prompt : List U8) : Prop where
  /-- It ends in a colon and a space. -/
  ends : ∃ stem, prompt = stem ++ [colon] ++ [space]
  /-- It is part of a line. -/
  inLine : (0x0a : U8) ∉ prompt
  /-- It is not the end of an error's notice. -/
  notError : ∀ printed, ¬ prompt <:+ printed ++ asciiBytes "error: "

/-- A prompt does not end like another text of its length or longer does not end like it. -/
theorem not_suffix_append {prompt text : List U8} (length : prompt.length ≤ text.length)
    (other : ¬ prompt <:+ text) (printed : List U8) : ¬ prompt <:+ printed ++ text := fun ends =>
  other (List.suffix_of_suffix_length_le ends (List.suffix_append printed text) length)

/-- The prompt for the BSSID is one. -/
theorem isPrompt_bssid : IsPrompt bssidPrompt where
  ends := ⟨asciiBytes "bssid", by decide⟩
  inLine := by decide
  notError := not_suffix_append (by decide) (by decide)

/-- The prompts of the firmware are. -/
theorem isPrompt_promptAt {question : Nat} (asked : question < 3) : IsPrompt (promptAt question) := by
  match question with
  | 0 =>
    exact ⟨⟨asciiBytes "ssid", by decide⟩, by decide, not_suffix_append (by decide) (by decide)⟩
  | 1 =>
    exact ⟨⟨asciiBytes "pass", by decide⟩, by decide, not_suffix_append (by decide) (by decide)⟩
  | 2 =>
    refine ⟨⟨asciiBytes "server", by decide⟩, by decide, fun printed ends => ?_⟩
    have short := List.suffix_of_suffix_length_le (List.suffix_append printed (asciiBytes "error: "))
      ends (by decide)
    exact absurd short (by decide)

/-! ## What the board has printed -/

/-- Nothing printed so far ends like the prompt of a later question, or like the one for the
BSSID; and a colon at the end was typed. -/
structure Quiet (question : Nat) (printed typed : List U8) : Prop where
  /-- The prompt for the BSSID does not occur. -/
  bssid : ¬ bssidPrompt <:+: printed
  /-- A later prompt does not occur. -/
  later : ∀ next, question < next → next < 3 → ¬ promptAt next <:+: printed
  /-- A colon at the end is the last of what was typed. -/
  last : printed.getLast? = some colon → typed.getLast? = some colon

/-- What keeps single prompts away keeps the output quiet. -/
theorem Quiet.of_absent {question : Nat} {printed typed : List U8} (quiet : Quiet question printed typed)
    {after after_typed : List U8} {next : Nat} (further : question ≤ next)
    (absent : ∀ prompt, IsPrompt prompt → ¬ prompt <:+: printed →
      (prompt = bssidPrompt ∨ ∃ k, next < k ∧ k < 3 ∧ prompt = promptAt k) → ¬ prompt <:+: after)
    (last : after.getLast? = some colon → after_typed.getLast? = some colon) :
    Quiet next after after_typed where
  bssid := absent _ isPrompt_bssid quiet.bssid (.inl rfl)
  later k behind asked :=
    absent _ (isPrompt_promptAt asked) (quiet.later k (by omega) asked) (.inr ⟨k, behind, asked, rfl⟩)
  last := last

/-- An echoed byte completes no prompt unless it is a space behind a typed colon. -/
theorem Quiet.echo {question : Nat} {printed typed : List U8} (quiet : Quiet question printed typed)
    {b : U8} (apart : ¬ [colon, space] <:+: typed ++ [b]) :
    Quiet question (printed ++ [b]) (typed ++ [b]) := by
  refine quiet.of_absent le_rfl (fun prompt isPrompt absent _ => ?_) (by simp)
  obtain ⟨stem, rfl⟩ := isPrompt.ends
  apply not_infix_concat absent
  intro ends
  obtain ⟨rfl, before⟩ := suffix_concat_concat ends
  obtain ⟨front, same⟩ := before
  have closed : printed.getLast? = some colon := by
    rw [← same, ← List.append_assoc, List.getLast?_concat]
  obtain ⟨before_colon, typed_eq⟩ := List.getLast?_eq_some_iff.mp (quiet.last closed)
  apply apart
  rw [typed_eq]
  exact ⟨before_colon, [], by simp⟩

/-- The end of a line with the prompt of the next question completes no other prompt. -/
theorem Quiet.answer {question : Nat} {printed typed : List U8} (quiet : Quiet question printed typed)
    (asked : question + 1 < 3) :
    Quiet (question + 1) (printed ++ 0x0a :: promptAt (question + 1)) [] := by
  have fresh : (promptAt (question + 1)).getLast? = some space := by
    obtain ⟨stem, same⟩ := (isPrompt_promptAt asked).ends
    rw [same, List.getLast?_concat]
  refine quiet.of_absent (Nat.le_succ _) (fun prompt isPrompt absent which occurs => ?_) ?_
  · rcases infix_of_infix_append_cons isPrompt.inLine occurs with before | inside
    · exact absent before
    · have other : question + 1 = 1 ∨ question + 1 = 2 := by omega
      rcases which with rfl | ⟨k, behind, few, rfl⟩
      · rcases other with first | second
        · rw [first] at inside
          exact absurd inside (by decide)
        · rw [second] at inside
          exact absurd inside (by decide)
      · rcases other with first | second
        · rw [first] at inside
          obtain rfl : k = 2 := by omega
          exact absurd inside (by decide)
        · omega
  · intro closed
    rw [List.getLast?_append, List.getLast?_cons, fresh] at closed
    have same : some space = some colon := closed
    exact absurd same (by decide)

/-- A word completes no prompt. -/
theorem IsPrompt.not_infix_append {prompt printed word : List U8} (isPrompt : IsPrompt prompt)
    (absent : ¬ prompt <:+: printed) (oneWord : space ∉ word) : ¬ prompt <:+: printed ++ word := by
  obtain ⟨stem, rfl⟩ := isPrompt.ends
  exact not_infix_append_of_not_mem absent oneWord

/-- A space completes no prompt unless a colon stands before it. -/
theorem IsPrompt.not_infix_concat_space {prompt printed : List U8} {b : U8}
    (isPrompt : IsPrompt prompt) (absent : ¬ prompt <:+: printed ++ [b]) (other : b ≠ colon) :
    ¬ prompt <:+: printed ++ [b] ++ [space] := by
  obtain ⟨stem, rfl⟩ := isPrompt.ends
  apply not_infix_concat absent
  intro ends
  exact other (suffix_concat_concat (suffix_concat_concat ends).2).1.symm

/-- The notice of an error completes no prompt. -/
theorem IsPrompt.not_infix_errorLine {prompt printed e : List U8} (isPrompt : IsPrompt prompt)
    (absent : ¬ prompt <:+: printed) (name : space ∉ e) : ¬ prompt <:+: printed ++ errorLine e := by
  have uart : ¬ prompt <:+: printed ++ (asciiBytes "uar" ++ [0x74]) :=
    isPrompt.not_infix_append absent (by decide)
  rw [← List.append_assoc] at uart
  have read : ¬ prompt <:+: printed ++ asciiBytes "uar" ++ [0x74] ++ [space] ++
      (asciiBytes "rea" ++ [0x64]) :=
    isPrompt.not_infix_append (isPrompt.not_infix_concat_space uart (by decide)) (by decide)
  rw [← List.append_assoc] at read
  have error : ¬ prompt <:+: printed ++ asciiBytes "uar" ++ [0x74] ++ [space] ++ asciiBytes "rea" ++
      [0x64] ++ [space] ++ asciiBytes "error:" :=
    isPrompt.not_infix_append (isPrompt.not_infix_concat_space read (by decide)) (by decide)
  have whole := not_infix_concat error fun ends => isPrompt.notError _ (by
    rw [List.append_assoc] at ends
    exact ends)
  have notice := isPrompt.not_infix_append whole name
  intro occurs
  have joined : printed ++ errorLine e = printed ++ asciiBytes "uar" ++ [0x74] ++ [space] ++
      asciiBytes "rea" ++ [0x64] ++ [space] ++ asciiBytes "error:" ++ [space] ++ e ++
        0x0a :: [] := by
    simp only [errorLine, List.append_assoc]
    rfl
  rw [joined] at occurs
  rcases infix_of_infix_append_cons isPrompt.inLine occurs with inside | nothing
  · simp only [List.append_assoc] at inside notice
    exact notice inside
  · obtain ⟨stem, rfl⟩ := isPrompt.ends
    have empty := List.eq_nil_of_infix_nil nothing
    simp at empty

/-- The notice of an error completes no prompt. -/
theorem Quiet.failed {question : Nat} {printed typed : List U8} (quiet : Quiet question printed typed)
    {e : List U8} (name : space ∉ e) : Quiet question (printed ++ errorLine e) typed := by
  refine quiet.of_absent le_rfl
    (fun prompt isPrompt absent _ => isPrompt.not_infix_errorLine absent name) ?_
  intro closed
  unfold errorLine at closed
  rw [← List.append_assoc, List.getLast?_concat] at closed
  exact absurd closed (by decide)

/-! ## The script -/

/-- The script has answered the first questions and no other prompt. -/
structure Driver.Sent (driver : Driver) (count : Nat) : Prop where
  /-- The first. -/
  ssid : driver.sentSsid = decide (1 ≤ count)
  /-- The second. -/
  pass : driver.sentPass = decide (2 ≤ count)
  /-- The third. -/
  server : driver.sentServer = decide (3 ≤ count)
  /-- None for the BSSID. -/
  bssid : driver.sentBssid = false

/-- What the script answers to the questions. -/
def linesOf (args : Arguments) : List (List U8) :=
  [utf8 args.ssid, utf8 args.password, asciiBytes "0.0.0.0"]

/-- Its answer to one of them. -/
def lineAt (args : Arguments) (question : Nat) : List U8 := (linesOf args)[question]?.getD []

/-- What the firmware makes of them. -/
def answersOf (args : Arguments) : List (List Char) := (linesOf args).map textOf

/-- The script answers the prompt of its next question. -/
theorem reply_prompt (args : Arguments) {driver : Driver} {question : Nat} {tail : List U8}
    (sent : driver.Sent question) (asked : question < 3) (quiet : ¬ bssidPrompt <:+ tail)
    (ends : promptAt question <:+ tail) :
    ∃ after, driver.reply args tail = (after, lineAt args question ++ lineEnd) ∧
      after.Sent (question + 1) ∧ after.buf = driver.buf := by
  obtain ⟨ssid, pass, server, bssid⟩ := sent
  have here : endsWith tail (promptAt question) = true := decide_eq_true ends
  have silent : endsWith tail (asciiBytes "bssid: ") = false := decide_eq_false quiet
  unfold Driver.reply
  match question with
  | 0 =>
    have first : endsWith tail (asciiBytes "ssid: ") = true := here
    rw [if_pos (by simp [ssid, first])]
    exact ⟨_, rfl, ⟨rfl, pass, server, bssid⟩, rfl⟩
  | 1 =>
    have second : endsWith tail (asciiBytes "pass: ") = true := here
    rw [if_neg (by simp [ssid]), if_pos (by simp [pass, second])]
    exact ⟨_, rfl, ⟨ssid, rfl, server, bssid⟩, rfl⟩
  | 2 =>
    have third : endsWith tail (asciiBytes "server: ") = true := here
    rw [if_neg (by simp [ssid]), if_neg (by simp [pass]), if_neg (by simp [silent]),
      if_pos (by simp [server, third])]
    exact ⟨_, rfl, ⟨ssid, pass, rfl, bssid⟩, rfl⟩

/-- It answers nothing else. -/
theorem reply_silent (args : Arguments) {driver : Driver} {count : Nat} {tail : List U8}
    (sent : driver.Sent count) (quiet : ¬ bssidPrompt <:+ tail)
    (silent : ∀ question, count ≤ question → question < 3 → ¬ promptAt question <:+ tail) :
    driver.reply args tail = (driver, []) := by
  obtain ⟨ssid, pass, server, bssid⟩ := sent
  have no_bssid : endsWith tail (asciiBytes "bssid: ") = false := decide_eq_false quiet
  have no_ssid : (!driver.sentSsid && endsWith tail (asciiBytes "ssid: ")) = false := by
    by_cases first : 1 ≤ count
    · simp [ssid, first]
    · have none : endsWith tail (asciiBytes "ssid: ") = false :=
        decide_eq_false (silent 0 (by omega) (by decide))
      simp [none]
  have no_pass : (!driver.sentPass && endsWith tail (asciiBytes "pass: ")) = false := by
    by_cases second : 2 ≤ count
    · simp [pass, second]
    · have none : endsWith tail (asciiBytes "pass: ") = false :=
        decide_eq_false (silent 1 (by omega) (by decide))
      simp [none]
  have no_server : (!driver.sentServer && endsWith tail (asciiBytes "server: ")) = false := by
    by_cases third : 3 ≤ count
    · simp [server, third]
    · have none : endsWith tail (asciiBytes "server: ") = false :=
        decide_eq_false (silent 2 (by omega) (by decide))
      simp [none]
  unfold Driver.reply
  simp [no_bssid, no_ssid, no_pass, no_server]

/-! ## Stages of the exchange -/

/-- Everything the board has printed. -/
def Exchange.printed (state : Exchange) : List U8 := state.driver.buf ++ state.toDriver

/-- Where the exchange stands. The flag says whether a read of the board has failed. -/
inductive Stage (args : Arguments) (failed : Bool) (state : Exchange) : Prop where
  /-- The board has asked a question that the script has not answered. -/
  | asking (question : Nat) (asked : question < 3) (sent : state.driver.Sent question)
      (board : state.board = ⟨(answersOf args).take question, []⟩) (line : state.toBoard = [])
      (quiet : Quiet question state.printed [])
      (fresh : failed = false → promptAt question <:+ state.printed ∧ state.toDriver ≠ [])
  /-- The script has answered, and the board has read some of the line. -/
  | answering (question : Nat) (asked : question < 3) (sent : state.driver.Sent (question + 1))
      (typed rest : List U8) (whole : lineAt args question = typed ++ rest)
      (board : state.board = ⟨(answersOf args).take question, textOf typed⟩)
      (line : state.toBoard = rest ++ lineEnd)
      (quiet : Quiet question state.printed (typed.flatMap echo))
  /-- The board has read all of the line but its end. -/
  | ending (question : Nat) (asked : question < 3) (sent : state.driver.Sent (question + 1))
      (board : state.board = ⟨(answersOf args).take question, textOf (lineAt args question)⟩)
      (line : state.toBoard = [0x0a])
      (quiet : Quiet question state.printed ((lineAt args question).flatMap echo))
  /-- All questions are answered. -/
  | answered (board : state.board.answers = answersOf args)

/-- The answers that a board has are those it is to read, as far as it has come. -/
theorem Stage.answers_prefix {args : Arguments} {failed : Bool} {state : Exchange}
    (stage : Stage args failed state) : state.board.answers <+: answersOf args := by
  cases stage with
  | asking question asked sent board line quiet fresh =>
    rw [board]
    exact List.take_prefix _ _
  | answering question asked sent typed rest whole board line quiet =>
    rw [board]
    exact List.take_prefix _ _
  | ending question asked sent board line quiet =>
    rw [board]
    exact List.take_prefix _ _
  | answered board => rw [board]

/-- Without a failed read some byte is on its way until all questions are answered. -/
theorem Stage.moving {args : Arguments} {state : Exchange} (stage : Stage args false state)
    (drained : state.toDriver = [] ∧ state.toBoard = []) : state.board.answers = answersOf args := by
  cases stage with
  | asking question asked sent board line quiet fresh => exact absurd drained.1 (fresh rfl).2
  | answering question asked sent typed rest whole board line quiet =>
    rw [line] at drained
    exact absurd drained.2 (by simp [lineEnd])
  | ending question asked sent board line quiet =>
    rw [line] at drained
    exact absurd drained.2 (by simp)
  | answered board => exact board

/-! ## Steps of the exchange -/

/-- Text that survives the bootstrap: within ASCII, without a key that the firmware takes for more
than itself, and without a colon before a space, which ends a prompt. -/
structure Enterable (text : List Char) : Prop where
  /-- Each character is a byte. -/
  ascii : IsAscii text
  /-- None ends the line or erases. -/
  keys : ∀ c ∈ text, c ∉ ['\n', '\r', '\x08', '\x7f']
  /-- The echo ends like no prompt. -/
  apart : ¬ [':', ' '] <:+: text

/-- A character within ASCII is known by its byte. -/
theorem char_of_byte {c d : Char} (ascii : c.toNat < 128) (other : d.toNat < 128)
    (same : BitVec.ofNat 8 c.toNat = BitVec.ofNat 8 d.toNat) : c = d := by
  have numbers := congrArg BitVec.toNat same
  rw [BitVec.toNat_ofNat, BitVec.toNat_ofNat, Nat.mod_eq_of_lt (by omega),
    Nat.mod_eq_of_lt (by omega)] at numbers
  exact Char.toNat_inj.mp numbers

/-- The bytes of such a text are typed as text. -/
theorem Enterable.isText {text : List Char} (enterable : Enterable text) :
    ∀ b ∈ utf8 text, IsText b := by
  rw [utf8_of_isAscii enterable.ascii]
  intro b member
  obtain ⟨c, inside, rfl⟩ := List.mem_map.mp member
  have small := enterable.ascii c inside
  have keys := enterable.keys c inside
  simp only [List.mem_cons, List.not_mem_nil, or_false, not_or] at keys
  obtain ⟨feed, carriage, back, delete⟩ := keys
  exact ⟨fun same => feed (char_of_byte small (by decide) same),
    fun same => carriage (char_of_byte small (by decide) same),
    fun same => back (char_of_byte small (by decide) same),
    fun same => delete (char_of_byte small (by decide) same)⟩

/-- All of them are echoed. -/
theorem Enterable.echo {text : List Char} (enterable : Enterable text) :
    (utf8 text).flatMap echo = utf8 text := by
  rw [utf8_of_isAscii enterable.ascii, List.flatMap_map, List.map_eq_flatMap]
  refine List.flatMap_congr fun c member => ?_
  have small := enterable.ascii c member
  rw [Firmware.echo, BitVec.toNat_ofNat, Nat.mod_eq_of_lt (by omega), if_pos small]

/-- And the echo has no colon before a space. -/
theorem Enterable.apart_echo {text : List Char} (enterable : Enterable text) :
    ¬ [colon, space] <:+: (utf8 text).flatMap Firmware.echo := by
  rw [enterable.echo, utf8_of_isAscii enterable.ascii]
  rintro ⟨before, after, split⟩
  obtain ⟨front, back, rfl, middle, -⟩ := List.map_eq_append_iff.mp split.symm
  obtain ⟨start, pair, rfl, -, bytes⟩ := List.map_eq_append_iff.mp middle
  obtain ⟨c, rest, rfl, first, bytes⟩ := List.map_eq_cons_iff.mp bytes
  obtain ⟨d, rest, rfl, second, bytes⟩ := List.map_eq_cons_iff.mp bytes
  obtain rfl := List.map_eq_nil_iff.mp bytes
  obtain rfl : c = ':' := char_of_byte (enterable.ascii c (by simp)) (by decide) first
  obtain rfl : d = ' ' := char_of_byte (enterable.ascii d (by simp)) (by decide) second
  exact enterable.apart ⟨start, back, rfl⟩

/-- Arguments that survive it. -/
structure Arguments.Plain (args : Arguments) : Prop where
  /-- The name of the network. -/
  ssid : Enterable args.ssid
  /-- Its password. -/
  password : Enterable args.password

/-- Then all answers of the script are. -/
theorem Arguments.Plain.lineAt {args : Arguments} (plain : args.Plain) {question : Nat}
    (asked : question < 3) :
    (∀ b ∈ lineAt args question, IsText b) ∧
      ¬ [colon, space] <:+: (lineAt args question).flatMap echo := by
  match question with
  | 0 => exact ⟨plain.ssid.isText, plain.ssid.apart_echo⟩
  | 1 => exact ⟨plain.password.isText, plain.password.apart_echo⟩
  | 2 =>
    constructor
    · intro b member
      fin_cases member
      all_goals decide
    · show ¬ [colon, space] <:+: (asciiBytes "0.0.0.0").flatMap echo
      decide

/-- With a question open the board is not done. -/
theorem answered_take (args : Arguments) {question : Nat} (asked : question < 3) (out : List Char) :
    (⟨(answersOf args).take question, out⟩ : Bootstrap).answered = false := by
  apply decide_eq_false
  have length := List.length_take_le question (answersOf args)
  dsimp only
  omega

/-- One answer more. -/
theorem take_answersOf_succ (args : Arguments) {question : Nat} (asked : question < 3) :
    (answersOf args).take question ++ [textOf (lineAt args question)] =
      (answersOf args).take (question + 1) := by
  match question with
  | 0 => rfl
  | 1 => rfl
  | 2 => rfl

/-- A read of nothing changes nothing. -/
theorem boardRead_nothing (state : Exchange) : state.boardRead .nothing state.toBoard = state := by
  unfold Exchange.boardRead
  split
  · rfl
  · simp [Bootstrap.read]

/-- A read while a question is open. -/
theorem boardRead_open {state : Exchange} (open_question : state.board.answered = false)
    (read : UartRead) (toBoard : List U8) :
    state.boardRead read toBoard =
      { state with
        board := (state.board.read read).1
        toDriver := state.toDriver ++ (state.board.read read).2
        toBoard := toBoard } := by
  unfold Exchange.boardRead
  rw [if_neg (by rw [open_question]; exact Bool.false_ne_true)]

/-- Once all questions are answered the board reads no more. -/
theorem boardRead_answered {args : Arguments} {state : Exchange}
    (board : state.board.answers = answersOf args) (read : UartRead) (toBoard : List U8) :
    state.boardRead read toBoard = state := by
  have done : state.board.answered = true := by
    unfold Bootstrap.answered
    rw [board]
    rfl
  unfold Exchange.boardRead
  rw [if_pos done]

/-- What the board prints comes behind what it has printed. -/
theorem printed_append (state : Exchange) (board : Bootstrap) (text toBoard : List U8) :
    ({ state with
      board := board
      toDriver := state.toDriver ++ text
      toBoard := toBoard } : Exchange).printed = state.printed ++ text := by
  unfold Exchange.printed
  rw [List.append_assoc]

/-- The echo of a byte of the line keeps the output quiet. -/
theorem Quiet.echoed {question : Nat} {printed typed : List U8} {b : U8}
    (quiet : Quiet question printed (typed.flatMap Firmware.echo))
    (apart : ¬ [colon, space] <:+: (typed ++ [b]).flatMap Firmware.echo) :
    Quiet question (printed ++ Firmware.echo b) ((typed ++ [b]).flatMap Firmware.echo) := by
  rw [List.flatMap_append, List.flatMap_singleton] at apart ⊢
  unfold Firmware.echo at apart ⊢
  split
  · rename_i ascii
    rw [if_pos ascii] at apart
    exact quiet.echo apart
  · rw [List.append_nil, List.append_nil]
    exact quiet

/-- A read of the board keeps the stage. -/
theorem Stage.boardReads {args : Arguments} {failed : Bool} {state : Exchange}
    (stage : Stage args failed state) (plain : args.Plain) :
    Stage args failed (state.step args .boardReads) := by
  cases stage with
  | asking question asked sent board line quiet fresh =>
    have idle := boardRead_nothing state
    rw [line] at idle
    unfold Exchange.step
    simp only [line]
    rw [idle]
    exact .asking question asked sent board line quiet fresh
  | answering question asked sent typed rest whole board line quiet =>
    have open_question := answered_take args asked (textOf typed)
    rw [← board] at open_question
    cases rest with
    | nil =>
      have next : state.step args .boardReads = state.boardRead (.byte 0x0d) [0x0a] := by
        unfold Exchange.step
        simp [line, lineEnd]
      rw [next, boardRead_open open_question]
      rw [List.append_nil] at whole
      refine .ending question asked sent ?_ rfl ?_
      · rw [whole]
        exact board
      · rw [printed_append, whole]
        have silent : (state.board.read (.byte 0x0d)).2 = [] := rfl
        rw [silent, List.append_nil]
        exact quiet
    | cons b rest =>
      have next : state.step args .boardReads = state.boardRead (.byte b) (rest ++ lineEnd) := by
        unfold Exchange.step
        simp [line]
      obtain ⟨text, apart⟩ := plain.lineAt asked
      rw [whole] at text apart
      have isText : IsText b := text b (List.mem_append_right _ List.mem_cons_self)
      have read : state.board.read (.byte b) =
          ({ state.board with out := state.board.out ++ [byteChar b] }, Firmware.echo b) :=
        take_of_isText state.board isText
      rw [next, boardRead_open open_question, read]
      refine .answering question asked sent (typed ++ [b]) rest ?_ ?_ rfl ?_
      · rw [whole, List.append_assoc]
        rfl
      · rw [board]
        simp [textOf]
      · rw [printed_append]
        apply quiet.echoed
        intro occurs
        apply apart
        have split : typed ++ b :: rest = typed ++ [b] ++ rest := by
          rw [List.append_assoc]
          rfl
        rw [split, List.flatMap_append]
        exact occurs.trans (List.infix_append' [] _ _)
  | ending question asked sent board line quiet =>
    have open_question := answered_take args asked (textOf (Firmware.lineAt args question))
    rw [← board] at open_question
    have next : state.step args .boardReads = state.boardRead (.byte 0x0a) [] := by
      unfold Exchange.step
      simp [line]
    have length : state.board.answers.length = question := by
      rw [board, List.length_take]
      have three : (answersOf args).length = 3 := rfl
      omega
    have read : state.board.read (.byte 0x0a) =
        (⟨state.board.answers ++ [state.board.out], []⟩, 0x0a :: promptAt (question + 1)) := by
      rw [← length]
      rfl
    have answers : state.board.answers ++ [state.board.out] =
        (answersOf args).take (question + 1) := by
      rw [board]
      exact take_answersOf_succ args asked
    rw [next, boardRead_open open_question, read, answers]
    by_cases more : question + 1 < 3
    · refine .asking (question + 1) more sent rfl rfl ?_ fun _ => ⟨?_, by simp⟩
      · rw [printed_append]
        exact quiet.answer more
      · rw [printed_append]
        exact (List.suffix_cons _ _).trans (List.suffix_append _ _)
    · obtain rfl : question = 2 := by omega
      exact .answered rfl
  | answered board =>
    have same : state.step args .boardReads = state := by
      unfold Exchange.step
      cases state.toBoard with
      | nil => exact boardRead_answered board _ _
      | cons b rest => exact boardRead_answered board _ _
    rw [same]
    exact .answered board

/-- A failed read keeps the stage, but may hide a prompt from the script. -/
theorem Stage.boardFails {args : Arguments} {failed : Bool} {state : Exchange}
    (stage : Stage args failed state) {e : List U8} (name : space ∉ e) :
    Stage args true (state.boardRead (.failed e) state.toBoard) := by
  cases stage with
  | asking question asked sent board line quiet fresh =>
    have open_question := answered_take args asked []
    rw [← board] at open_question
    rw [boardRead_open open_question]
    refine .asking question asked sent board line ?_ fun impossible => nomatch impossible
    rw [printed_append]
    exact quiet.failed name
  | answering question asked sent typed rest whole board line quiet =>
    have open_question := answered_take args asked (textOf typed)
    rw [← board] at open_question
    rw [boardRead_open open_question]
    refine .answering question asked sent typed rest whole board line ?_
    rw [printed_append]
    exact quiet.failed name
  | ending question asked sent board line quiet =>
    have open_question := answered_take args asked (textOf (Firmware.lineAt args question))
    rw [← board] at open_question
    rw [boardRead_open open_question]
    refine .ending question asked sent board line ?_
    rw [printed_append]
    exact quiet.failed name
  | answered board =>
    rw [boardRead_answered board]
    exact .answered board

/-- Reading leaves what was sent. -/
theorem Driver.Sent.read {driver : Driver} {count : Nat} (sent : driver.Sent count)
    (chunk : List U8) : (driver.read chunk).Sent count :=
  ⟨sent.ssid, sent.pass, sent.server, sent.bssid⟩

/-- What the script reads has been printed. -/
theorem infix_printed {state : Exchange} {pattern : List U8} {count : Nat}
    (ends : pattern <:+ (state.driver.read (state.toDriver.take count)).tail) :
    pattern <:+: state.printed := by
  have read : pattern <:+ state.driver.buf ++ state.toDriver.take count :=
    ends.trans (List.drop_suffix _ _)
  apply read.isInfix.trans
  apply List.IsPrefix.isInfix
  exact ⟨state.toDriver.drop count, by
    rw [List.append_assoc, List.take_append_drop]
    rfl⟩

/-- What is read moves from the line to the script. -/
theorem printed_driver (state : Exchange) (driver : Driver) (count : Nat) (toBoard : List U8)
    (buf : driver.buf = state.driver.buf ++ state.toDriver.take count) :
    ({ state with
      toDriver := state.toDriver.drop count
      driver := driver
      toBoard := toBoard } : Exchange).printed = state.printed := by
  unfold Exchange.printed
  dsimp only
  rw [buf, List.append_assoc, List.take_append_drop]

/-- A chunk that the script does not answer only moves. -/
theorem driverReads_silent {args : Arguments} {state : Exchange} {count : Nat}
    (silent : (state.driver.read (state.toDriver.take (min count 256))).reply args
        (state.driver.read (state.toDriver.take (min count 256))).tail =
      (state.driver.read (state.toDriver.take (min count 256)), [])) :
    state.step args (.driverReads count) =
      { state with
        toDriver := state.toDriver.drop (min count 256)
        driver := state.driver.read (state.toDriver.take (min count 256)) } := by
  unfold Exchange.step Driver.take
  dsimp only
  split
  · rename_i empty
    have nothing := List.isEmpty_iff.mp empty
    simp [nothing, Driver.read]
  · rw [silent, List.append_nil]

/-- A read of nothing changes nothing for the script either. -/
theorem driverReads_nothing {args : Arguments} {state : Exchange} {count : Nat}
    (nothing : state.toDriver.take (min count 256) = []) :
    state.step args (.driverReads count) = state := by
  have left := List.take_append_drop (min count 256) state.toDriver
  rw [nothing, List.nil_append] at left
  unfold Exchange.step Driver.take
  dsimp only
  rw [if_pos (by rw [nothing]; rfl), left, List.append_nil]

/-- Prompts that are answered are not answered again, and later ones have not been printed. -/
theorem driverReads_kept (args : Arguments) {state : Exchange} {question : Nat}
    (sent : state.driver.Sent (question + 1)) {typed : List U8}
    (quiet : Quiet question state.printed typed) (count : Nat) :
    state.step args (.driverReads count) =
      { state with
        toDriver := state.toDriver.drop (min count 256)
        driver := state.driver.read (state.toDriver.take (min count 256)) } :=
  driverReads_silent (reply_silent args (sent.read _) (fun ends => quiet.bssid (infix_printed ends))
    fun next behind asked ends => quiet.later next behind asked (infix_printed ends))

/-- A prompt at the end of all that was printed is seen when the script has read it. -/
theorem suffix_tail {driver : Driver} {question : Nat} (asked : question < 3)
    (ends : promptAt question <:+ driver.buf) : promptAt question <:+ driver.tail := by
  have length := window_length 80 driver.buf
  have short : (promptAt question).length ≤ 8 := by
    match question with
    | 0 => decide
    | 1 => decide
    | 2 => decide
  have whole := ends.length_le
  apply List.suffix_of_suffix_length_le ends (List.drop_suffix _ _)
  unfold window at length
  omega

/-- A chunk that the script reads keeps the stage or answers the question. -/
theorem Stage.driverReads {args : Arguments} {failed : Bool} {state : Exchange}
    (stage : Stage args failed state) (count : Nat) :
    Stage args failed (state.step args (.driverReads count)) := by
  cases stage with
  | asking question asked sent board line quiet fresh =>
    have silent : ¬ bssidPrompt <:+ (state.driver.read (state.toDriver.take (min count 256))).tail :=
      fun ends => quiet.bssid (infix_printed ends)
    by_cases here : promptAt question <:+
        (state.driver.read (state.toDriver.take (min count 256))).tail
    · by_cases nothing : state.toDriver.take (min count 256) = []
      · rw [driverReads_nothing nothing]
        exact .asking question asked sent board line quiet fresh
      · obtain ⟨after, replied, sent_more, buf⟩ := reply_prompt args
          (sent.read (state.toDriver.take (min count 256))) asked silent here
        have next : state.step args (.driverReads count) =
            { state with
              toDriver := state.toDriver.drop (min count 256)
              driver := after
              toBoard := lineAt args question ++ lineEnd } := by
          unfold Exchange.step Driver.take
          dsimp only
          rw [if_neg (by rwa [List.isEmpty_iff]), replied, line, List.nil_append]
        rw [next]
        refine .answering question asked sent_more [] (Firmware.lineAt args question) rfl board rfl ?_
        rw [printed_driver state after _ _ buf]
        exact quiet
    · have still := reply_silent args (sent.read (state.toDriver.take (min count 256))) silent
        fun next behind few ends => by
          rcases Nat.eq_or_lt_of_le behind with rfl | later
          · exact here ends
          · exact quiet.later next later few (infix_printed ends)
      rw [driverReads_silent still]
      refine .asking question asked (sent.read _) board line ?_ fun clean => ⟨?_, fun read_all => ?_⟩
      · rw [printed_driver state _ _ _ rfl]
        exact quiet
      · rw [printed_driver state _ _ _ rfl]
        exact (fresh clean).1
      · apply here
        apply suffix_tail asked
        have all := printed_driver state (state.driver.read (state.toDriver.take (min count 256)))
          (min count 256) state.toBoard rfl
        unfold Exchange.printed at all
        dsimp only at all read_all
        rw [read_all, List.append_nil] at all
        rw [all]
        exact (fresh clean).1
  | answering question asked sent typed rest whole board line quiet =>
    rw [driverReads_kept args sent quiet]
    refine .answering question asked (sent.read _) typed rest whole board line ?_
    rw [printed_driver state _ _ _ rfl]
    exact quiet
  | ending question asked sent board line quiet =>
    rw [driverReads_kept args sent quiet]
    refine .ending question asked (sent.read _) board line ?_
    rw [printed_driver state _ _ _ rfl]
    exact quiet
  | answered board => exact .answered board

/-! ## Runs of the exchange -/

/-- Whether an action is a read that fails. -/
def ExchangeAction.fails : ExchangeAction → Bool
  | .boardFails _ => true
  | _ => false

/-- The name of an error is a word. -/
def ExchangeAction.Named : ExchangeAction → Prop
  | .boardFails e => space ∉ e
  | _ => True

/-- Whether a read has failed does not matter to the stage but for the hidden prompt. -/
theorem Stage.or_false {args : Arguments} {failed : Bool} {state : Exchange}
    (stage : Stage args failed state) : Stage args (failed || false) state := by
  rw [Bool.or_false]
  exact stage

/-- Every step keeps the stage. -/
theorem Stage.step {args : Arguments} {failed : Bool} {state : Exchange}
    (stage : Stage args failed state) (plain : args.Plain) {action : ExchangeAction}
    (named : action.Named) : Stage args (failed || action.fails) (state.step args action) := by
  cases action with
  | boardReads => exact (stage.boardReads plain).or_false
  | boardWaits =>
    have same : state.step args .boardWaits = state := boardRead_nothing state
    rw [same]
    exact stage.or_false
  | boardFails e =>
    have flagged : (failed || (ExchangeAction.boardFails e).fails) = true := Bool.or_true failed
    rw [flagged]
    exact stage.boardFails named
  | boardLogs text =>
    apply Stage.or_false
    unfold Exchange.step
    dsimp only
    split
    · rename_i done
      have all := stage.answers_prefix
      apply Stage.answered
      apply all.eq_of_length
      have few := all.length_le
      have enough : 3 ≤ state.board.answers.length := of_decide_eq_true done
      have three : (answersOf args).length = 3 := rfl
      omega
    · exact stage
  | driverReads count => exact (stage.driverReads count).or_false

/-- What the board prints while it starts does not end like a later prompt. -/
structure CleanBoot (boot : List U8) : Prop where
  /-- Not like the one for the BSSID. -/
  bssid : ¬ bssidPrompt <:+: boot
  /-- Not like the second or the third. -/
  later : ∀ next, 0 < next → next < 3 → ¬ promptAt next <:+: boot

/-- The board has asked its first question. -/
theorem stage_start (args : Arguments) {boot : List U8} (clean : CleanBoot boot) :
    Stage args false (exchanging args boot).start := by
  have printed : (exchanging args boot).start.printed = boot ++ 0x0a :: promptAt 0 := rfl
  refine .asking 0 (by decide) ⟨rfl, rfl, rfl, rfl⟩ rfl rfl ⟨?_, ?_, ?_⟩ fun _ => ⟨?_, ?_⟩
  · rw [printed]
    intro occurs
    rcases infix_of_infix_append_cons isPrompt_bssid.inLine occurs with before | inside
    · exact clean.bssid before
    · exact absurd inside (by decide)
  · intro next behind asked occurs
    rw [printed] at occurs
    rcases infix_of_infix_append_cons (isPrompt_promptAt asked).inLine occurs with before | inside
    · exact clean.later next behind asked before
    · have which : next = 1 ∨ next = 2 := by omega
      rcases which with rfl | rfl
      · exact absurd inside (by decide)
      · exact absurd inside (by decide)
  · rw [printed, List.getLast?_append]
    intro closed
    have same : some space = some colon := closed
    exact absurd same (by decide)
  · rw [printed]
    exact (List.suffix_cons _ _).trans (List.suffix_append _ _)
  · simp [exchanging]

/-- **The bootstrap.** The name and the password are text that survives the bootstrap, the board
prints nothing like a later prompt while it starts, and errors are named by a word. Then in every
run of board and script, in whatever order they read and print and however the script's chunks
are cut, the answers that the board has read are, in order, the name, the password and the
address that the script was to give. If no read failed and nothing is on the line any more, the
board has all of them. -/
theorem bootstrap_of_run {args : Arguments} {boot : List U8} {actions : List ExchangeAction}
    {state : Exchange} (plain : args.Plain) (clean : CleanBoot boot)
    (named : ∀ action ∈ actions, action.Named)
    (reached : (exchanging args boot).run actions = .ok state) :
    state.board.answers <+: [args.ssid, args.password, "0.0.0.0".toList] ∧
      ((∀ action ∈ actions, action.fails = false) → state.toDriver = [] → state.toBoard = [] →
        state.board.answers = [args.ssid, args.password, "0.0.0.0".toList]) := by
  have stage : Stage args (actions.any ExchangeAction.fails) state := by
    refine System.run_induction
      (motive := fun actions state => (∀ action ∈ actions, action.Named) →
        Stage args (actions.any ExchangeAction.fails) state)
      (fun _ => stage_start args clean)
      (fun actions before action after _ held stepped all_named => ?_) reached named
    have earlier := held fun other member => all_named other (List.mem_append_left _ member)
    have now := all_named action (List.mem_append_right _ (List.mem_singleton.mpr rfl))
    rw [List.any_append, List.any_cons, List.any_nil, Bool.or_false, ← Except.ok.inj stepped]
    exact earlier.step plain now
  have texts : answersOf args = [args.ssid, args.password, "0.0.0.0".toList] := by
    have address : textOf (asciiBytes "0.0.0.0") = "0.0.0.0".toList := by decide
    rw [answersOf, linesOf, List.map_cons, List.map_cons, List.map_singleton, address,
      (textOf_utf8_iff _).mpr plain.ssid.ascii, (textOf_utf8_iff _).mpr plain.password.ascii]
  rw [← texts]
  refine ⟨stage.answers_prefix, fun unfailed printed written => ?_⟩
  have none_failed : actions.any ExchangeAction.fails = false := by
    apply List.any_eq_false.mpr
    intro action member
    rw [unfailed action member]
    exact Bool.false_ne_true
  rw [none_failed] at stage
  exact stage.moving ⟨printed, written⟩

/-- A network named with a space, and a password with a colon. -/
def homeNetwork : Arguments := ⟨"my net".toList, "pw:1".toList, []⟩

/-- Each side reads what there is, three times over. -/
def takingTurns : List ExchangeAction :=
  (List.replicate 3 (.driverReads 256 :: List.replicate 9 .boardReads)).flatten ++
    [.driverReads 256]

/-- Then the board knows the network. -/
theorem bootstrap_of_run_home_network :
    ∃ state, (exchanging homeNetwork (asciiBytes "boot")).run takingTurns = .ok state ∧
      state.board.answers = ["my net".toList, "pw:1".toList, "0.0.0.0".toList] := by
  obtain ⟨state, ran, drained⟩ := exists_of_map_eq_ok (show
    ((exchanging homeNetwork (asciiBytes "boot")).run takingTurns).map
      (fun state => (state.toDriver, state.toBoard)) = .ok ([], []) by decide +kernel)
  obtain ⟨printed, written⟩ := Prod.mk.inj drained
  have plain : homeNetwork.Plain :=
    ⟨⟨by simp [IsAscii, homeNetwork], by simp [homeNetwork], by decide⟩,
      ⟨by simp [IsAscii, homeNetwork], by simp [homeNetwork], by decide⟩⟩
  have clean : CleanBoot (asciiBytes "boot") := by
    refine ⟨by decide, fun next behind asked => ?_⟩
    have which : next = 1 ∨ next = 2 := by omega
    rcases which with rfl | rfl
    · decide
    · decide
  have reads : ∀ action ∈ takingTurns, action = .driverReads 256 ∨ action = .boardReads := by
    intro action member
    simp only [takingTurns, List.mem_append, List.mem_flatten, List.mem_replicate] at member
    rcases member with ⟨turn, ⟨_, rfl⟩, inside⟩ | last
    · rcases List.mem_cons.mp inside with rfl | read
      · exact .inl rfl
      · exact .inr (List.eq_of_mem_replicate read)
    · exact .inl (List.mem_singleton.mp last)
  have named : ∀ action ∈ takingTurns, action.Named := by
    intro action member
    rcases reads action member with rfl | rfl
    · trivial
    · trivial
  have unfailed : ∀ action ∈ takingTurns, action.fails = false := by
    intro action member
    rcases reads action member with rfl | rfl
    · rfl
    · rfl
  exact ⟨state, ran, (bootstrap_of_run plain clean named ran).2 unfailed printed written⟩

end Firmware

end EspClockSync
