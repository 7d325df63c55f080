import EspClockSync.Machine.Checked
import EspClockSync.Machine.Text

/-!
# The bootstrap of the example firmware

Before it joins the network the firmware asks three questions on its serial port and reads a line
after each. A line ends at a line feed; carriage returns are skipped, a backspace takes back the
last character, and what is typed is echoed.
-/

namespace EspClockSync

open Machine

namespace Firmware

/-- The bytes of a text within ASCII. -/
def asciiBytes (text : String) : List U8 := text.toList.map fun c => BitVec.ofNat 8 c.toNat

/-- What one read of the UART returns. -/
inductive UartRead where
  /-- `Ok(0)`. -/
  | nothing
  /-- A byte. -/
  | byte (b : U8)
  /-- An error, by its name. -/
  | failed (e : List U8)

/-- The variables of `main` and `read_line` while the questions are asked. -/
structure Bootstrap where
  /-- The lines read so far, in the order of the questions. -/
  answers : List (List Char)
  /-- `out`: the line being read. -/
  out : List Char
  deriving DecidableEq

/-- Nothing has been read. -/
def Bootstrap.start : Bootstrap := ⟨[], []⟩

/-- The prompts of the three calls of `read_line`. -/
def prompts : List (List U8) := [asciiBytes "ssid: ", asciiBytes "pass: ", asciiBytes "server: "]

/-- What a call of `read_line` prints first. There is none after the last question. -/
def promptAt (question : Nat) : List U8 := prompts[question]?.getD []

/-- `b as char`. -/
def byteChar (b : U8) : Char := Char.ofNat b.toNat

/-- The echo of a byte, if `from_utf8` takes it for a character of its own. -/
def echo (b : U8) : List U8 := if b.toNat < 128 then [b] else []

/-- The branches of `read_line` for a byte, with what they print. The end of a line goes on to the
next question. -/
def Bootstrap.take (board : Bootstrap) (b : U8) : Bootstrap × List U8 :=
  if b = 0x0a then
    (⟨board.answers ++ [board.out], []⟩, 0x0a :: promptAt (board.answers.length + 1))
  else if b = 0x0d then (board, [])
  else if b = 0x08 ∨ b = 0x7f then ({ board with out := board.out.dropLast }, [])
  else ({ board with out := board.out ++ [byteChar b] }, echo b)

/-- What `read_line` prints for an error. -/
def errorLine (e : List U8) : List U8 := asciiBytes "uart read error: " ++ e ++ [0x0a]

/-- One turn of the loop in `read_line`, with what it prints. -/
def Bootstrap.read (board : Bootstrap) : UartRead → Bootstrap × List U8
  | .nothing => (board, [])
  | .byte b => board.take b
  | .failed e => (board, errorLine e)

/-- Whether all questions are answered. -/
def Bootstrap.answered (board : Bootstrap) : Bool := decide (3 ≤ board.answers.length)

/-- The bootstrap after these reads. Answered, it reads no more. -/
def Bootstrap.readAll (board : Bootstrap) : List UartRead → Bootstrap
  | [] => board
  | next :: rest => if board.answered then board else (board.read next).1.readAll rest

end Firmware

end EspClockSync
