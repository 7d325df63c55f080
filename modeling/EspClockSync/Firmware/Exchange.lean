import EspClockSync.Firmware.Bootstrap
import EspClockSync.Machine.Ring
import EspClockSync.Machine.System

/-!
# The bootstrap between firmware and driver script

The driver script watches what the board prints and answers each prompt once, when a chunk that it
reads ends with it. Both directions of the serial line are queues that lose nothing; board and
script read from them whenever they do.
-/

namespace EspClockSync

open Machine

namespace Firmware

/-- The arguments of the driver script. -/
structure Arguments where
  /-- `ssid`. -/
  ssid : List Char
  /-- `password`. -/
  password : List Char
  /-- `bssid`, empty if it is not given. -/
  bssid : List Char

/-- The variables of the driver script. -/
structure Driver where
  /-- `sent['ssid']`. -/
  sentSsid : Bool
  /-- `sent['pass']`. -/
  sentPass : Bool
  /-- `sent['bssid']`. -/
  sentBssid : Bool
  /-- `sent['server']`. -/
  sentServer : Bool
  /-- `buf`: all that has been read. -/
  buf : List U8

/-- Nothing has been read or sent. -/
def Driver.start : Driver := ⟨false, false, false, false, []⟩

/-- `'\r\n'`. -/
def lineEnd : List U8 := [0x0d, 0x0a]

/-- `(line + '\r\n').encode()`. -/
def encodeLine (line : List Char) : List U8 := utf8 line ++ lineEnd

/-- `tail.endswith(prompt)`. -/
def endsWith (tail prompt : List U8) : Bool := decide (prompt <:+ tail)

/-- The detection of prompts, with what is written. -/
def Driver.reply (args : Arguments) (driver : Driver) (tail : List U8) : Driver × List U8 :=
  if !driver.sentSsid && endsWith tail (asciiBytes "ssid: ") then
    ({ driver with sentSsid := true }, encodeLine args.ssid)
  else if !driver.sentPass && endsWith tail (asciiBytes "pass: ") then
    ({ driver with sentPass := true }, encodeLine args.password)
  else if !driver.sentBssid && endsWith tail (asciiBytes "bssid: ") then
    ({ driver with sentBssid := true }, encodeLine args.bssid)
  else if !driver.sentServer && endsWith tail (asciiBytes "server: ") then
    ({ driver with sentServer := true }, asciiBytes "0.0.0.0" ++ lineEnd)
  else (driver, [])

/-- `buf += chunk`. -/
def Driver.read (driver : Driver) (chunk : List U8) : Driver :=
  { driver with buf := driver.buf ++ chunk }

/-- `buf[-80:]`. -/
def Driver.tail (driver : Driver) : List U8 := window 80 driver.buf

/-- One turn of the script's loop for the chunk it has read, with what it writes. -/
def Driver.take (args : Arguments) (driver : Driver) (chunk : List U8) : Driver × List U8 :=
  if chunk.isEmpty then (driver, []) else (driver.read chunk).reply args (driver.read chunk).tail

/-- Board and script with what is on the line between them. -/
structure Exchange where
  /-- The board. -/
  board : Bootstrap
  /-- What the board has printed and the script has not read. -/
  toDriver : List U8
  /-- The script. -/
  driver : Driver
  /-- What the script has written and the board has not read. -/
  toBoard : List U8

/-- What happens next. -/
inductive ExchangeAction where
  /-- The board reads a byte, or nothing where there is none. -/
  | boardReads
  /-- A read of the board returns nothing. -/
  | boardWaits
  /-- A read of the board fails. -/
  | boardFails (e : List U8)
  /-- After its questions the board goes on to print. -/
  | boardLogs (text : List U8)
  /-- `ser.read(256)` returns, with at most this many bytes. -/
  | driverReads (count : Nat)

/-- The board after a read that leaves these bytes on the line. -/
def Exchange.boardRead (state : Exchange) (read : UartRead) (toBoard : List U8) : Exchange :=
  if state.board.answered then state
  else
    let (board, printed) := state.board.read read
    { state with board := board, toDriver := state.toDriver ++ printed, toBoard := toBoard }

/-- One step of either side. -/
def Exchange.step (args : Arguments) (state : Exchange) : ExchangeAction → Exchange
  | .boardReads =>
    match state.toBoard with
    | [] => state.boardRead .nothing []
    | b :: rest => state.boardRead (.byte b) rest
  | .boardWaits => state.boardRead .nothing state.toBoard
  | .boardFails e => state.boardRead (.failed e) state.toBoard
  | .boardLogs text =>
    if state.board.answered then { state with toDriver := state.toDriver ++ text } else state
  | .driverReads count =>
    let chunk := state.toDriver.take (min count 256)
    let (driver, written) := state.driver.take args chunk
    { state with
      toDriver := state.toDriver.drop (min count 256)
      driver := driver
      toBoard := state.toBoard ++ written }

/-- The exchange from the first prompt on, after what the board has printed while it started. -/
def exchanging (args : Arguments) (boot : List U8) :
    System Exchange ExchangeAction Panic where
  start := ⟨.start, boot ++ 0x0a :: promptAt 0, .start, []⟩
  step state action := .ok (state.step args action)

end Firmware

end EspClockSync
