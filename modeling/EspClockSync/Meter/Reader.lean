import EspClockSync.Meter.Line

/-!
# The reader threads of the skew meter

Each thread splits what its serial port delivers into lines and sends the event of every line
that is one. A read that fails, by its timeout or by text that is none, ends the attempt at a
line with an error: what was read of the line is dropped, and the next line starts there.
-/

namespace EspClockSync

namespace Meter

/-- What one read of a serial port brings to the line being read. -/
inductive Delivery where
  /-- A character of the text. -/
  | char (c : Char)
  /-- A byte that belongs to no character. -/
  | invalid
  /-- The error of a read that timed out. -/
  | timeout
  /-- A read of nothing, the end of the file. -/
  | endOfFile
  deriving DecidableEq

/-- The variables of `reader.lines()`. -/
structure Reader where
  /-- The line so far. -/
  pending : List Char
  /-- Whether it has a byte that belongs to no character. -/
  broken : Bool
  /-- Whether the iterator has ended. -/
  ended : Bool

/-- A line of which nothing was read yet. -/
def Reader.fresh : Reader := ⟨[], false, false⟩

/-- The line without the carriage return at its end. -/
def stripReturn (line : List Char) : List Char :=
  if line.getLast? = some '\r' then line.dropLast else line

/-- What the loop of `spawn_reader` does with a line. -/
def lineEvent (device : Device) (reader : Reader) (line : List Char) : Option Event :=
  if reader.broken then none else parseLine device line

/-- One read in `reader.lines()`, and the event that the loop sends. -/
def Reader.read (device : Device) (reader : Reader) : Delivery → Reader × Option Event
  | .char c =>
    if c = '\n' then (.fresh, lineEvent device reader (stripReturn reader.pending))
    else ({ reader with pending := reader.pending ++ [c] }, none)
  | .invalid => ({ reader with broken := true }, none)
  | .timeout => (.fresh, none)
  | .endOfFile =>
    if reader.pending.isEmpty && !reader.broken then ({ reader with ended := true }, none)
    else (.fresh, lineEvent device reader reader.pending)

end Meter

end EspClockSync
