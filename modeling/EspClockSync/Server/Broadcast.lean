import EspClockSync.Machine.System
import EspClockSync.Sync.Packet

/-!
# The broadcast loop of the time server

The server captures its clock once, then sends one packet per interval for as long as
it runs. The time in a packet is computed from the captured time and the sequence
number; waiting only decides when the packet leaves.
-/

namespace EspClockSync

open Machine

/-- `std::time::Duration`. -/
structure Duration where
  /-- Whole seconds. -/
  secs : U64
  /-- Nanoseconds of the last second. -/
  nanos : U32
  /-- The nanoseconds are a fraction of a second. -/
  nanos_lt : nanos.toNat < 1000000000

namespace Duration

/-- `Duration::as_nanos`. -/
def asNanos (duration : Duration) : Nat := duration.secs.toNat * 1000000000 + duration.nanos.toNat

/-- `Duration::from_millis`. -/
def fromMillis (millis : U64) : Duration where
  secs := BitVec.ofNat 64 (millis.toNat / 1000)
  nanos := BitVec.ofNat 32 (millis.toNat % 1000 * 1000000)
  nanos_lt := by
    have part := Nat.mod_lt millis.toNat (show 0 < 1000 by decide)
    rw [BitVec.toNat_ofNat, Nat.mod_eq_of_lt (by omega)]
    omega

end Duration

/-- `Instant + Duration` in nanoseconds, which stops past the `i64` seconds of the clock. -/
def addInstant (instantNs : Nat) (duration : Duration) : Checked Nat :=
  if instantNs + duration.asNanos < 2 ^ 63 * 1000000000 then .ok (instantNs + duration.asNanos)
  else .error .overflow

namespace Server

/-- What the server fixes before its loop. -/
structure Settings where
  /-- `--interval-ms`. -/
  intervalMs : U64
  /-- `SystemTime::now().duration_since(UNIX_EPOCH)`, absent before the epoch. -/
  sinceEpoch : Option Duration
  /-- `Instant::now()` before the loop, in nanoseconds. -/
  start : Nat

namespace Settings

/-- `interval_ns`. -/
def intervalNs (settings : Settings) : Nat := settings.intervalMs.toNat * 1000000

/-- `t0`. -/
def t0 (settings : Settings) : Nat := (settings.sinceEpoch.map Duration.asNanos).getD 0

end Settings

/-- The variables of the loop. -/
structure Loop where
  /-- When the next packet is due, in nanoseconds. -/
  next : Nat
  /-- The sequence number of the next packet. -/
  seq : U32

/-- What one iteration of the loop reads from outside. -/
structure Pass where
  /-- `Instant::now()`, in nanoseconds. -/
  now : Nat
  /-- Whether `send_to` succeeded. -/
  sent : Bool

/-- A line of the log. -/
inductive LogLine where
  /-- `send_to` failed. -/
  | sendFailed
  /-- Every fiftieth packet. -/
  | sent (seq : U32) (sendUnixNs : U128)

/-- What one iteration of the loop does. -/
structure Broadcast where
  /-- How long it slept, in nanoseconds. -/
  sleptNs : Nat
  /-- The packet given to `send_to`. -/
  packet : SyncPacket
  /-- What it logged. -/
  logged : Option LogLine

/-- One iteration of the loop in `main`. -/
def iterate (checks : OverflowChecks) (settings : Settings) (state : Loop) (pass : Pass) :
    Checked (Loop × Broadcast) := do
  let sleptNs := if pass.now < state.next then state.next - pass.now else 0
  let next ← addInstant state.next (Duration.fromMillis settings.intervalMs)
  let elapsedNs ← checks.unsigned 128 (state.seq.toNat * settings.intervalNs)
  let sendUnixNs ← checks.unsigned 128 (settings.t0 + elapsedNs)
  let packet : SyncPacket := ⟨magicBytes, state.seq, BitVec.ofNat 128 sendUnixNs⟩
  let logged :=
    if !pass.sent then some .sendFailed
    else if state.seq.toNat % 50 = 0 then some (.sent state.seq packet.sendUnixNs)
    else none
  .ok (⟨next, state.seq + 1⟩, ⟨sleptNs, packet, logged⟩)

/-- The loop, with everything it has broadcast so far. -/
def broadcasting (checks : OverflowChecks) (settings : Settings) :
    System (Loop × List Broadcast) Pass Panic where
  start := (⟨settings.start, 0⟩, [])
  step state pass := do
    let (next, broadcast) ← iterate checks settings state.1 pass
    .ok (next, state.2 ++ [broadcast])

end Server

end EspClockSync
