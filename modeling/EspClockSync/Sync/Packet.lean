import EspClockSync.Machine.Checked

/-!
# The broadcast packet

The time server broadcasts 24 bytes: a magic, a sequence number and the server
time in nanoseconds, both little-endian. A client finds them inside a raw
802.11 frame, whose headers have no fixed length, by searching for the magic.
-/

namespace EspClockSync

open Machine

/-- `MAGIC` — the bytes of `CSY1`. -/
def magicBytes : Vector U8 4 := #v[0x43#8, 0x53#8, 0x59#8, 0x31#8]

/-- `SyncPacket` — the wire format. -/
structure SyncPacket where
  /-- Always `magicBytes`. -/
  magic : Vector U8 4
  /-- Wrapping sequence counter. -/
  seq : U32
  /-- Server time of the broadcast in nanoseconds. -/
  sendUnixNs : U128
  deriving DecidableEq, Repr

/-- The value of little-endian bytes. -/
def leValue : List U8 → Nat
  | [] => 0
  | byte :: rest => byte.toNat + 256 * leValue rest

/-- The low bytes of a value, little-endian. -/
def leBytes : Nat → Nat → List U8
  | 0, _ => []
  | count + 1, value => BitVec.ofNat 8 value :: leBytes count (value / 256)

/-- `buf[i]`, which stops when the index is out of bounds. -/
def byteAt (buf : List U8) (i : Nat) : Checked U8 :=
  match buf[i]? with
  | some byte => .ok byte
  | none => .error .outOfBounds

namespace SyncPacket

/-- `SyncPacket::SIZE`. -/
def size : Nat := 24

/-- `SyncPacket::to_bytes`. -/
def toBytes (packet : SyncPacket) : List U8 :=
  packet.magic.toList ++ leBytes 4 packet.seq.toNat ++ leBytes 16 packet.sendUnixNs.toNat

/-- `SyncPacket::parse` — `none` unless the buffer holds a whole packet at its start. -/
def parse (buf : List U8) : Option SyncPacket :=
  if buf.length < size ∨ buf.take 4 ≠ magicBytes.toList then none
  else some {
    magic := magicBytes
    seq := BitVec.ofNat 32 (leValue ((buf.drop 4).take 4))
    sendUnixNs := BitVec.ofNat 128 (leValue ((buf.drop 8).take 16)) }

/-- The comparison of `find_in_frame`, byte by byte from `i` and no further than
the first difference. -/
def matchesAt (buf : List U8) (i : Nat) : List U8 → Checked Bool
  | [] => .ok true
  | expected :: rest => do
    let byte ← byteAt buf i
    if byte = expected then matchesAt buf (i + 1) rest else .ok false

/-- The loop of `find_in_frame` at offset `i`, with this many offsets left to try. -/
def searchFrom (buf : List U8) (i : Nat) : Nat → Checked (Option SyncPacket)
  | 0 => .ok none
  | left + 1 => do
    if ← matchesAt buf i magicBytes.toList then
      match parse (buf.drop i) with
      | some packet => .ok (some packet)
      | none => searchFrom buf (i + 1) left
    else searchFrom buf (i + 1) left

/-- `SyncPacket::find_in_frame` — the first packet at any offset up to `len - SIZE`. -/
def findInFrame (buf : List U8) : Checked (Option SyncPacket) :=
  if buf.length < size then .ok none
  else searchFrom buf 0 (buf.length - size + 1)

end SyncPacket

end EspClockSync
