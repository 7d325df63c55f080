import EspClockSync.Client.State
import EspClockSync.Machine.Hexadecimal

/-!
# The pinned access point

The test firmware associates with one access point, whose BSSID is written into it as text.
The client logs the BSSID of the access point it is associated with in the same form.
-/

namespace EspClockSync

open Machine

namespace Rig

/-- One byte of the loop of `parse_bssid`. -/
def storeByte (out : Bssid) (part : List Char × Nat) : Option Bssid := do
  let byte ← parseHex 8 part.1
  some (out.setIfInBounds part.2 byte)

/-- `parse_bssid`. -/
def parseBssid (text : List Char) : Option Bssid :=
  let parts := text.splitOn ':'
  if parts.length ≠ 6 then none
  else parts.zipIdx.foldlM storeByte (Vector.replicate 6 0)

/-- `{:02x}:{:02x}:{:02x}:{:02x}:{:02x}:{:02x}`, as `poll_ap_bssid` logs a BSSID. -/
def bssidText (bssid : Bssid) : List Char :=
  [':'].intercalate (bssid.toList.map hexByte)

end Rig

end EspClockSync
