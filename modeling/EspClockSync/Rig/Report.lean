import EspClockSync.Machine.Text
import EspClockSync.Sync.Estimator

/-!
# The lines of the test firmware

Each board prints a line for every pulse it sends and one for every edge it captures,
on the input from the other board as on the input from its own output. Its main task prints
what it was started with, what it measured and, from then on, how it fares; and whatever the
packages log comes out of the same port.
-/

namespace EspClockSync

open Machine

namespace Rig

/-- The three bytes of a MAC address that a line shows. -/
abbrev Mac := U8 × U8 × U8

/-- `{:02x}:{:02x}:{:02x}`. -/
def macText (mac : Mac) : List Char :=
  hexByte mac.1 ++ ':' :: (hexByte mac.2.1 ++ ':' :: hexByte mac.2.2)

/-- A field `key=value` of a line. -/
def field (key : String) (value : List Char) : List Char := key.toList ++ '=' :: value

/-- The line that `pulser` prints for a pulse. -/
def pulseTxLine (mac : Mac) (seq : U32) (syncedNs targetNs : U128) (capUs : U64) : List Char :=
  "pulse_tx ".toList ++ field "mac" (macText mac) ++ ' ' ::
    (field "seq" (decimal seq.toNat) ++ ' ' ::
    (field "synced_ns" (decimal syncedNs.toNat) ++ ' ' ::
    (field "target_ns" (decimal targetNs.toNat) ++ ' ' ::
    field "cap_us" (decimal capUs.toNat))))

/-- The time field of an edge, `NONE` before the client is synchronised. -/
def syncedText (syncedNs : Option U128) : List Char :=
  match syncedNs with
  | some ns => decimal ns.toNat
  | none => "NONE".toList

/-- The line that `log_event` prints for an edge on an input with this label. -/
def pulseRxLine (port : List Char) (mac : Mac) (syncedNs : Option U128) (capUs : U64) : List Char :=
  "pulse_rx ".toList ++ field "port" port ++ ' ' ::
    (field "mac" (macText mac) ++ ' ' ::
    (field "synced_ns" (syncedText syncedNs) ++ ' ' ::
    field "cap_us" (decimal capUs.toNat)))

/-- The inputs that `reporter` drains. -/
inductive Port where
  /-- The input from the other board. -/
  | d5
  /-- The input from the board's own output. -/
  | d34
  deriving DecidableEq

/-- The label of an input. -/
def Port.label : Port → List Char
  | .d5 => "D5".toList
  | .d34 => "D34".toList

/-- The registers that `debug_dump` reads, as `main` names them. -/
def dumpLabels : List String :=
  ["clk", "cap_timer", "ch0_cfg", "ch1_cfg", "ch0_val", "ch1_val", "fn109", "fn110", "cap_now",
    "cap_status"]

/-- Fields after a space each. -/
def fieldsText (fields : List (String × List Char)) : List Char :=
  fields.flatMap fun entry => ' ' :: field entry.1 entry.2

/-- The lines of a board that are not about a pulse or an edge. -/
inductive OtherLine where
  /-- The MAC address, as `main` begins. -/
  | booted (mac : Vector U8 6)
  /-- The network and the access point written into `main`. -/
  | configured
  /-- The rate of the capture timer that `mcpwm_cap::init` measured. -/
  | calibrated (cap0 instant0 dCap dInstant usPerTickInstantQ32 : U64)
  /-- Its anchor in the TSF. -/
  | anchored (t0 q32 : U64)
  /-- `main` goes on after `mcpwm_cap::init`. -/
  | initialised
  /-- `pulser` goes on to its loop. -/
  | converged
  /-- The statistics of the client, every ten seconds. -/
  | stats (quality : Quality) (framesSeen framesMatched samplesDropped : U64)
  /-- The registers of the capture unit, after them. -/
  | mcpwmDump (registers : Vector U32 10) (ch0Hits ch1Hits : U64)
  /-- The access point took the station in. -/
  | connected
  /-- What packages format: the address, the error of a connection, everything logged; and the
  empty line before the first. -/
  | logged (text : List Char)

/-- The printed text of such a line. -/
def OtherLine.text : OtherLine → List Char
  | .booted mac =>
    "=== clock-sync-test boot,".toList ++
      fieldsText [("mac", [':'].intercalate (mac.toList.map hexByte))] ++ " ===".toList
  | .configured =>
    "got ssid=\"Chorus Resident Wi-Fi\" bssid=Some([52, 32, 227, 99, 102, 179])".toList
  | .calibrated cap0 instant0 dCap dInstant usPerTickInstantQ32 =>
    "mcpwm_cap: calibrated".toList ++ fieldsText [("cap0", decimal cap0.toNat),
      ("instant0", decimal instant0.toNat), ("d_cap", decimal dCap.toNat),
      ("d_instant", decimal dInstant.toNat),
      ("us_per_tick_instant_q32", decimal usPerTickInstantQ32.toNat)]
  | .anchored t0 q32 =>
    "mcpwm_cap:".toList ++ fieldsText [("tsf0", decimal t0.toNat),
      ("us_per_tick_tsf_q32", decimal q32.toNat)] ++ " (hard-coded 80:1)".toList
  | .initialised => "mcpwm_cap initialised".toList
  | .converged => "pulser: estimator converged, beginning pulses".toList
  | .stats quality framesSeen framesMatched samplesDropped =>
    "stats:".toList ++ fieldsText [("samples", decimal quality.nSamples.toNat),
      ("drift_ppb", decimalInt quality.driftPpb),
      ("p95_us", decimal quality.residualUsP95.toNat), ("seen", decimal framesSeen.toNat),
      ("matched", decimal framesMatched.toNat), ("dropped", decimal samplesDropped.toNat)]
  | .mcpwmDump registers ch0Hits ch1Hits =>
    "mcpwm_dump:".toList ++
      fieldsText (dumpLabels.zip (registers.toList.map fun register => hexNumeral register.toNat)) ++
      fieldsText [("ch0_hits", decimal ch0Hits.toNat), ("ch1_hits", decimal ch1Hits.toNat)]
  | .connected => "wifi connected".toList
  | .logged text => text

/-- What a board prints. -/
inductive FirmwareLine where
  /-- A pulse of `pulser`. -/
  | pulseTx (mac : Mac) (seq : U32) (syncedNs targetNs : U128) (capUs : U64)
  /-- An edge of `log_event`. -/
  | pulseRx (port : Port) (mac : Mac) (syncedNs : Option U128) (capUs : U64)
  /-- Any other line. -/
  | other (line : OtherLine)

/-- The printed text of a line. -/
def FirmwareLine.text : FirmwareLine → List Char
  | .pulseTx mac seq syncedNs targetNs capUs => pulseTxLine mac seq syncedNs targetNs capUs
  | .pulseRx port mac syncedNs capUs => pulseRxLine port.label mac syncedNs capUs
  | .other line => line.text

end Rig

end EspClockSync
