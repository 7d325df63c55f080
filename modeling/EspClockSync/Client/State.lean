import EspClockSync.Machine.Channel
import EspClockSync.Sync.Packet
import EspClockSync.Sync.Estimator
import EspClockSync.Sync.AlphaBeta

/-!
# Client state

The client library keeps its state in global cells shared by three parties: the
radio callback, the task that polls the associated access point and the task
that consumes sniffed events. One structure holds every cell that a conversion,
a task or a counter query reads, with the task-local variables that live across
suspension points. The channel between callback and consumer belongs to another
library and stays a parameter.
-/

namespace EspClockSync

open Machine

/-- `BeaconAnchor` — three clocks and the application's timer at one beacon. -/
structure BeaconAnchor where
  /-- Device uptime at the callback. -/
  instantUs : U64
  /-- Own TSF at reception. -/
  ownTsfUs : U64
  /-- TSF of the access point at transmission. -/
  apTsfUs : U64
  /-- Reading of the beacon hook. -/
  extraUs : U64
  deriving DecidableEq, Repr

/-- `SnifferEvent` — what the callback hands to the consumer. -/
inductive SnifferEvent where
  /-- A beacon of the associated access point. -/
  | beacon (anchor : BeaconAnchor)
  /-- A broadcast packet: server time and own TSF at reception. -/
  | udp (serverNs : U128) (ownTsfUs : U64)
  deriving DecidableEq, Repr

/-- The BSSID of an access point. -/
abbrev Bssid := Vector U8 6

/-- `CHANNEL_DEPTH`. -/
def channelDepth : Nat := 32

/-- `DELTA_UNSET`. -/
def deltaUnset : Int := -2 ^ 63

/-- Where `consume_samples` is in its loop. The callback can run between any two
of these points; each holds the local variables of the loop body there. -/
inductive Consumer where
  /-- Waiting in `SAMPLES.receive()`. -/
  | receiving
  /-- About to feed a beacon to `BEACON_EST`. -/
  | beaconReceived (anchor : BeaconAnchor)
  /-- About to look up `LATEST_BEACON` for a packet. -/
  | udpReceived (serverNs : U128) (ownTsfUs : U64)
  /-- About to feed a converted packet to `UDP_EST`. -/
  | udpConverted (serverNs : U128) (ownTsfUs apTsfUs : U64)
  deriving DecidableEq, Repr

/-- The cells of the client library and the locals of its tasks. -/
structure Client (channel : Channel SnifferEvent) where
  /-- `SAMPLES`. -/
  samples : channel.Buffer
  /-- `BEACON_EST`. -/
  beaconEst : Estimator
  /-- `LATEST_BEACON`. -/
  latestBeacon : Option BeaconAnchor
  /-- `UDP_EST`. -/
  udpEst : Estimator
  /-- `FRAMES_SEEN`. -/
  framesSeen : U64
  /-- `FRAMES_MATCHED`. -/
  framesMatched : U64
  /-- `BEACONS_SEEN`. -/
  beaconsSeen : U64
  /-- `BEACONS_USED`. -/
  beaconsUsed : U64
  /-- `LOCKED_BSSID`. -/
  lockedBssid : Option Bssid
  /-- `SAMPLES_DROPPED`. -/
  samplesDropped : U64
  /-- `INSTANT_MINUS_TSF`. -/
  instantMinusTsf : Int
  /-- `AP_TSF_MINUS_INSTANT_FILTER`. -/
  apTsfMinusInstantFilter : AlphaBetaFilter
  /-- `AP_TSF_MINUS_EXTRA_FILTER`. -/
  apTsfMinusExtraFilter : AlphaBetaFilter
  /-- `EXTRA_PER_US_Q32`. -/
  extraPerUsQ32 : U64
  /-- `prev` of `poll_ap_bssid`. -/
  pollPrev : Option Bssid
  /-- The suspension point of `consume_samples`. -/
  consumer : Consumer

/-- The cells as the program starts, with both tasks at their first suspension point. -/
def Client.boot (channel : Channel SnifferEvent) : Client channel where
  samples := channel.new
  beaconEst := Estimator.new
  latestBeacon := none
  udpEst := Estimator.new
  framesSeen := 0
  framesMatched := 0
  beaconsSeen := 0
  beaconsUsed := 0
  lockedBssid := none
  samplesDropped := 0
  instantMinusTsf := deltaUnset
  apTsfMinusInstantFilter := AlphaBetaFilter.new 16 2048
  apTsfMinusExtraFilter := AlphaBetaFilter.new 512 2048
  extraPerUsQ32 := 0
  pollPrev := none
  consumer := .receiving

end EspClockSync
