import EspClockSync.Machine.System
import EspClockSync.Client.Queries

/-!
# Client steps

The radio callback, the two tasks and the one query with a side effect, each as a
function of the cells. A callback runs to its end between two suspension points
of the tasks; the consumer advances by one critical section at a time, so that a
callback can come between its receive, its anchor lookup and its observation.
The readings a callback takes are inputs attached to its frame.
-/

namespace EspClockSync

open Machine

/-- One invocation of `rx_cb`: the frame and what the callback reads. -/
structure Reception where
  /-- `packet.data`. -/
  data : List U8
  /-- `packet.rx_cntl.timestamp`. -/
  timestamp : U32
  /-- `invoke_beacon_hook()`. -/
  extraUs : U64
  /-- `Instant::now().as_micros()`. -/
  instantUsAtCb : U64
  /-- `mac_tsf_us()`. -/
  ownTsfAtCb : U64
  deriving DecidableEq, Repr

namespace Reception

/-- `own_tsf_us` of `rx_cb` — the hardware timestamp with the high bits of the
TSF read in the callback, one wrap earlier when its low bits are larger. -/
def ownTsfUs (packet : Reception) : U64 :=
  if packet.timestamp ≤ packet.ownTsfAtCb.setWidth 32 then
    (packet.ownTsfAtCb &&& 0xFFFFFFFF00000000#64) ||| packet.timestamp.setWidth 64
  else
    ((packet.ownTsfAtCb &&& 0xFFFFFFFF00000000#64) - 0x100000000#64) |||
      packet.timestamp.setWidth 64

/-- The frame test of the beacon path. -/
def isBeacon (packet : Reception) : Bool :=
  decide (36 ≤ packet.data.length) && packet.data.head? == some 0x80#8

/-- `packet.data[16..22]`; a beacon frame has all six bytes. -/
def bssid (packet : Reception) : Bssid :=
  Vector.ofFn fun i : Fin 6 => packet.data.getD (16 + i) 0

/-- `packet.data[24..32]` as a little-endian `u64`. -/
def apTsfUs (packet : Reception) : U64 :=
  BitVec.ofNat 64 (leValue ((packet.data.drop 24).take 8))

/-- The anchor a beacon records. -/
def anchor (packet : Reception) : BeaconAnchor where
  instantUs := packet.instantUsAtCb
  ownTsfUs := packet.ownTsfUs
  apTsfUs := packet.apTsfUs
  extraUs := packet.extraUs

end Reception

namespace Client

variable {channel : Channel SnifferEvent}

/-! ## The callback -/

/-- The moving average `INSTANT_MINUS_TSF` after one callback. -/
def averageDelta (checks : OverflowChecks) (prev : Int) (packet : Reception) : Checked Int :=
  let newDelta := wrapI64 (packet.instantUsAtCb.toInt - packet.ownTsfAtCb.toInt)
  if prev = deltaUnset then .ok newDelta
  else do
    let change ← checks.i64 (newDelta - prev)
    checks.i64 (prev + change.tdiv 64)

/-- `LOCKED_BSSID.borrow_ref(cs).map(|b| b == bssid).unwrap_or(false)`. -/
def locks (client : Client channel) (bssid : Bssid) : Bool :=
  (client.lockedBssid.map fun b => decide (b = bssid)).getD false

/-- `AP_TSF_MINUS_EXTRA_FILTER` after a beacon: untouched until a rate is set. -/
def feedExtra (checks : OverflowChecks) (client : Client channel) (packet : Reception) :
    Checked AlphaBetaFilter :=
  if client.extraPerUsQ32 = 0 then .ok client.apTsfMinusExtraFilter
  else do
    let extra ← extraInUs packet.extraUs client.extraPerUsQ32
    client.apTsfMinusExtraFilter.observe checks extra (wrapI64 (packet.apTsfUs.toInt - extra))

/-- `SAMPLES.try_send` with its result ignored. -/
def sendIgnoring (client : Client channel) (event : SnifferEvent) : Client channel :=
  { client with samples := (channel.trySend client.samples event).getD client.samples }

/-- `SAMPLES.try_send` with a refusal counted. -/
def sendCounting (client : Client channel) (event : SnifferEvent) : Client channel :=
  match channel.trySend client.samples event with
  | some samples => { client with samples := samples }
  | none => { client with samplesDropped := client.samplesDropped + 1 }

/-- The body of the beacon path for a beacon that passed the BSSID filter. -/
def useBeacon (checks : OverflowChecks) (client : Client channel) (packet : Reception) :
    Checked (Client channel) := do
  let instant ← client.apTsfMinusInstantFilter.observe checks packet.instantUsAtCb.toInt
    (wrapI64 (packet.apTsfUs.toInt - packet.instantUsAtCb.toInt))
  let extra ← client.feedExtra checks packet
  .ok ({ client with
    beaconsUsed := client.beaconsUsed + 1
    latestBeacon := some packet.anchor
    apTsfMinusInstantFilter := instant
    apTsfMinusExtraFilter := extra }.sendIgnoring (.beacon packet.anchor))

/-- The packet path. -/
def matchFrame (client : Client channel) (packet : Reception) : Checked (Client channel) := do
  match ← SyncPacket.findInFrame packet.data with
  | none => .ok client
  | some pkt =>
    .ok ({ client with framesMatched := client.framesMatched + 1 }.sendCounting
      (.udp pkt.sendUnixNs packet.ownTsfUs))

/-- `rx_cb`. -/
def rxCb (checks : OverflowChecks) (client : Client channel) (packet : Reception) :
    Checked (Client channel) := do
  let updated ← averageDelta checks client.instantMinusTsf packet
  let client := { client with
    framesSeen := client.framesSeen + 1
    instantMinusTsf := updated }
  if packet.isBeacon then
    let client := { client with beaconsSeen := client.beaconsSeen + 1 }
    if client.locks packet.bssid then client.useBeacon checks packet else .ok client
  else client.matchFrame packet

/-! ## The tasks -/

/-- One pass of `poll_ap_bssid`, with what `esp_wifi_sta_get_ap_info` returned:
`none` for an error, else the BSSID of the associated access point. -/
def pollApBssid (client : Client channel) : Option Bssid → Client channel
  | none => client
  | some bssid =>
    if some bssid ≠ client.pollPrev then
      { client with
        lockedBssid := some bssid
        pollPrev := some bssid }
    else client

/-- The sample `consume_samples` makes of a beacon. -/
def beaconSample (anchor : BeaconAnchor) : Sample where
  serverNs := BitVec.ofNat 128 (min (anchor.apTsfUs.toNat * 1000) (2 ^ 128 - 1))
  localUs := anchor.ownTsfUs

/-- `consume_samples` up to its next suspension point or critical section. -/
def consumeSamples (checks : OverflowChecks) (client : Client channel) :
    Checked (Client channel) :=
  match client.consumer with
  | .receiving =>
    match channel.receive client.samples with
    | none => .ok client
    | some (.beacon anchor, samples) =>
      .ok { client with
        samples := samples
        consumer := .beaconReceived anchor }
    | some (.udp serverNs ownTsfUs, samples) =>
      .ok { client with
        samples := samples
        consumer := .udpReceived serverNs ownTsfUs }
  | .beaconReceived anchor => do
    let beaconEst ← client.beaconEst.observe checks (beaconSample anchor)
    .ok { client with
      beaconEst := beaconEst
      consumer := .receiving }
  | .udpReceived serverNs ownTsfUs =>
    match client.ownTsfToApTsf ownTsfUs with
    | none => .ok { client with consumer := .receiving }
    | some apTsfUs => .ok { client with consumer := .udpConverted serverNs ownTsfUs apTsfUs }
  | .udpConverted serverNs _ apTsfUs => do
    let udpEst ← client.udpEst.observe checks ⟨serverNs, apTsfUs⟩
    .ok { client with
      udpEst := udpEst
      consumer := .receiving }

end Client

/-! ## Runs -/

/-- What can happen next to a client. -/
inductive Action where
  /-- The radio delivers a frame to `rx_cb`. -/
  | receive (packet : Reception)
  /-- `poll_ap_bssid` polls once. -/
  | poll (info : Option Bssid)
  /-- `consume_samples` advances. -/
  | consume
  /-- The application calls `synced_ns_at_extra_filtered`. -/
  | queryExtra (extraUs extraPerUsQ32 : U64)
  deriving DecidableEq, Repr

/-- The client after one action. -/
def Client.step {channel : Channel SnifferEvent} (checks : OverflowChecks)
    (client : Client channel) : Action → Checked (Client channel)
  | .receive packet => client.rxCb checks packet
  | .poll info => .ok (client.pollApBssid info)
  | .consume => client.consumeSamples checks
  | .queryExtra extraUs extraPerUsQ32 => do
    let client := client.storeExtraRate extraPerUsQ32
    let _ ← client.syncedNsAtExtraFiltered extraUs extraPerUsQ32
    .ok client

/-- The client as a system: any order of callbacks, polls, consumer steps and queries. -/
def clientSystem (checks : OverflowChecks) (channel : Channel SnifferEvent) :
    System (Client channel) Action Panic where
  start := Client.boot channel
  step client action := client.step checks action

end EspClockSync
