import EspClockSync.Client.State

/-!
# Client conversions

The conversions between the device's own clocks, the TSF of the access point and
the server time, as the client library answers them from its cells. Only
`synced_ns_at_extra_filtered` changes a cell: it stores the rate that later
beacons use.
-/

namespace EspClockSync

open Machine

/-- `((extra_us as i128) << 32) / extra_per_us_q32 as i128) as i64`, which stops on a zero rate. -/
def extraInUs (extraUs extraPerUsQ32 : U64) : Checked Int := do
  let us ← divI128 (wrapI128 (extraUs.toNat * 2 ^ 32)) extraPerUsQ32.toNat
  .ok (wrapI64 us)

namespace Client

variable {channel : Channel SnifferEvent}

/-- `own_tsf_to_ap_tsf`. -/
def ownTsfToApTsf (client : Client channel) (ownTsfUs : U64) : Option U64 := do
  let a ← client.latestBeacon
  let delta := wrapI64 (ownTsfUs.toInt - a.ownTsfUs.toInt)
  let ap := wrapI64 (a.apTsfUs.toInt + delta)
  if ap < 0 then none else some (BitVec.ofInt 64 ap)

/-- `instant_to_ap_tsf`. -/
def instantToApTsf (client : Client channel) (instantUs : U64) : Option U64 := do
  let offset ← client.apTsfMinusInstantFilter.predict instantUs.toInt
  let ap := (instantUs.toNat : Int) + offset
  if ap < 0 ∨ 2 ^ 64 - 1 < ap then none else some (BitVec.ofInt 64 ap)

/-- `ap_tsf_to_instant` — two fixed-point steps from the AP time itself. -/
def apTsfToInstant (client : Client channel) (apTsfUs : U64) : Option U64 := do
  let f := client.apTsfMinusInstantFilter
  let off1 ← f.predict apTsfUs.toInt
  let inst1 := wrapI64 (apTsfUs.toInt - off1)
  let off2 ← f.predict inst1
  let inst2 := wrapI64 (apTsfUs.toInt - off2)
  if inst2 < 0 then none else some (BitVec.ofInt 64 inst2)

/-- `ClockSyncClient::synced_ns_at`. -/
def syncedNsAt (client : Client channel) (instantUs : U64) : Option U128 := do
  let apTsfUs ← client.instantToApTsf instantUs
  client.udpEst.syncedNsAt apTsfUs

/-- `ClockSyncClient::synced_ns_at_own_tsf`. -/
def syncedNsAtOwnTsf (client : Client channel) (ownTsfUs : U64) : Option U128 := do
  let apTsfUs ← client.ownTsfToApTsf ownTsfUs
  client.udpEst.syncedNsAt apTsfUs

/-- `ClockSyncClient::synced_ns_at_extra`. -/
def syncedNsAtExtra (checks : OverflowChecks) (client : Client channel)
    (extraUs extraPerUsQ32 : U64) : Checked (Option U128) :=
  match client.latestBeacon with
  | none => .ok none
  | some a =>
    if extraPerUsQ32 = 0 then .ok none
    else do
      let deltaExtra := wrapI128 ((extraUs.toNat : Int) - a.extraUs.toNat)
      let deltaUs ← divI128 (wrapI128 (deltaExtra * 2 ^ 32)) extraPerUsQ32.toNat
      let ap ← checks.i128 (a.apTsfUs.toNat + deltaUs)
      if ap < 0 ∨ 2 ^ 64 - 1 < ap then .ok none
      else .ok (client.udpEst.syncedNsAt (BitVec.ofInt 64 ap))

/-- The store with which `synced_ns_at_extra_filtered` begins. -/
def storeExtraRate (client : Client channel) (extraPerUsQ32 : U64) : Client channel :=
  { client with extraPerUsQ32 := extraPerUsQ32 }

/-- The answer of `ClockSyncClient::synced_ns_at_extra_filtered`. -/
def syncedNsAtExtraFiltered (client : Client channel) (extraUs extraPerUsQ32 : U64) :
    Checked (Option U128) := do
  let extra ← extraInUs extraUs extraPerUsQ32
  match client.apTsfMinusExtraFilter.predict extra with
  | none => .ok none
  | some offset =>
    let ap := extra + offset
    if ap < 0 ∨ 2 ^ 64 - 1 < ap then .ok none
    else .ok (client.udpEst.syncedNsAt (BitVec.ofInt 64 ap))

/-- `ClockSyncClient::own_tsf_at`. -/
def ownTsfAt (client : Client channel) (serverNs : U128) : Option U64 := do
  let apTsfUs ← client.udpEst.localUsAt serverNs
  let a ← client.latestBeacon
  let delta := wrapI64 (apTsfUs.toInt - a.apTsfUs.toInt)
  let own := wrapI64 (a.ownTsfUs.toInt + delta)
  if own < 0 then none else some (BitVec.ofInt 64 own)

/-- `ClockSyncClient::local_us_at`. -/
def localUsAt (client : Client channel) (serverNs : U128) : Option U64 := do
  let apTsfUs ← client.udpEst.localUsAt serverNs
  client.apTsfToInstant apTsfUs

end Client

end EspClockSync
