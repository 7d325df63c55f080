import EspClockSync.Client.Steps

/-!
# Client traces

Many guarantees of the client speak about events and samples that its cells have
long forgotten. `Client.effects` says what an action does to them, from the state
in which it is taken; the observed client collects these effects in order.
-/

namespace EspClockSync

open Machine

/-- What an action did to anchors, events and samples. -/
inductive Effect where
  /-- A beacon passed the BSSID filter; the instant filter absorbed or skipped it. -/
  | accepted (bssid : Bssid) (anchor : BeaconAnchor) (absorbed : Bool)
  /-- The channel took an event. -/
  | enqueued (event : SnifferEvent)
  /-- The channel was full. -/
  | refused (event : SnifferEvent)
  /-- The consumer took an event off the channel. -/
  | received (event : SnifferEvent)
  /-- The consumer converted a packet by the latest anchor. -/
  | converted (serverNs : U128) (ownTsfUs apTsfUs : U64)
  /-- `UDP_EST` observed a sample. -/
  | fed (sample : Sample)
  /-- The consumer was done with an event. -/
  | consumed (event : SnifferEvent)
  deriving DecidableEq, Repr

namespace Client

variable {channel : Channel SnifferEvent}

/-- What `SAMPLES.try_send` does to an event. -/
def sendEffect (client : Client channel) (event : SnifferEvent) : Effect :=
  match channel.trySend client.samples event with
  | some _ => .enqueued event
  | none => .refused event

/-- What a frame does. -/
def frameEffects (client : Client channel) (packet : Reception) : List Effect :=
  if packet.isBeacon then
    if client.locks packet.bssid then
      [.accepted packet.bssid packet.anchor
        (client.apTsfMinusInstantFilter.absorbs packet.instantUsAtCb.toInt),
        client.sendEffect (.beacon packet.anchor)]
    else []
  else
    match SyncPacket.findInFrame packet.data with
    | .ok (some pkt) => [client.sendEffect (.udp pkt.sendUnixNs packet.ownTsfUs)]
    | _ => []

/-- What a step of the consumer does. -/
def consumerEffects (client : Client channel) : List Effect :=
  match client.consumer with
  | .receiving =>
    match channel.receive client.samples with
    | none => []
    | some (event, _) => [.received event]
  | .beaconReceived anchor => [.consumed (.beacon anchor)]
  | .udpReceived serverNs ownTsfUs =>
    match client.ownTsfToApTsf ownTsfUs with
    | none => [.consumed (.udp serverNs ownTsfUs)]
    | some apTsfUs => [.converted serverNs ownTsfUs apTsfUs]
  | .udpConverted serverNs ownTsfUs apTsfUs =>
    [.fed ⟨serverNs, apTsfUs⟩, .consumed (.udp serverNs ownTsfUs)]

/-- What an action does. -/
def effects (client : Client channel) : Action → List Effect
  | .receive packet => client.frameEffects packet
  | .consume => client.consumerEffects
  | _ => []

end Client

/-- The client with the record of everything it did. -/
def tracedClient (checks : OverflowChecks) (channel : Channel SnifferEvent) :
    System (Client channel × List Effect) Action Panic :=
  (clientSystem checks channel).observed Client.effects

/-! ## Reading a trace -/

namespace Effect

/-- The anchor of an accepted beacon. -/
def anchor : Effect → Option BeaconAnchor
  | .accepted _ anchor _ => some anchor
  | _ => none

/-- An event the channel took. -/
def enqueuedEvent : Effect → Option SnifferEvent
  | .enqueued event => some event
  | _ => none

/-- An event a full channel refused. -/
def refusedEvent : Effect → Option SnifferEvent
  | .refused event => some event
  | _ => none

/-- An event the consumer took. -/
def receivedEvent : Effect → Option SnifferEvent
  | .received event => some event
  | _ => none

/-- An event the consumer is done with. -/
def consumedEvent : Effect → Option SnifferEvent
  | .consumed event => some event
  | _ => none

/-- A sample `UDP_EST` observed. -/
def fedSample : Effect → Option Sample
  | .fed sample => some sample
  | _ => none

end Effect

/-- The anchors of the accepted beacons, oldest first. -/
def acceptedAnchors (log : List Effect) : List BeaconAnchor :=
  log.filterMap Effect.anchor
/-- The events the channel took, in order of arrival. -/
def enqueuedEvents (log : List Effect) : List SnifferEvent :=
  log.filterMap Effect.enqueuedEvent
/-- The events a full channel refused. -/
def refusedEvents (log : List Effect) : List SnifferEvent :=
  log.filterMap Effect.refusedEvent
/-- The events the consumer took. -/
def receivedEvents (log : List Effect) : List SnifferEvent :=
  log.filterMap Effect.receivedEvent
/-- The events the consumer is done with. -/
def consumedEvents (log : List Effect) : List SnifferEvent :=
  log.filterMap Effect.consumedEvent
/-- The samples `UDP_EST` observed, oldest first. -/
def fedSamples (log : List Effect) : List Sample :=
  log.filterMap Effect.fedSample

section Append

variable (log more : List Effect)

@[simp] theorem acceptedAnchors_append :
    acceptedAnchors (log ++ more) = acceptedAnchors log ++ acceptedAnchors more := List.filterMap_append
@[simp] theorem enqueuedEvents_append :
    enqueuedEvents (log ++ more) = enqueuedEvents log ++ enqueuedEvents more := List.filterMap_append
@[simp] theorem refusedEvents_append :
    refusedEvents (log ++ more) = refusedEvents log ++ refusedEvents more := List.filterMap_append
@[simp] theorem receivedEvents_append :
    receivedEvents (log ++ more) = receivedEvents log ++ receivedEvents more := List.filterMap_append
@[simp] theorem consumedEvents_append :
    consumedEvents (log ++ more) = consumedEvents log ++ consumedEvents more := List.filterMap_append
@[simp] theorem fedSamples_append :
    fedSamples (log ++ more) = fedSamples log ++ fedSamples more := List.filterMap_append

end Append

/-- The event in the consumer's hands. -/
def Consumer.inHand : Consumer → List SnifferEvent
  | .receiving => []
  | .beaconReceived anchor => [.beacon anchor]
  | .udpReceived serverNs ownTsfUs => [.udp serverNs ownTsfUs]
  | .udpConverted serverNs ownTsfUs _ => [.udp serverNs ownTsfUs]

/-- Whether an event is a beacon. -/
def SnifferEvent.isBeacon : SnifferEvent → Bool
  | .beacon _ => true
  | .udp _ _ => false

end EspClockSync
