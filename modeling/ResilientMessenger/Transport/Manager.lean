import ResilientMessenger.Core.Table
import ResilientMessenger.Protocol.Frames
import ResilientMessenger.Transport.Directory

/-!
# The transport manager

The client's queue of encoded frames and the loop that hands them to relays,
WebSocket first and HTTPS as fallback.  The network is an `EndpointSender`
whose answers may depend on everything it has been asked before.  Next to its
result `flush` returns the rounds it made, one for each frame it tried, with
every answer the sender gave; the code keeps no such record.
-/

namespace ResilientMessenger.Manager

open ResilientMessenger.ByteCodec
open ResilientMessenger.Frames
open ResilientMessenger.Directory

/-- The network, with `σ` what its next answer depends on. -/
structure EndpointSender (σ : Type) where
  sendWebsocket : σ → RelayEndpoint → Bytes → Except TransportError Bytes × σ
  sendHttps : σ → RelayEndpoint → Bytes → Except TransportError Bytes × σ

structure QueuedFrame where
  clientMessageId : Id16
  bytes : Bytes
  deriving DecidableEq

/-- The health of one endpoint. -/
structure Health where
  endpointId : Id16
  failures : UInt32
  retryAfter : UInt64
  deriving DecidableEq

structure ByteCounters where
  sent : UInt64
  received : UInt64
  attempts : UInt64
  websocketFailures : UInt64
  httpsFailures : UInt64
  relaySwitches : UInt64
  deriving DecidableEq

structure TransportManager (σ : Type) where
  sender : σ
  directory : SignedRelayDirectory
  verificationKey : Id32
  outbox : List QueuedFrame
  health : Table Health.endpointId
  counters : ByteCounters
  preferredEndpoint : Option Id16

inductive Channel where
  | websocket
  | https
  deriving DecidableEq

/-- One call of the sender and its answer. -/
structure Contact where
  endpoint : RelayEndpoint
  channel : Channel
  bytes : Bytes
  answer : Except TransportError Bytes

/-- What `flush` did for one frame: the calls it made and the response, if any
endpoint gave one. -/
structure Round where
  bytes : Bytes
  contacts : List Contact
  delivered : Option Bytes

namespace TransportManager

variable {σ : Type}

def new (scheme : SignatureScheme) (sender : σ) (directory : SignedRelayDirectory)
    (verificationKey : Id32) (now : UInt64) :
    Except TransportError (TransportManager σ) := do
  directory.verify scheme verificationKey now 0
  pure
    { sender
      directory
      verificationKey
      outbox := []
      health := Table.empty
      counters := ⟨0, 0, 0, 0, 0, 0⟩
      preferredEndpoint := none }

def updateDirectory (scheme : SignatureScheme) (manager : TransportManager σ)
    (next : SignedRelayDirectory) (now : UInt64) :
    Except TransportError Unit × TransportManager σ :=
  match next.verify scheme manager.verificationKey now
      manager.directory.version with
  | .error failure => (.error failure, manager)
  | .ok () => (.ok (), { manager with directory := next })

def enqueue (manager : TransportManager σ) (frame : TransportFrame) :
    Except TransportError Unit × TransportManager σ :=
  match frame.encode with
  | .error _ => (.error .frameTooLarge, manager)
  | .ok bytes =>
      if manager.outbox.any fun queued =>
          queued.clientMessageId = frame.clientMessageId then
        (.ok (), manager)
      else
        (.ok (),
          { manager with
            outbox := manager.outbox ++ [⟨frame.clientMessageId, bytes⟩] })

def notifyNetworkChange (manager : TransportManager σ) : TransportManager σ :=
  { manager with
    health := manager.health.update (fun _ => true)
      (fun health => { health with retryAfter := 0 }) fun _ => rfl }

/-! ## Flushing -/

/-- The order in which endpoints are tried: the preferred one first, then by
priority. -/
def triedBefore (preferred : Option Id16) (left right : RelayEndpoint) : Prop :=
  if preferred = some left.endpointId then
    preferred = some right.endpointId → left.priority ≤ right.priority
  else
    preferred ≠ some right.endpointId ∧ left.priority ≤ right.priority

instance (preferred : Option Id16) : DecidableRel (triedBefore preferred) :=
  fun left right => inferInstanceAs (Decidable
    (if preferred = some left.endpointId then
      preferred = some right.endpointId → left.priority ≤ right.priority
    else
      preferred ≠ some right.endpointId ∧ left.priority ≤ right.priority))

def sortedEndpoints (manager : TransportManager σ) : List RelayEndpoint :=
  manager.directory.endpoints.insertionSort
    (triedBefore manager.preferredEndpoint)

/-- `self.health.entry(endpoint_id).or_default()`. -/
def healthEntry (manager : TransportManager σ) (endpointId : Id16) :
    Health × TransportManager σ :=
  match manager.health.lookup endpointId with
  | some health => (health, manager)
  | none =>
      (⟨endpointId, 0, 0⟩,
        { manager with
          health := manager.health.insertOrIgnore ⟨endpointId, 0, 0⟩ })

def setHealth (manager : TransportManager σ) (endpointId : Id16)
    (failures : UInt32) (retryAfter : UInt64) : TransportManager σ :=
  { manager with
    health := manager.health.modify endpointId (fun _ => true)
      (fun health => { health with failures, retryAfter }) fun _ => rfl }

/-- Count an attempt to send these bytes and make it. -/
def attempt (manager : TransportManager σ)
    (call : σ → RelayEndpoint → Bytes → Except TransportError Bytes × σ)
    (endpoint : RelayEndpoint) (bytes : Bytes) :
    Except TransportError Bytes × TransportManager σ :=
  let (answer, sender) := call manager.sender endpoint bytes
  (answer,
    { manager with
      sender
      counters :=
        { manager.counters with
          attempts := manager.counters.attempts + 1
          sent := manager.counters.sent + UInt64.ofNat bytes.length } })

def countWebsocketFailure (manager : TransportManager σ) : TransportManager σ :=
  { manager with
    counters :=
      { manager.counters with
        websocketFailures := manager.counters.websocketFailures + 1 } }

/-- WebSocket, and HTTPS after any WebSocket error. -/
def send (sender : EndpointSender σ) (manager : TransportManager σ)
    (endpoint : RelayEndpoint) (bytes : Bytes) :
    Except TransportError Bytes × TransportManager σ × List Contact :=
  match manager.attempt sender.sendWebsocket endpoint bytes with
  | (.ok value, manager) =>
      (.ok value, manager, [⟨endpoint, .websocket, bytes, .ok value⟩])
  | (.error failure, manager) =>
      let (answer, manager) := manager.countWebsocketFailure.attempt
        sender.sendHttps endpoint bytes
      (answer, manager,
        [⟨endpoint, .websocket, bytes, .error failure⟩,
          ⟨endpoint, .https, bytes, answer⟩])

def recordSuccess (manager : TransportManager σ) (endpoint : RelayEndpoint)
    (highestPriority : Option Id16) (value : Bytes) : TransportManager σ :=
  let manager := manager.setHealth endpoint.endpointId 0 0
  let switched := manager.preferredEndpoint ≠ some endpoint.endpointId ∧
    (manager.preferredEndpoint.isSome ∨
      highestPriority ≠ some endpoint.endpointId)
  { manager with
    counters :=
      { manager.counters with
        received := manager.counters.received + UInt64.ofNat value.length
        relaySwitches :=
          manager.counters.relaySwitches + if switched then 1 else 0 }
    preferredEndpoint := some endpoint.endpointId }

/-- `failures.saturating_add(1)`. -/
def nextFailures (failures : UInt32) : UInt32 :=
  UInt32.ofNat (min (failures.toNat + 1) (2 ^ 32 - 1))

/-- The end of the cooldown after that many failures in a row. -/
def cooldown (now : UInt64) (endpointId : Id16) (failures : UInt32) : UInt64 :=
  let base := 2 ^ min failures.toNat 8
  let jitter := endpointId.head.toNat % base
  saturatingAdd now (UInt64.ofNat (base + jitter))

def recordFailure (manager : TransportManager σ) (now : UInt64)
    (endpoint : RelayEndpoint) (health : Health) : TransportManager σ :=
  let failures := nextFailures health.failures
  let manager := manager.setHealth endpoint.endpointId failures
    (cooldown now endpoint.endpointId failures)
  { manager with
    counters :=
      { manager.counters with
        httpsFailures := manager.counters.httpsFailures + 1 } }

/-- The loop over the endpoints for one frame. -/
def tryEndpoints (sender : EndpointSender σ) (now : UInt64) (bytes : Bytes)
    (highestPriority : Option Id16) :
    List RelayEndpoint → TransportManager σ →
      Option Bytes × TransportManager σ × List Contact
  | [], manager => (none, manager, [])
  | endpoint :: endpoints, manager =>
      let (health, manager) := manager.healthEntry endpoint.endpointId
      if now < health.retryAfter then
        tryEndpoints sender now bytes highestPriority endpoints manager
      else
        match manager.send sender endpoint bytes with
        | (.ok value, manager, contacts) =>
            (some value, manager.recordSuccess endpoint highestPriority value,
              contacts)
        | (.error _, manager, contacts) =>
            let (delivered, manager, later) := tryEndpoints sender now bytes
              highestPriority endpoints
              (manager.recordFailure now endpoint health)
            (delivered, manager, contacts ++ later)

def deliver (sender : EndpointSender σ) (now : UInt64) (bytes : Bytes)
    (manager : TransportManager σ) :
    Option Bytes × TransportManager σ × List Contact :=
  let endpoints := manager.sortedEndpoints
  tryEndpoints sender now bytes (endpoints.head?.map RelayEndpoint.endpointId)
    endpoints manager

/-- The loop of `flush`, over the frames of the outbox; the queue itself is
shortened only after a delivery. -/
def flushLoop (sender : EndpointSender σ) (now : UInt64) :
    List QueuedFrame → List Bytes → TransportManager σ →
      Except TransportError (List Bytes) × TransportManager σ × List Round
  | [], responses, manager => (.ok responses, manager, [])
  | frame :: frames, responses, manager =>
      match manager.deliver sender now frame.bytes with
      | (some value, manager, contacts) =>
          let (result, manager, rounds) :=
            flushLoop sender now frames (responses ++ [value])
              { manager with outbox := manager.outbox.tail }
          (result, manager, ⟨frame.bytes, contacts, some value⟩ :: rounds)
      | (none, manager, contacts) =>
          (.error .unavailable, manager, [⟨frame.bytes, contacts, none⟩])

def flush (sender : EndpointSender σ) (now : UInt64)
    (manager : TransportManager σ) :
    Except TransportError (List Bytes) × TransportManager σ × List Round :=
  flushLoop sender now manager.outbox [] manager

end TransportManager

end ResilientMessenger.Manager
