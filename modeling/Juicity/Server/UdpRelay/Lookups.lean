import Juicity.Server.UdpRelay.Names

/-!
Owns the ages of the addresses the relay sends to. Beside the relay stands what
its tables do not say: which lookup an address comes from, when that lookup
completed, and when the address field of a datagram was read. The entry of the
shared cache carries the time of its lookup; the local entry of a stream does
not, so its origin is kept here. The address field of a later datagram is read
before the rest of it, at a moment of its own.
-/

namespace Juicity.Server.UdpRelay.Lookups

open Juicity.Common
open Juicity.Machine

/-- Where an address comes from: the name is an address, or a lookup that
completed at this moment. -/
inductive Origin where
  | literal
  | lookup (completed : Instant)
deriving DecidableEq

/-- The address is an address, or its lookup completed less than the TTL before
the datagram's address was read. -/
def Origin.Young (readAt : Instant) : Origin → Prop
  | .literal => True
  | .lookup completed => readAt < completed + Consts.udpDnsCacheTtl

instance (readAt : Instant) (origin : Origin) : Decidable (origin.Young readAt) := by
  cases origin <;> unfold Origin.Young <;> infer_instance

/-- A completed lookup. -/
structure Lookup where
  name : Name
  target : SocketAddr
  completed : Instant
deriving DecidableEq

/-- A datagram that was sent. -/
structure Use where
  sent : Sent
  readAt : Instant
  origin : Origin
deriving DecidableEq

def Use.Young (use : Use) : Prop := use.origin.Young use.readAt

/-- What a stream's record does not say: when the address of its datagram was
read, and the origins of the address it dials and of its local entries. -/
structure Ages where
  addressRead : Bool
  readAt : Instant
  pending : Origin
  locals : Name → Origin

structure State where
  relay : UdpRelay.State
  ages : Nat → Ages
  lookups : List Lookup
  uses : List Use

def initial : State := ⟨UdpRelay.initial, fun _ => ⟨false, 0, .literal, fun _ => .literal⟩, [], []⟩

/-- The address `resolve_udp_target` returns without a lookup. -/
def finds (setting : Setting) (relay : UdpRelay.State) (name : Name) :
    Option (SocketAddr × Origin) :=
  match setting.text.parseIp name.host with
  | some ip => some (⟨ip, name.port⟩, .literal)
  | none =>
      match relay.dnsCache.get name with
      | some (mapped, timestamp) =>
          if relay.now.durationSince timestamp < Consts.udpDnsCacheTtl then
            some (mapped, .lookup timestamp)
          else
            none
      | none => none

/-- An address that `resolve_udp_target` returned to a stream. -/
structure Obtained where
  stream : Nat
  name : Name
  datagram : Datagram
  target : SocketAddr
  origin : Origin

def obtained (setting : Setting) (relay : UdpRelay.State) : UdpRelay.Action → Option Obtained
  | .run id =>
      match (relay.streams id).pc with
      | .resolving name datagram =>
          (finds setting relay name).map fun found => ⟨id, name, datagram, found.1, found.2⟩
      | _ => none
  | .lookedUp id (.ok (ip :: _)) =>
      match (relay.streams id).pc with
      | .lookingUp name datagram => some ⟨id, name, datagram, ⟨ip, name.port⟩, .lookup relay.now⟩
      | _ => none
  | _ => none

/-- The loop finds the target of its datagram in `local_resolved`. -/
def localHit (setting : Setting) (state : State) : UdpRelay.Action → Option Use
  | .run id =>
      match (state.relay.streams id).pc with
      | .reading =>
          match readDatagram setting.text (state.relay.streams id).input with
          | .ok ((name, payload), _) =>
              ((state.relay.streams id).localResolved.lookup name).map fun target =>
                ⟨⟨id, name, target, payload⟩, (state.ages id).readAt, (state.ages id).locals name⟩
          | .error _ => none
      | _ => none
  | _ => none

/-- The first datagram is complete and goes out to the address that was dialed. -/
def firstUse (state : State) : UdpRelay.Action → Option Use
  | .run id =>
      match (state.relay.streams id).pc with
      | .filling name target =>
          match readPayload (state.relay.streams id).input with
          | .ok (payload, _) =>
              some ⟨⟨id, name, target, payload⟩, (state.ages id).readAt, (state.ages id).pending⟩
          | .error _ => none
      | _ => none
  | _ => none

/-- What this action sends. -/
def used (setting : Setting) (state : State) (action : UdpRelay.Action) : Option Use :=
  match obtained setting state.relay action with
  | some ⟨id, name, .later payload, target, origin⟩ =>
      some ⟨⟨id, name, target, payload⟩, (state.ages id).readAt, origin⟩
  | some _ => none
  | none => (localHit setting state action).or (firstUse state action)

/-- The lookup this action completes. -/
def completed (relay : UdpRelay.State) : UdpRelay.Action → Option Lookup
  | .lookedUp id (.ok (ip :: _)) =>
      match (relay.streams id).pc with
      | .lookingUp name _ => some ⟨name, ⟨ip, name.port⟩, relay.now⟩
      | _ => none
  | _ => none

/-- The ages of a stream that was given an address. -/
def Ages.obtain (ages : Ages) (got : Obtained) : Ages :=
  match got.datagram with
  | .first => { ages with pending := got.origin }
  | .later _ => { ages with locals := Function.update ages.locals got.name got.origin }

def agesAfter (setting : Setting) (state : State) (action : UdpRelay.Action) : Nat → Ages :=
  match obtained setting state.relay action with
  | some got => Function.update state.ages got.stream ((state.ages got.stream).obtain got)
  | none =>
      match action with
      | .openStream id _ => Function.update state.ages id (initial.ages id)
      | .run id =>
          if (state.relay.streams id).pc = .opening then
            Function.update state.ages id { state.ages id with readAt := state.relay.now }
          else
            state.ages
      | .sent id _ => Function.update state.ages id { state.ages id with addressRead := false }
      | _ => state.ages

inductive Action where
  | address (stream : Nat)
  | relay (action : UdpRelay.Action)

/-- The rest of a later datagram is read after its address. -/
def early (state : State) : UdpRelay.Action → Bool
  | .run id => (state.relay.streams id).pc = .reading && !(state.ages id).addressRead
  | _ => false

def step (setting : Setting) (state : State) : Action → Option State
  | .address id =>
      if (state.relay.streams id).pc = .reading ∧ (state.ages id).addressRead = false then
        some { state with
          ages := Function.update state.ages id { state.ages id with
            addressRead := true
            readAt := state.relay.now } }
      else
        none
  | .relay action =>
      if early state action then none
      else
        (UdpRelay.step setting state.relay action).map fun relay =>
          { relay := relay
            ages := agesAfter setting state action
            lookups := state.lookups ++ (completed state.relay action).toList
            uses := state.uses ++ (used setting state action).toList }

end Juicity.Server.UdpRelay.Lookups
