import Juicity.Common.Address
import Juicity.Common.Consts
import Juicity.Machine.IndexMap
import Juicity.Machine.Table

/-!
Owns the model of `handle_udp_relay` and `resolve_udp_target` in
`server/src/server.rs`: the UDP streams of one connection, which share its DNS
cache. A stream is given with the bytes it delivers before it ends. It is the
task that handles the first datagram and then its `quic_to_remote` loop; the
other direction only counts as what may abort the loop. A call that waits for
the lookup of another one stays where it is and looks again.
-/

namespace Juicity.Server.UdpRelay

open Juicity.Common
open Juicity.Machine

/-- The key of the DNS cache. -/
structure Name where
  host : String
  port : UInt16
deriving DecidableEq

/-- Which datagram of a stream is handled; the first is still unread. -/
inductive Datagram where
  | first
  | later (payload : Bytes)
deriving DecidableEq

/-- Where a stream stands; `resolving` is the start of the loop of
`resolve_udp_target`. -/
inductive Pc where
  | idle
  | opening
  | resolving (name : Name) (datagram : Datagram)
  | lookingUp (name : Name) (datagram : Datagram)
  | dialing (name : Name) (target : SocketAddr)
  | filling (name : Name) (target : SocketAddr)
  | sendingFirst
  | reading
  | sending
  | finished (error : Option String)
deriving DecidableEq

structure Stream where
  input : Bytes
  localResolved : Table Name SocketAddr
  pc : Pc

/-- A call of `send_to_addr`, with the name its datagram carried. -/
structure Sent where
  stream : Nat
  name : Name
  target : SocketAddr
  payload : Bytes
deriving DecidableEq

structure State where
  dnsCache : IndexMap Name (SocketAddr × Instant)
  dnsResolving : Name → Bool
  now : Instant
  streams : Nat → Stream
  sends : List Sent

def initial : State where
  dnsCache := .empty
  dnsResolving := fun _ => false
  now := 0
  streams := fun _ => ⟨[], ∅, .idle⟩
  sends := []

structure Setting where
  disableUdp443 : Bool
  text : AddrText

/-- `[len(2)][payload]`. -/
def readPayload : Reader Bytes := do
  let len := u16FromBeBytes (← readExact 2)
  return (← readExact len.toNat).val

/-- `[trojanc_addr][len(2)][payload]`. -/
def readDatagram (text : AddrText) : Reader (Name × Bytes) := do
  let (port, host) ← Protocol.readTrojancAddrInto text
  return (⟨host, port⟩, ← readPayload)

namespace State

def setStream (state : State) (id : Nat) (stream : Stream) : State :=
  { state with streams := Function.update state.streams id stream }

def setPc (state : State) (id : Nat) (pc : Pc) : State :=
  state.setStream id { state.streams id with pc := pc }

/-- `?` for the first datagram; the loop breaks without an error. -/
def fail (state : State) (id : Nat) (datagram : Datagram) (error : String) : State :=
  match datagram with
  | .first => state.setPc id (.finished (some error))
  | .later _ => state.setPc id (.finished none)

/-- `send_to_addr` is called in the loop. -/
def sendLater (state : State) (id : Nat) (name : Name) (target : SocketAddr) (payload : Bytes) :
    State :=
  { state.setPc id .sending with sends := state.sends ++ [⟨id, name, target, payload⟩] }

/-- `resolve_udp_target` returned an address. -/
def resolved (state : State) (id : Nat) (name : Name) (datagram : Datagram)
    (target : SocketAddr) : State :=
  match datagram with
  | .first => state.setPc id (.dialing name target)
  | .later payload =>
      (state.setStream id { state.streams id with
        localResolved := (state.streams id).localResolved.insert name target }).sendLater
          id name target payload

/-- A cached address that has not expired. -/
def cached (state : State) (name : Name) : Option SocketAddr :=
  match state.dnsCache.get name with
  | some (mapped, timestamp) =>
      if state.now.durationSince timestamp < Consts.udpDnsCacheTtl then some mapped else none
  | none => none

/-- One pass through the loop of `resolve_udp_target` up to its first await. -/
def resolve (setting : Setting) (state : State) (id : Nat) (name : Name) (datagram : Datagram) :
    State :=
  match setting.text.parseIp name.host with
  | some ip => state.resolved id name datagram ⟨ip, name.port⟩
  | none =>
      match state.cached name with
      | some mapped => state.resolved id name datagram mapped
      | none =>
          let pruned := { state with dnsCache := state.dnsCache.swapRemove name }
          if state.dnsResolving name then
            pruned
          else
            { pruned.setPc id (.lookingUp name datagram) with
              dnsResolving := Function.update state.dnsResolving name true }

/-- The `ResolutionGuard` is dropped. -/
def release (state : State) (name : Name) : State :=
  { state with dnsResolving := Function.update state.dnsResolving name false }

/-- A full cache loses its first key before the address goes in. -/
def remember (state : State) (name : Name) (target : SocketAddr) : State :=
  let cache :=
    match state.dnsCache.entries with
    | oldest :: _ =>
        if Consts.maxUdpDnsCache ≤ state.dnsCache.size then state.dnsCache.swapRemove oldest.1
        else state.dnsCache
    | [] => state.dnsCache
  { state with dnsCache := cache.insert name (target, state.now) }

/-- `lookup_host((host, port))` returned: it gives every address of the host the
port it was asked for. -/
def lookedUp (state : State) (id : Nat) (name : Name) (datagram : Datagram)
    (answer : Except String (List IpAddr)) : State :=
  match answer with
  | .ok (ip :: _) =>
      ((state.remember name ⟨ip, name.port⟩).release name).resolved id name datagram
        ⟨ip, name.port⟩
  | .ok [] =>
      (state.release name).fail id datagram
        ("no DNS result for " ++ name.host ++ ":" ++ toString name.port)
  | .error error => (state.release name).fail id datagram error

/-- The first address, before the filter. -/
def openFirst (setting : Setting) (state : State) (id : Nat) : State :=
  match Protocol.readTrojancAddr setting.text (state.streams id).input with
  | .ok ((host, port), rest) =>
      if setting.disableUdp443 && port == 443 then
        state.setPc id (.finished none)
      else
        state.setStream id { state.streams id with
          input := rest
          pc := .resolving ⟨host, port⟩ .first }
  | .error error => state.setPc id (.finished (some error))

/-- The rest of the first datagram, which is then sent. -/
def fillFirst (state : State) (id : Nat) (name : Name) (target : SocketAddr) : State :=
  match readPayload (state.streams id).input with
  | .ok (payload, rest) =>
      { state.setStream id { state.streams id with
          input := rest
          pc := .sendingFirst } with
        sends := state.sends ++ [⟨id, name, target, payload⟩] }
  | .error error => state.setPc id (.finished (some error))

/-- The loop reads a datagram and looks its target up in the local cache. -/
def readLater (setting : Setting) (state : State) (id : Nat) : State :=
  match readDatagram setting.text (state.streams id).input with
  | .ok ((name, payload), rest) =>
      let state := state.setStream id { state.streams id with input := rest }
      match (state.streams id).localResolved.lookup name with
      | some cached => state.sendLater id name cached payload
      | none => state.setPc id (.resolving name (.later payload))
  | .error _ => state.setPc id (.finished none)

/-- The next piece of code of a stream, when it can run. -/
def advance (setting : Setting) (state : State) (id : Nat) : Option State :=
  match (state.streams id).pc with
  | .opening => some (state.openFirst setting id)
  | .resolving name datagram => some (state.resolve setting id name datagram)
  | .filling name target => some (state.fillFirst id name target)
  | .reading => some (state.readLater setting id)
  | _ => none

end State

inductive Action where
  | openStream (stream : Nat) (input : Bytes)
  | run (stream : Nat)
  | tick (duration : Duration)
  | timeout (stream : Nat)
  | lookedUp (stream : Nat) (answer : Except String (List IpAddr))
  | dialed (stream : Nat) (error : Option String)
  | sent (stream : Nat) (error : Option String)
  | abort (stream : Nat)

/-- One action. -/
def step (setting : Setting) (state : State) : Action → Option State
  | .openStream id input =>
      match (state.streams id).pc with
      | .idle => some (state.setStream id ⟨input, ∅, .opening⟩)
      | _ => none
  | .run id => state.advance setting id
  | .tick duration => some { state with now := state.now + duration }
  | .timeout id =>
      match (state.streams id).pc with
      | .resolving name datagram =>
          some (state.fail id datagram
            ("DNS query timeout for " ++ name.host ++ ":" ++ toString name.port))
      | _ => none
  | .lookedUp id answer =>
      match (state.streams id).pc with
      | .lookingUp name datagram => some (state.lookedUp id name datagram answer)
      | _ => none
  | .dialed id error =>
      match (state.streams id).pc, error with
      | .dialing name target, none => some (state.setPc id (.filling name target))
      | .dialing _ _, some error => some (state.setPc id (.finished (some error)))
      | _, _ => none
  | .sent id error =>
      match (state.streams id).pc, error with
      | .sendingFirst, none | .sending, none => some (state.setPc id .reading)
      | .sendingFirst, some error => some (state.setPc id (.finished (some error)))
      | .sending, some _ => some (state.setPc id (.finished none))
      | _, _ => none
  | .abort id =>
      match (state.streams id).pc with
      | .idle | .finished _ => none
      | .lookingUp name _ => some ((state.release name).setPc id (.finished none))
      | _ => some (state.setPc id (.finished none))

end Juicity.Server.UdpRelay
