import Juicity.Common.IpText
import Juicity.Machine.IndexMap
import Juicity.Machine.Notify
import Juicity.Machine.Run
import Juicity.Machine.Table
import Juicity.Server.UdpRelay.Model

/-!
Owns the model of `resolve_udp_target` in `server/src/server.rs` as any number
of calls that share the DNS cache and `dns_resolving` of one connection. One
action is one critical section, one resumption of a suspended call, or one of
the two statements of `ResolutionGuard::drop`, which another call may separate.
-/

namespace Juicity.Server.DnsFlight

open Juicity.Common
open Juicity.Machine
open Juicity.Server.UdpRelay (Name)

/-- How a call ends; a dropped future has no result. -/
inductive Outcome where
  | resolved (target : SocketAddr)
  | failed (error : String)
  | dropped
deriving DecidableEq

/-- Where a call stands. `looking` is in `lookup_host` with the key registered;
the guard is dropped from `releasing` on, and `notify` is its `Notify`. -/
inductive Pc where
  | idle
  | entering
  | waiting (wait : Notified)
  | looking (notify : Nat)
  | storing (notify : Nat) (target : SocketAddr)
  | releasing (notify : Nat) (outcome : Outcome)
  | notifying (notify : Nat) (outcome : Outcome)
  | finished (outcome : Outcome)
deriving DecidableEq

structure Call where
  key : Name
  deadline : Instant
  pc : Pc

structure State where
  now : Instant
  dnsCache : IndexMap Name (SocketAddr × Instant)
  dnsResolving : Table Name Nat
  notify : Registry
  calls : Nat → Call

def initial : State where
  now := 0
  dnsCache := .empty
  dnsResolving := ∅
  notify := .empty
  calls := fun _ => ⟨⟨"", 0⟩, 0, .idle⟩

def queryTimeout (key : Name) : Outcome :=
  .failed ("DNS query timeout for " ++ key.host ++ ":" ++ toString key.port)

def noResult (key : Name) : Outcome :=
  .failed ("no DNS result for " ++ key.host ++ ":" ++ toString key.port)

namespace State

def setCall (state : State) (call : Nat) (record : Call) : State :=
  { state with calls := Function.update state.calls call record }

def setPc (state : State) (call : Nat) (pc : Pc) : State :=
  state.setCall call { state.calls call with pc := pc }

/-- The call starts: an address literal needs no lookup. -/
def begin (state : State) (call : Nat) (key : Name) : State :=
  match IpText.parseIp key.host with
  | some ip => state.setCall call ⟨key, state.now, .finished (.resolved ⟨ip, key.port⟩)⟩
  | none => state.setCall call ⟨key, state.now + Consts.dnsQueryTimeout, .entering⟩

/-- The loop finds the key registered or registers it, under the lock. -/
def register (state : State) (call : Nat) : State :=
  let key := (state.calls call).key
  match state.dnsResolving.lookup key with
  | some notify => state.setPc call (.waiting (state.notify.notified notify))
  | none =>
      { state.setPc call (.looking state.notify.fresh) with
        dnsResolving := state.dnsResolving.insert key state.notify.fresh
        notify := state.notify.alloc }

/-- The critical section of the loop: the cache first, under its own lock. -/
def enter (state : State) (call : Nat) : State :=
  let key := (state.calls call).key
  match state.dnsCache.get key with
  | some (mapped, timestamp) =>
      if state.now.durationSince timestamp < Consts.udpDnsCacheTtl then
        state.setPc call (.finished (.resolved mapped))
      else
        { state with dnsCache := state.dnsCache.swapRemove key }.register call
  | none => state.register call

/-- `lookup_host` returned. -/
def answer (state : State) (call notify : Nat) (found : Except String (List SocketAddr)) : State :=
  match found with
  | .ok (target :: _) => state.setPc call (.storing notify target)
  | .ok [] => state.setPc call (.releasing notify (noResult (state.calls call).key))
  | .error error => state.setPc call (.releasing notify (.failed error))

/-- A full cache loses its first key. -/
def madeRoom (state : State) : IndexMap Name (SocketAddr × Instant) :=
  match state.dnsCache.entries with
  | oldest :: _ =>
      if Consts.maxUdpDnsCache ≤ state.dnsCache.size then state.dnsCache.swapRemove oldest.1
      else state.dnsCache
  | [] => state.dnsCache

/-- The address goes into the cache, and the guard will be dropped. -/
def store (state : State) (call notify : Nat) (target : SocketAddr) : State :=
  { state.setPc call (.releasing notify (.resolved target)) with
    dnsCache := state.madeRoom.insert (state.calls call).key (target, state.now) }

/-- `resolving.remove(&self.key)`. -/
def release (state : State) (call notify : Nat) (outcome : Outcome) : State :=
  { state.setPc call (.notifying notify outcome) with
    dnsResolving := state.dnsResolving.erase (state.calls call).key }

/-- `self.notify.notify_waiters()`. -/
def wakeAll (state : State) (call notify : Nat) (outcome : Outcome) : State :=
  { state.setPc call (.finished outcome) with notify := state.notify.notifyWaiters notify }

end State

inductive Action where
  | tick (elapsed : Duration)
  | begin (call : Nat) (key : Name)
  | enter (call : Nat)
  | wake (call : Nat)
  | answer (call : Nat) (found : Except String (List SocketAddr))
  | store (call : Nat)
  | timeout (call : Nat)
  | drop (call : Nat)
  | release (call : Nat)
  | wakeAll (call : Nat)

/-- One action. A timeout polls what it guards first, so a call that was woken
does not time out. -/
def step (state : State) : Action → Option State
  | .tick elapsed => some { state with now := state.now + elapsed }
  | .begin call key =>
      match (state.calls call).pc with
      | .idle => some (state.begin call key)
      | _ => none
  | .enter call =>
      match (state.calls call).pc with
      | .entering => some (state.enter call)
      | _ => none
  | .wake call =>
      match (state.calls call).pc with
      | .waiting wait => if state.notify.Woken wait then some (state.setPc call .entering) else none
      | _ => none
  | .answer call found =>
      match (state.calls call).pc with
      | .looking notify => some (state.answer call notify found)
      | _ => none
  | .store call =>
      match (state.calls call).pc with
      | .storing notify target => some (state.store call notify target)
      | _ => none
  | .timeout call =>
      if (state.calls call).deadline ≤ state.now then
        match (state.calls call).pc with
        | .waiting wait =>
            if state.notify.Woken wait then none
            else some (state.setPc call (.finished (queryTimeout (state.calls call).key)))
        | .looking notify =>
            some (state.setPc call (.releasing notify (queryTimeout (state.calls call).key)))
        | _ => none
      else none
  | .drop call =>
      match (state.calls call).pc with
      | .waiting _ => some (state.setPc call (.finished .dropped))
      | .looking notify => some (state.setPc call (.releasing notify .dropped))
      | _ => none
  | .release call =>
      match (state.calls call).pc with
      | .releasing notify outcome => some (state.release call notify outcome)
      | _ => none
  | .wakeAll call =>
      match (state.calls call).pc with
      | .notifying notify outcome => some (state.wakeAll call notify outcome)
      | _ => none

end Juicity.Server.DnsFlight
