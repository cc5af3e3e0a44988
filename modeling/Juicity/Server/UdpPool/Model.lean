import Juicity.Machine.Notify
import Juicity.Machine.Run
import Juicity.Server.Udp

/-!
Owns the model of `UdpEndpointPool` in `server/src/udp.rs`: the cache, the
`creating` set, the `notify_map`, and any number of concurrent `get_or_create`
calls. Every lock acquisition, map operation, creation of a `notified()` future
and await is one action. The cache may drop an entry at any time, on its own
account or because of `remove`.
-/

namespace Juicity.Server.UdpPool

open Juicity.Common
open Juicity.Machine

/-- How a call leaves `get_or_create`. -/
inductive Outcome where
  | ready (endpoint : PooledUdpEndpoint) (isNew : Bool)
  | failed (error : String)
  | dropped
deriving DecidableEq

/-- Where a call stands; `notify` is a `Notify` object. The creator holds its
own through `CreationGuard`, whose drop is the three steps before `finished`. -/
inductive Pc where
  | idle
  | top
  | arbitrating (notify : Nat)
  | publishing (notify : Nat)
  | rechecking (notify : Nat)
  | creating (notify : Nat)
  | releasing (notify : Nat) (outcome : Outcome)
  | unlisting (notify : Nat) (outcome : Outcome)
  | signalling (notify : Nat) (outcome : Outcome)
  | registering
  | checking (notify : Nat)
  | subscribing (notify : Nat)
  | waiting (wait : Notified)
  | finished (outcome : Outcome)
deriving DecidableEq

structure Caller where
  addr : SocketAddr
  dialTarget : String
  pc : Pc

structure State where
  inner : SocketAddr → Option UdpEndpoint
  creating : SocketAddr → Bool
  notifyMap : SocketAddr → Option Nat
  notify : Registry
  callers : Nat → Caller

def initial : State where
  inner := fun _ => none
  creating := fun _ => false
  notifyMap := fun _ => none
  notify := .empty
  callers := fun _ => ⟨⟨.v4 (.replicate 4 0), 0⟩, "", .idle⟩

/-- The `Notify` a call's `CreationGuard` will signal. -/
def Pc.creates : Pc → Option Nat
  | .publishing notify | .rechecking notify | .creating notify | .releasing notify _
  | .unlisting notify _ | .signalling notify _ => some notify
  | _ => none

namespace State

def setPc (state : State) (caller : Nat) (pc : Pc) : State :=
  { state with
    callers := Function.update state.callers caller { state.callers caller with pc := pc } }

def addrOf (state : State) (caller : Nat) : SocketAddr := (state.callers caller).addr

/-- Lookup in the cache, at the top of the loop and again under the guard. -/
def getSocket (state : State) (caller : Nat) : Option PooledUdpEndpoint :=
  (state.inner (state.addrOf caller)).map .fromEndpoint

/-- `creating.lock().insert(addr)`. -/
def arbitrate (state : State) (caller notify : Nat) : State :=
  if state.creating (state.addrOf caller) then
    state.setPc caller .registering
  else
    { state.setPc caller (.publishing notify) with
      creating := Function.update state.creating (state.addrOf caller) true }

/-- `notify_map.lock().entry(addr).or_insert_with(..).clone()`. -/
def register (state : State) (caller : Nat) : State :=
  match state.notifyMap (state.addrOf caller) with
  | some notify => state.setPc caller (.checking notify)
  | none =>
      { state.setPc caller (.checking state.notify.fresh) with
        notify := state.notify.alloc
        notifyMap := Function.update state.notifyMap (state.addrOf caller)
          (some state.notify.fresh) }

/-- The next piece of code of a call, when it can run. -/
def advance (state : State) (caller : Nat) : Option State :=
  let addr := state.addrOf caller
  match (state.callers caller).pc with
  | .top =>
      match state.getSocket caller with
      | some endpoint => some (state.setPc caller (.finished (.ready endpoint false)))
      | none =>
          some { state.setPc caller (.arbitrating state.notify.fresh) with
            notify := state.notify.alloc }
  | .arbitrating notify => some (state.arbitrate caller notify)
  | .publishing notify =>
      some { state.setPc caller (.rechecking notify) with
        notifyMap := Function.update state.notifyMap addr (some notify) }
  | .rechecking notify =>
      match state.getSocket caller with
      | some endpoint => some (state.setPc caller (.releasing notify (.ready endpoint false)))
      | none => some (state.setPc caller (.creating notify))
  | .releasing notify outcome =>
      some { state.setPc caller (.unlisting notify outcome) with
        creating := Function.update state.creating addr false }
  | .unlisting notify outcome =>
      some { state.setPc caller (.signalling notify outcome) with
        notifyMap := Function.update state.notifyMap addr none }
  | .signalling notify outcome =>
      some { state.setPc caller (.finished outcome) with
        notify := state.notify.notifyWaiters notify }
  | .registering => some (state.register caller)
  | .checking notify =>
      if state.creating addr then some (state.setPc caller (.subscribing notify))
      else some (state.setPc caller .top)
  | .subscribing notify => some (state.setPc caller (.waiting (state.notify.notified notify)))
  | .waiting wait => if state.notify.Woken wait then some (state.setPc caller .top) else none
  | .idle | .creating _ | .finished _ => none

/-- `UdpEndpoint::new` returns; a new endpoint goes into the cache before the
guard is dropped. -/
def create (state : State) (caller notify : Nat) (created : Except String UdpEndpoint) : State :=
  match created with
  | .ok endpoint =>
      { state.setPc caller (.releasing notify (.ready (.fromEndpoint endpoint) true)) with
        inner := Function.update state.inner (state.addrOf caller) (some endpoint) }
  | .error error => state.setPc caller (.releasing notify (.failed error))

end State

inductive Action where
  | call (caller : Nat) (addr : SocketAddr) (dialTarget : String)
  | run (caller : Nat)
  | create (caller : Nat) (bound : Except String (Nat × Bool))
      (lookup : Except String (List SocketAddr))
  | cancel (caller : Nat)
  | evict (addr : SocketAddr)

/-- The call an action belongs to. -/
def Action.caller? : Action → Option Nat
  | .call caller _ _ | .run caller | .create caller _ _ | .cancel caller => some caller
  | .evict _ => none

/-- One action. A call can be dropped while it creates, which drops its guard,
or while it waits. -/
def step (state : State) : Action → Option State
  | .call caller addr dialTarget =>
      match (state.callers caller).pc with
      | .idle => some { state with
          callers := Function.update state.callers caller ⟨addr, dialTarget, .top⟩ }
      | _ => none
  | .run caller => state.advance caller
  | .create caller bound lookup =>
      match (state.callers caller).pc with
      | .creating notify =>
          some (state.create caller notify
            (UdpEndpoint.new (state.callers caller).dialTarget bound lookup))
      | _ => none
  | .cancel caller =>
      match (state.callers caller).pc with
      | .creating notify => some (state.setPc caller (.releasing notify .dropped))
      | .waiting _ => some (state.setPc caller (.finished .dropped))
      | _ => none
  | .evict addr => some { state with inner := Function.update state.inner addr none }

end Juicity.Server.UdpPool
