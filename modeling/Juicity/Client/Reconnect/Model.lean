import Juicity.Common.Consts
import Juicity.Machine.FairMutex
import Juicity.Machine.Notify
import Juicity.Machine.Run

/-!
Owns the model of the reconnect protocol of `client/src/client.rs`: the record
behind `reconnect_lock`, the shared connection, `connect_inner`,
`wait_for_reconnect`, `lead_reconnect` with its `ReconnectGuard`, and the
interleavings of any number of `connect` and `preconnect` calls. One action is
the code of one call between two points where another task can run. A call can
be dropped wherever it awaits; a dropped leader first gives up the lock or its
place in the queue, and its guard runs afterwards.
-/

namespace Juicity.Client.Reconnect

open Juicity.Common
open Juicity.Machine

/-- An error text, numbered by the attempt that published it. The number is a
ghost: no step reads it. -/
structure Failure where
  text : String
  serial : Nat
deriving DecidableEq

/-- The record behind `reconnect_lock`; `done` is a `Notify` object. -/
structure ReconnectState where
  lastFailure : Option (Instant × Failure)
  attempts : Nat
  inFlight : Bool
  recordFailure : Bool
  done : Option Nat

/-- `ReconnectState::default()`. -/
def ReconnectState.default : ReconnectState := ⟨none, 0, false, false, none⟩

/-- `u32::saturating_add(1)`. -/
def saturatingSucc (attempts : Nat) : Nat := min (attempts + 1) 4294967295

def reconnectDelay (attempts : Nat) : Duration := Duration.fromSecs (min (1 <<< min attempts 5) 30)

/-- What a call returns. An error keeps, as a ghost, whether the backoff window
of the recorded failure was still open when the call read it. -/
inductive Outcome where
  | ok (conn : Nat)
  | error (failure : Failure) (inBackoff : Bool)
  | panicked
deriving DecidableEq

/-- The places that lock `reconnect_lock`, with what is live across the await. -/
inductive Site where
  | loopTop
  | preWait (wait : Notified)
  | postWake
  | failed (done : Nat) (error : String)
  | connected (done : Nat) (conn : Nat)
deriving DecidableEq

/-- Where a call stands. -/
inductive Pc where
  | idle
  | entering
  | asking (site : Site)
  | locking (site : Site)
  | deciding
  | joined (wait : Notified)
  | preWaitLive (wait : Notified)
  | waiting (wait : Notified)
  | woken
  | clearing (done : Nat)
  | clearingAuth (done : Nat)
  | dialing (done : Nat)
  | storingAuth (done : Nat) (conn : Nat)
  | publishing (done : Nat) (conn : Nat)
  | signalling (done : Nat) (result : Outcome)
  | dropping (done : Nat)
  | returned (result : Outcome)
  | dropped
deriving DecidableEq

/-- A call; `record` tells `connect` from `preconnect`. `began` is a ghost: how
many attempts had failed when the call began. -/
structure Caller where
  record : Bool
  began : Nat
  pc : Pc

structure State where
  now : Instant
  lock : FairMutex Nat
  reconnect : ReconnectState
  connection : Option Nat
  closed : Nat → Bool
  authUniStream : Option Nat
  notify : Registry
  failures : Nat
  callers : Nat → Caller

def initial : State where
  now := 0
  lock := .free
  reconnect := .default
  connection := none
  closed := fun _ => false
  authUniStream := none
  notify := .empty
  failures := 0
  callers := fun _ => ⟨false, 0, .idle⟩

/-! ## Roles of a call -/

/-- The `Notify` a call must signal because it has not published its result. -/
def Site.leads : Site → Option Nat
  | .failed done _ | .connected done _ => some done
  | _ => none

def Site.waits : Site → Option Notified
  | .preWait wait => some wait
  | _ => none

/-- A call executes `lead_reconnect` from the moment it takes the lead until it
has published its result or its guard has run; it holds this `Notify`. -/
def Pc.leads : Pc → Option Nat
  | .clearing done | .clearingAuth done | .dialing done | .storingAuth done _
  | .publishing done _ | .dropping done => some done
  | .asking site | .locking site => site.leads
  | _ => none

/-- The `Notify` a call is about to signal, its result being published. -/
def Pc.signals : Pc → Option Nat
  | .signalling done _ => some done
  | _ => none

/-- The wake-up a call subscribed to and has not consumed. -/
def Pc.waits : Pc → Option Notified
  | .joined wait | .preWaitLive wait | .waiting wait => some wait
  | .asking site | .locking site => site.waits
  | _ => none

/-- The call consumed its wake-up and has not yet read the failure. -/
def Pc.heard : Pc → Bool
  | .woken | .asking .postWake | .locking .postWake => true
  | _ => false

/-- The call certainly owns the lock. -/
def Pc.owns : Pc → Bool
  | .deciding | .preWaitLive _ | .publishing _ _ => true
  | _ => false

/-- The result a call has returned or is about to return. -/
def Pc.result : Pc → Option Outcome
  | .signalling _ result | .returned result => some result
  | _ => none

/-! ## Steps -/

namespace State

def setPc (state : State) (caller : Nat) (pc : Pc) : State :=
  { state with
    callers := Function.update state.callers caller { state.callers caller with pc := pc } }

/-- `live_connection`. -/
def liveConnection (state : State) : Option Nat :=
  state.connection.filter fun conn => !state.closed conn

/-- The recorded failure while its backoff window is open. -/
def backoffFailure (state : State) : Option Failure :=
  match state.reconnect.lastFailure with
  | some (last, failure) =>
      if Instant.durationSince state.now last < reconnectDelay state.reconnect.attempts then
        some failure
      else
        none
  | none => none

/-- Leave the critical section. -/
def unlock (state : State) (caller : Nat) (pc : Pc) : State :=
  { state.setPc caller pc with lock := state.lock.release }

/-- Return the recorded failure if there is one, else go round the loop; the
lock is given up either way. The age of the failure is not looked at. -/
def failOrRetry (state : State) (caller : Nat) : State :=
  match state.reconnect.lastFailure with
  | some (_, failure) =>
      state.unlock caller (.returned (.error failure state.backoffFailure.isSome))
  | none => state.unlock caller (.asking .loopTop)

/-- Join the attempt in flight: a real request makes it record its failure, and
the call subscribes before it unlocks. -/
def join (state : State) (caller done : Nat) : State :=
  { state.unlock caller (.joined (state.notify.notified done)) with
    reconnect := { state.reconnect with
      recordFailure := state.reconnect.recordFailure || (state.callers caller).record } }

/-- Become the leader, with a new `Notify`. -/
def lead (state : State) (caller : Nat) : State :=
  { state.unlock caller (.clearing state.notify.fresh) with
    notify := state.notify.alloc
    reconnect := { state.reconnect with
      inFlight := true
      recordFailure := (state.callers caller).record
      done := some state.notify.fresh } }

/-- The decision of `connect_inner` under the lock, once no live connection was
found: fail within the backoff window, join the attempt in flight, or lead. -/
def decide (state : State) (caller : Nat) : State :=
  match state.backoffFailure with
  | some failure => state.unlock caller (.returned (.error failure true))
  | none =>
      if state.reconnect.inFlight then
        match state.reconnect.done with
        | some done => state.join caller done
        | none => state.unlock caller (.returned .panicked)
      else
        state.lead caller

/-- The failure path of `lead_reconnect` under the lock. -/
def publishFailure (state : State) (caller : Nat) (done : Nat) (error : String) : State :=
  let failure : Failure := ⟨error, state.failures⟩
  let recorded : ReconnectState :=
    if state.reconnect.recordFailure then
      { state.reconnect with
        lastFailure := some (state.now, failure)
        attempts := saturatingSucc state.reconnect.attempts }
    else
      state.reconnect
  { state.unlock caller (.signalling done (.error failure false)) with
    reconnect := { recorded with inFlight := false, done := none }
    failures := state.failures + 1 }

/-- The success path once the connection is visible. -/
def publishSuccess (state : State) (caller : Nat) (done conn : Nat) : State :=
  { state.unlock caller (.signalling done (.ok conn)) with reconnect := .default }

/-- `ReconnectGuard::drop` of a leader that did not publish. -/
def dropGuard (state : State) (caller : Nat) : State :=
  if state.lock.tryLock then
    { state.setPc caller .dropped with
      reconnect := { state.reconnect with inFlight := false, done := none }
      notify :=
        match state.reconnect.done with
        | some done => state.notify.notifyWaiters done
        | none => state.notify }
  else
    state.setPc caller .dropped

/-- The call owns the lock and runs on from one of the places that lock it. -/
def enter (state : State) (caller : Nat) : Site → State
  | .loopTop =>
      match state.liveConnection with
      | some conn => state.unlock caller (.returned (.ok conn))
      | none => state.setPc caller .deciding
  | .preWait wait =>
      if state.reconnect.inFlight then state.unlock caller (.waiting wait)
      else state.setPc caller (.preWaitLive wait)
  | .postWake => state.failOrRetry caller
  | .failed done error => state.publishFailure caller done error
  | .connected done conn =>
      { state.setPc caller (.publishing done conn) with connection := some conn }

/-- The next piece of code of a call, when it can run. -/
def advance (state : State) (caller : Nat) : Option State :=
  match (state.callers caller).pc with
  | .entering =>
      match state.liveConnection with
      | some conn => some (state.setPc caller (.returned (.ok conn)))
      | none => some (state.setPc caller (.asking .loopTop))
  | .asking site =>
      some { state.setPc caller (.locking site) with lock := state.lock.lock caller }
  | .locking site =>
      if state.lock.holder = some caller then some (state.enter caller site) else none
  | .deciding => some (state.decide caller)
  | .joined wait =>
      match state.liveConnection with
      | some conn => some (state.setPc caller (.returned (.ok conn)))
      | none => some (state.setPc caller (.asking (.preWait wait)))
  | .preWaitLive _ =>
      match state.liveConnection with
      | some conn => some (state.unlock caller (.returned (.ok conn)))
      | none => some (state.failOrRetry caller)
  | .waiting wait => if state.notify.Woken wait then some (state.setPc caller .woken) else none
  | .woken =>
      match state.liveConnection with
      | some conn => some (state.setPc caller (.returned (.ok conn)))
      | none => some (state.setPc caller (.asking .postWake))
  | .clearing done => some { state.setPc caller (.clearingAuth done) with connection := none }
  | .clearingAuth done => some { state.setPc caller (.dialing done) with authUniStream := none }
  | .storingAuth done conn =>
      some { state.setPc caller (.asking (.connected done conn)) with authUniStream := some conn }
  | .publishing done conn => some (state.publishSuccess caller done conn)
  | .signalling done result =>
      some { state.setPc caller (.returned result) with notify := state.notify.notifyWaiters done }
  | .dropping _ => some (state.dropGuard caller)
  | .idle | .dialing _ | .returned _ | .dropped => none

/-- The call awaits and can be dropped here. -/
def awaits : Pc → Bool
  | .entering | .locking _ | .joined _ | .preWaitLive _ | .waiting _ | .woken
  | .clearing _ | .clearingAuth _ | .dialing _ | .storingAuth _ _ => true
  | _ => false

end State

inductive Action where
  | tick (elapsed : Duration)
  | close (conn : Nat)
  | begin (caller : Nat) (record : Bool)
  | run (caller : Nat)
  | dial (caller : Nat) (result : Except String Nat)
  | cancel (caller : Nat)

/-- One action. Dialing ends with any connection or any error; dropping a call
gives up its permit or its place in the queue, and a leader then still has to
run its guard. -/
def step (state : State) : Action → Option State
  | .tick elapsed => some { state with now := state.now + elapsed }
  | .close conn => some { state with closed := Function.update state.closed conn true }
  | .begin caller record =>
      match (state.callers caller).pc with
      | .idle =>
          let started : Caller := ⟨record, state.failures, .entering⟩
          some { state with callers := Function.update state.callers caller started }
      | _ => none
  | .run caller => state.advance caller
  | .dial caller result =>
      match (state.callers caller).pc, result with
      | .dialing done, .ok conn => some (state.setPc caller (.storingAuth done conn))
      | .dialing done, .error error => some (state.setPc caller (.asking (.failed done error)))
      | _, _ => none
  | .cancel caller =>
      let pc := (state.callers caller).pc
      if State.awaits pc then
        let left := match pc.leads with
          | some done => Pc.dropping done
          | none => Pc.dropped
        some { state.setPc caller left with lock := state.lock.abandon caller }
      else
        none

/-- A `connect` call takes the lead and starts to dial. -/
def leadSchedule (caller : Nat) : List Action :=
  .begin caller true :: List.replicate 6 (.run caller)

end Juicity.Client.Reconnect
