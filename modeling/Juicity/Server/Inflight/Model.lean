import Juicity.Common.Consts
import Juicity.Common.Protocol
import Juicity.Machine.Notify
import Juicity.Machine.Run
import Juicity.Machine.Table

/-!
Owns the model of `server/src/inflight.rs`: the two maps behind the table mutex,
`store`, `cleanup` and the critical sections of `evict`, and the interleavings
of any number of calls. One action is one critical section, one run of the
`authenticate` callback outside the lock, or one resumption of a suspended
call. `store` and `cleanup` read the clock before they take the lock, so the
instant they use may be older than the lock acquisition.
-/

namespace Juicity.Server.Inflight

open Juicity.Common
open Juicity.Machine

/-- In-flight key type (32 bytes salt). -/
abbrev InFlightKey := Octets 32

/-- The maps under the table mutex. A waiter is a `Notify` object and the
instant it was registered. -/
structure InFlightState where
  auth : Table InFlightKey (UnderlayAuth × Instant)
  waiting : Table InFlightKey (Nat × Instant)

/-- The durations given to `InFlightUnderlayKey::new`. -/
structure Timing where
  ttl : Duration
  evictTimeout : Duration

/-- Outcome of a finished `evict` call; only `verified` is `Some`. -/
inductive EvictOutcome where
  | verified (auth : UnderlayAuth)
  | rejected
  | lost
  | tableFull
  | timedOut
deriving DecidableEq

/-- Where an `evict` call stands. -/
inductive EvictPc where
  | idle
  | claiming
  | authenticating (auth : UnderlayAuth) (insertedAt : Instant)
  | consuming (auth : UnderlayAuth) (insertedAt : Instant)
  | registering
  | suspended (wait : Notified)
  | returned (outcome : EvictOutcome)
  | dropped
deriving DecidableEq

structure EvictCall where
  key : InFlightKey
  deadline : Instant
  pc : EvictPc

structure State where
  now : Instant
  map : InFlightState
  notify : Registry
  calls : Nat → EvictCall

def initial : State where
  now := 0
  map := ⟨∅, ∅⟩
  notify := .empty
  calls := fun _ => ⟨.replicate 32 0, 0, .idle⟩

/-! ## Critical sections -/

/-- `now.duration_since(inserted_at) <= limit`. -/
def young (now : Instant) (limit : Duration) (insertedAt : Instant) : Bool :=
  decide (Instant.durationSince now insertedAt ≤ limit)

def retainAuth (timing : Timing) (now : Instant)
    (auth : Table InFlightKey (UnderlayAuth × Instant)) :
    Table InFlightKey (UnderlayAuth × Instant) :=
  Table.retain (fun _ entry => young now timing.ttl entry.2) auth

def retainWaiting (timing : Timing) (now : Instant) (waiting : Table InFlightKey (Nat × Instant)) :
    Table InFlightKey (Nat × Instant) :=
  Table.retain (fun _ entry => young now timing.evictTimeout entry.2) waiting

/-- The waiters `retainWaiting` removes, each of which is notified. -/
def expiredWaiters (timing : Timing) (now : Instant)
    (waiting : Table InFlightKey (Nat × Instant)) : List Nat :=
  (Table.dropped (fun _ entry => young now timing.evictTimeout entry.2) waiting).map Prod.fst

/-- The auth map `store` inserts into: expired entries go when a new key meets
a full map. -/
def reclaimAuth (timing : Timing) (now : Instant) (key : InFlightKey) (map : InFlightState) :
    Table InFlightKey (UnderlayAuth × Instant) :=
  if key ∉ map.auth ∧ Consts.maxInFlightUnderlayEntries ≤ Table.size map.auth then
    retainAuth timing now map.auth
  else
    map.auth

/-- The map stays full after the reclaim, so `store` drops the new entry. -/
def storeDrops (timing : Timing) (now : Instant) (key : InFlightKey) (map : InFlightState) :
    Prop :=
  key ∉ map.auth ∧ Consts.maxInFlightUnderlayEntries ≤ Table.size map.auth ∧
    Consts.maxInFlightUnderlayEntries ≤ Table.size (reclaimAuth timing now key map)

instance (timing : Timing) (now : Instant) (key : InFlightKey) (map : InFlightState) :
    Decidable (storeDrops timing now key map) := by
  unfold storeDrops
  infer_instance

/-- `InFlightUnderlayKey::store` under the lock. -/
def store (timing : Timing) (now : Instant) (key : InFlightKey) (auth : UnderlayAuth)
    (map : InFlightState) (notify : Registry) : InFlightState × Registry :=
  let auths := reclaimAuth timing now key map
  if storeDrops timing now key map then
    ({ map with auth := auths }, notify)
  else
    match map.waiting.lookup key with
    | some (waiter, _) =>
        (⟨auths.insert key (auth, now), map.waiting.erase key⟩, notify.notifyWaiters waiter)
    | none => (⟨auths.insert key (auth, now), map.waiting⟩, notify)

/-- `InFlightUnderlayKey::cleanup` under the lock. -/
def cleanup (timing : Timing) (now : Instant) (map : InFlightState) (notify : Registry) :
    InFlightState × Registry :=
  (⟨retainAuth timing now map.auth, retainWaiting timing now map.waiting⟩,
    notify.notifyAll (expiredWaiters timing now map.waiting))

/-- First critical section of the `evict` loop: clone the entry, if there is one. -/
def claim (key : InFlightKey) (map : InFlightState) : EvictPc :=
  match map.auth.lookup key with
  | some (auth, insertedAt) => .authenticating auth insertedAt
  | none => .registering

/-- Second critical section after an accepted callback: remove the entry if it
is still the one that was cloned. -/
def consume (key : InFlightKey) (auth : UnderlayAuth) (insertedAt : Instant)
    (map : InFlightState) : InFlightState × EvictPc :=
  match map.auth.lookup key with
  | some (_, storedAt) =>
      if storedAt = insertedAt then
        ({ map with auth := map.auth.erase key }, .returned (.verified auth))
      else
        (map, .returned .lost)
  | none => (map, .returned .lost)

/-- `waiting.entry(key).or_insert_with(..)` and `notified_owned()`. -/
def subscribe (now : Instant) (key : InFlightKey) (map : InFlightState) (notify : Registry) :
    InFlightState × Registry × EvictPc :=
  match map.waiting.lookup key with
  | some (waiter, _) => (map, notify, .suspended (notify.notified waiter))
  | none =>
      let waiter := notify.fresh
      ({ map with waiting := map.waiting.insert key (waiter, now) }, notify.alloc,
        .suspended (notify.alloc.notified waiter))

/-- Critical section that registers a waiter, reclaiming expired ones when a
new key meets a full map. -/
def register (timing : Timing) (now : Instant) (key : InFlightKey) (map : InFlightState)
    (notify : Registry) : InFlightState × Registry × EvictPc :=
  if key ∈ map.auth then
    (map, notify, .claiming)
  else if key ∉ map.waiting ∧ Consts.maxInFlightUnderlayEntries ≤ Table.size map.waiting then
    let reclaimed := { map with waiting := retainWaiting timing now map.waiting }
    let notified := notify.notifyAll (expiredWaiters timing now map.waiting)
    if Consts.maxInFlightUnderlayEntries ≤ Table.size reclaimed.waiting then
      (reclaimed, notified, .returned .tableFull)
    else
      subscribe now key reclaimed notified
  else
    subscribe now key map notify

/-! ## Interleavings -/

inductive Action where
  | tick (elapsed : Duration)
  | store (readAt : Instant) (key : InFlightKey) (auth : UnderlayAuth)
  | cleanup (readAt : Instant)
  | evict (call : Nat) (key : InFlightKey)
  | claim (call : Nat)
  | authenticate (call : Nat) (accepts : Bool)
  | consume (call : Nat)
  | register (call : Nat)
  | wake (call : Nat)
  | timeout (call : Nat)
  | drop (call : Nat)
deriving DecidableEq

def State.setPc (state : State) (call : Nat) (pc : EvictPc) : State :=
  { state with calls := Function.update state.calls call { state.calls call with pc := pc } }

/-- One action. A suspended call resumes when it was notified; it times out
only at its deadline and only while it was not notified, because the timeout
polls the notification first. -/
def step (timing : Timing) (state : State) : Action → Option State
  | .tick elapsed => some { state with now := state.now + elapsed }
  | .store readAt key auth =>
      if readAt ≤ state.now then
        let result := store timing readAt key auth state.map state.notify
        some { state with map := result.1, notify := result.2 }
      else none
  | .cleanup readAt =>
      if readAt ≤ state.now then
        let result := cleanup timing readAt state.map state.notify
        some { state with map := result.1, notify := result.2 }
      else none
  | .evict call key =>
      match (state.calls call).pc with
      | .idle => some { state with
          calls := Function.update state.calls call
            ⟨key, state.now + timing.evictTimeout, .claiming⟩ }
      | _ => none
  | .claim call =>
      match (state.calls call).pc with
      | .claiming => some (state.setPc call (claim (state.calls call).key state.map))
      | _ => none
  | .authenticate call accepts =>
      match (state.calls call).pc with
      | .authenticating auth insertedAt =>
          some (state.setPc call
            (if accepts then .consuming auth insertedAt else .returned .rejected))
      | _ => none
  | .consume call =>
      match (state.calls call).pc with
      | .consuming auth insertedAt =>
          let result := consume (state.calls call).key auth insertedAt state.map
          some ({ state with map := result.1 }.setPc call result.2)
      | _ => none
  | .register call =>
      match (state.calls call).pc with
      | .registering =>
          let result := register timing state.now (state.calls call).key state.map state.notify
          some ({ state with map := result.1, notify := result.2.1 }.setPc call result.2.2)
      | _ => none
  | .wake call =>
      match (state.calls call).pc with
      | .suspended wait =>
          if state.notify.Woken wait then some (state.setPc call .claiming) else none
      | _ => none
  | .timeout call =>
      match (state.calls call).pc with
      | .suspended wait =>
          if ¬ state.notify.Woken wait ∧ (state.calls call).deadline ≤ state.now then
            some (state.setPc call (.returned .timedOut))
          else none
      | _ => none
  | .drop call =>
      match (state.calls call).pc with
      | .suspended _ => some (state.setPc call .dropped)
      | _ => none

/-- What each action does and when it is enabled: the relational reading of
`step`, which every proof about a step starts from. -/
inductive Took (timing : Timing) (state : State) : Action → State → Prop where
  | tick (elapsed : Duration) :
      Took timing state (.tick elapsed) { state with now := state.now + elapsed }
  | store {readAt : Instant} {key : InFlightKey} {auth : UnderlayAuth}
      (past : readAt ≤ state.now) :
      Took timing state (.store readAt key auth)
        { state with
          map := (store timing readAt key auth state.map state.notify).1
          notify := (store timing readAt key auth state.map state.notify).2 }
  | cleanup {readAt : Instant} (past : readAt ≤ state.now) :
      Took timing state (.cleanup readAt)
        { state with
          map := (cleanup timing readAt state.map state.notify).1
          notify := (cleanup timing readAt state.map state.notify).2 }
  | evict {call : Nat} {key : InFlightKey} (idle : (state.calls call).pc = .idle) :
      Took timing state (.evict call key)
        { state with
          calls := Function.update state.calls call
            ⟨key, state.now + timing.evictTimeout, .claiming⟩ }
  | claim {call : Nat} (claiming : (state.calls call).pc = .claiming) :
      Took timing state (.claim call)
        (state.setPc call (claim (state.calls call).key state.map))
  | authenticate {call : Nat} {accepts : Bool} {auth : UnderlayAuth} {insertedAt : Instant}
      (authenticating : (state.calls call).pc = .authenticating auth insertedAt) :
      Took timing state (.authenticate call accepts)
        (state.setPc call (if accepts then .consuming auth insertedAt else .returned .rejected))
  | consume {call : Nat} {auth : UnderlayAuth} {insertedAt : Instant}
      (consuming : (state.calls call).pc = .consuming auth insertedAt) :
      Took timing state (.consume call)
        ({ state with map := (consume (state.calls call).key auth insertedAt state.map).1 }.setPc
          call (consume (state.calls call).key auth insertedAt state.map).2)
  | register {call : Nat} (registering : (state.calls call).pc = .registering) :
      Took timing state (.register call)
        ({ state with
          map := (register timing state.now (state.calls call).key state.map state.notify).1
          notify :=
            (register timing state.now (state.calls call).key state.map state.notify).2.1 }.setPc
          call (register timing state.now (state.calls call).key state.map state.notify).2.2)
  | wake {call : Nat} {wait : Notified} (suspended : (state.calls call).pc = .suspended wait)
      (woken : state.notify.Woken wait) :
      Took timing state (.wake call) (state.setPc call .claiming)
  | timeout {call : Nat} {wait : Notified} (suspended : (state.calls call).pc = .suspended wait)
      (unnotified : ¬ state.notify.Woken wait) (late : (state.calls call).deadline ≤ state.now) :
      Took timing state (.timeout call) (state.setPc call (.returned .timedOut))
  | drop {call : Nat} {wait : Notified} (suspended : (state.calls call).pc = .suspended wait) :
      Took timing state (.drop call) (state.setPc call .dropped)

theorem took_of_step {timing : Timing} {state after : State} {action : Action}
    (taken : step timing state action = some after) : Took timing state action after := by
  cases action with
  | tick elapsed =>
      obtain rfl := Option.some.inj taken
      exact .tick elapsed
  | store readAt key auth =>
      simp only [step] at taken
      split at taken
      · obtain rfl := Option.some.inj taken
        exact .store ‹_›
      · cases taken
  | cleanup readAt =>
      simp only [step] at taken
      split at taken
      · obtain rfl := Option.some.inj taken
        exact .cleanup ‹_›
      · cases taken
  | evict call key | claim call | authenticate call accepts | consume call | register call
  | drop call =>
      simp only [step] at taken
      split at taken
      · obtain rfl := Option.some.inj taken
        constructor
        assumption
      · cases taken
  | wake call =>
      simp only [step] at taken
      split at taken
      · split at taken
        · obtain rfl := Option.some.inj taken
          exact .wake ‹_› ‹_›
        · cases taken
      · cases taken
  | timeout call =>
      simp only [step] at taken
      split at taken
      · split at taken
        · rename_i suspended conditions
          obtain rfl := Option.some.inj taken
          exact .timeout suspended conditions.1 conditions.2
        · cases taken
      · cases taken

end Juicity.Server.Inflight
