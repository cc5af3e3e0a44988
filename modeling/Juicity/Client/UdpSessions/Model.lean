import Juicity.Common.Consts
import Juicity.Machine.Run
import Juicity.Machine.Table
import Mathlib.Data.Finset.Basic

/-!
Owns the model of the two UDP relays of the client: the UDP ASSOCIATE part of
`client/src/local.rs` with `spawn_udp_assoc_session`, and `start_udp_forward`
with `spawn_udp_forward_session` in `client/src/forwarder.rs`. Both run a
receive loop, a cleanup task, and for each stream an opening task, a writer, a
reader and a supervisor over the maps `sessions` and `opening`. One action is
what a task does to one map under one shard lock, or one resumption of it.
Datagrams that the receive loop rejects before the session lookup do not occur.
-/

namespace Juicity.Client.UdpSessions

open Juicity.Common
open Juicity.Machine

universe u v

/-- The relay of `local.rs` and the one of `forwarder.rs`. -/
inductive Relay where
  | associate
  | forward
deriving DecidableEq

/-- The relay, and how the session map is cut into shards. -/
structure Setting (Source : Type u) where
  relay : Relay
  shards : Nat
  shardOf : Source → Nat

/-- `UdpSessionEntry`, `UdpSession`. The sender `tx` is named by the task that
made the channel. -/
structure UdpSessionEntry where
  id : UInt64
  lastUsedMs : Nat
  tx : Nat
deriving DecidableEq

/-- The task that opens the stream; it holds the opening marker until its
guard is dropped. -/
inductive Opener where
  | connecting
  | connected
  | inserted
  | releasing
  | done
deriving DecidableEq

/-- The writer owns the receiver of the channel and the send half of the
stream; before it is spawned the tasks before it own them. -/
inductive Writer (Datagram : Type v) where
  | unspawned
  | receiving
  | sending (datagram : Datagram)
  | ended
deriving DecidableEq

inductive Reader where
  | unspawned
  | running
  | ended
deriving DecidableEq

inductive Supervisor where
  | unspawned
  | starting
  | watching
  | joiningReader
  | joiningWriter
  | checking
  | removing
  | done
deriving DecidableEq

/-- One stream with the tasks that serve it and its channel; `open_udp_stream`
sends the first datagram. -/
structure Stream (Source : Type u) (Datagram : Type v) where
  source : Source
  first : Datagram
  id : UInt64
  opener : Opener
  queue : List Datagram
  writer : Writer Datagram
  writerAborted : Bool
  reader : Reader
  readerAborted : Bool
  supervisor : Supervisor

/-- Where the receive loop stands between two of its accesses to a map. -/
inductive Loop (Source : Type u) (Datagram : Type v) where
  | receiving
  | checking (source : Source) (datagram : Datagram) (id : UInt64)
  | removing (source : Source) (datagram : Datagram)
  | claiming (source : Source) (datagram : Datagram)
  | clearing (shard : Nat)
  | stopped
deriving DecidableEq

/-- The maps, the counter, and all tasks. `sweep` is the `retain` of the
cleanup task: the time it read and the shard that comes next. -/
structure State (Source : Type u) (Datagram : Type v) where
  sessions : Table Source UdpSessionEntry
  opening : Finset Source
  sessionSeq : UInt64
  loop : Loop Source Datagram
  sweep : Option (Nat × Nat)
  controlClosed : Bool
  cancelled : Bool
  spawned : Nat
  streams : Nat → Option (Stream Source Datagram)

def initial {Source : Type u} {Datagram : Type v} : State Source Datagram where
  sessions := ∅
  opening := ∅
  sessionSeq := 1
  loop := .receiving
  sweep := none
  controlClosed := false
  cancelled := false
  spawned := 0
  streams := fun _ => none

/-- Capacity of the channel to a writer. -/
def channelCapacity : Nat := 256

variable {Source : Type u} {Datagram : Type v}

/-- The receiver of the channel exists: the stream is being opened, or is open
and its writer has not ended. -/
def Stream.live (stream : Stream Source Datagram) : Bool :=
  match stream.writer with
  | .ended => false
  | _ => true

/-- The opening task has not inserted the session yet. -/
def Opener.early : Opener → Bool
  | .connecting | .connected => true
  | _ => false

/-- The opening task has not spawned the other tasks yet. -/
def Opener.opens : Opener → Bool
  | .connecting | .connected | .inserted => true
  | _ => false

/-- The opening task holds the marker. -/
def Opener.holds : Opener → Bool
  | .done => false
  | _ => true

namespace State

def setStream (state : State Source Datagram) (task : Nat) (stream : Stream Source Datagram) :
    State Source Datagram :=
  { state with streams := Function.update state.streams task (some stream) }

/-- `tx.is_closed()`. -/
def isClosed (state : State Source Datagram) (tx : Nat) : Bool :=
  (state.streams tx).all fun stream => !stream.live

variable [DecidableEq Source]

/-- The sender of the channel is still in the session map. -/
def sends (state : State Source Datagram) (task : Nat) (stream : Stream Source Datagram) : Bool :=
  (state.sessions.lookup stream.source).any fun entry => entry.tx == task

/-- `try_send` into an open channel. -/
def trySend (state : State Source Datagram) (tx : Nat) (datagram : Datagram) :
    State Source Datagram :=
  match state.streams tx with
  | some stream =>
      if stream.queue.length < channelCapacity then
        state.setStream tx { stream with queue := stream.queue ++ [datagram] }
      else state
  | none => state

/-- `sessions.get(&src)`, `touch` and `try_send` under the read lock of the shard. -/
def receive (state : State Source Datagram) (source : Source) (datagram : Datagram)
    (now : Nat) : State Source Datagram :=
  match state.sessions.lookup source with
  | some entry =>
      let touched := { state with
        sessions := state.sessions.insert source { entry with lastUsedMs := now } }
      if state.isClosed entry.tx then
        { touched with loop := .checking source datagram entry.id }
      else
        touched.trySend entry.tx datagram
  | none => { state with loop := .claiming source datagram }

/-- The entry of the source is still the session with this identifier. -/
def sessionMatches (state : State Source Datagram) (source : Source) (id : UInt64) : Bool :=
  (state.sessions.lookup source).any fun entry => entry.id == id

/-- `opening.insert(src, ())`, and the opening task if the marker was free. -/
def claim (state : State Source Datagram) (source : Source) (datagram : Datagram) :
    State Source Datagram :=
  if source ∈ state.opening then
    { state with loop := .receiving }
  else
    { state with
      opening := insert source state.opening
      sessionSeq := state.sessionSeq + 1
      loop := .receiving
      spawned := state.spawned + 1
      streams := Function.update state.streams state.spawned (some {
        source := source
        first := datagram
        id := state.sessionSeq
        opener := .connecting
        queue := []
        writer := .unspawned
        writerAborted := false
        reader := .unspawned
        readerAborted := false
        supervisor := .unspawned }) }

/-- `sessions.insert` of the opening task. -/
def insertSession (state : State Source Datagram) (task : Nat)
    (stream : Stream Source Datagram) (now : Nat) : State Source Datagram :=
  { state with
    sessions := state.sessions.insert stream.source ⟨stream.id, now, task⟩
    streams := Function.update state.streams task (some { stream with opener := .inserted }) }

/-- `OpeningGuard::drop`. -/
def dropGuard (state : State Source Datagram) (task : Nat) (stream : Stream Source Datagram) :
    State Source Datagram :=
  { state with
    opening := state.opening.erase stream.source
    streams := Function.update state.streams task (some { stream with opener := .done }) }

/-- The cleanup keeps an entry whose channel is open and which was used lately. -/
def keeps (state : State Source Datagram) (now : Nat) (entry : UdpSessionEntry) : Bool :=
  !state.isClosed entry.tx &&
    decide (now - entry.lastUsedMs ≤ Consts.clientUdpSessionIdleTimeout.asMillis)

/-- `retain` on one shard. -/
def retainShard (state : State Source Datagram) (setting : Setting Source) (shard : Nat)
    (keep : UdpSessionEntry → Bool) : Table Source UdpSessionEntry :=
  Table.retain (fun source entry => setting.shardOf source != shard || keep entry) state.sessions

/-- The cleanup task has not been stopped. -/
def cleans (state : State Source Datagram) (setting : Setting Source) : Bool :=
  match setting.relay, state.loop with
  | .associate, _ => !state.controlClosed
  | .forward, .stopped => false
  | .forward, _ => true

end State

/-- What the tasks of one stream do. -/
inductive Move where
  | connect (ok : Bool)
  | insertSession (now : Nat)
  | spawnTasks
  | dropGuard
  | launch
  | takeItem
  | sent (ok : Bool)
  | writerIdle
  | writerAborted
  | readerEnded
  | readerAborted
  | writerJoined
  | readerJoined
  | superviseCancel
  | join
  | checkSession
  | removeSession
deriving DecidableEq

inductive Action (Source : Type u) (Datagram : Type v) where
  | receive (source : Source) (datagram : Datagram) (now : Nat)
  | checkClosed
  | removeClosed
  | claim
  | receiveError
  | natTimeout
  | closeControl
  | controlClosed
  | clearShard
  | startSweep (now : Nat)
  | sweepShard
  | stream (task : Nat) (move : Move)
deriving DecidableEq

variable [DecidableEq Source]

/-- One move of the tasks of a stream. An aborted task stops at a point where it
waits; every wait of the writer and the reader may end with an error. -/
def State.move (setting : Setting Source) (state : State Source Datagram) (task : Nat)
    (stream : Stream Source Datagram) : Move → Option (State Source Datagram)
  | .connect ok =>
      if stream.opener = .connecting then
        some (state.setStream task (if ok then { stream with opener := .connected }
          else { stream with opener := .releasing, writer := .ended }))
      else none
  | .insertSession now =>
      if stream.opener = .connected then
        some (state.insertSession task stream now)
      else none
  | .spawnTasks =>
      if stream.opener = .inserted then
        match setting.relay with
        | .associate => some (state.setStream task
            { stream with opener := .releasing, supervisor := .starting })
        | .forward => some (state.setStream task { stream with
            opener := .releasing
            writer := .receiving
            reader := .running
            supervisor := .watching })
      else none
  | .dropGuard =>
      if stream.opener = .releasing then
        some (state.dropGuard task stream)
      else none
  | .launch =>
      if stream.supervisor = .starting then
        some (state.setStream task { stream with
          writer := .receiving
          reader := .running
          supervisor := .watching })
      else none
  | .takeItem =>
      match stream.writer, stream.queue with
      | .receiving, datagram :: rest =>
          some (state.setStream task { stream with writer := .sending datagram, queue := rest })
      | .receiving, [] =>
          if state.sends task stream then none
          else some (state.setStream task { stream with writer := .ended })
      | _, _ => none
  | .sent ok =>
      match stream.writer with
      | .sending _ =>
          some (state.setStream task { stream with writer := if ok then .receiving else .ended })
      | _ => none
  | .writerIdle =>
      match stream.writer with
      | .receiving => some (state.setStream task { stream with writer := .ended })
      | _ => none
  | .writerAborted =>
      match stream.writer, stream.writerAborted with
      | .receiving, true | .sending _, true =>
          some (state.setStream task { stream with writer := .ended })
      | _, _ => none
  | .readerEnded =>
      if stream.reader = .running then
        some (state.setStream task { stream with reader := .ended })
      else none
  | .readerAborted =>
      if stream.reader = .running ∧ stream.readerAborted = true then
        some (state.setStream task { stream with reader := .ended })
      else none
  | .writerJoined =>
      if stream.supervisor = .watching ∧ stream.live = false then
        some (state.setStream task
          { stream with readerAborted := true, supervisor := .joiningReader })
      else none
  | .readerJoined =>
      if stream.supervisor = .watching ∧ stream.reader = .ended then
        some (state.setStream task
          { stream with writerAborted := true, supervisor := .joiningWriter })
      else none
  | .superviseCancel =>
      if stream.supervisor = .watching ∧ state.cancelled = true then
        some (state.setStream task { stream with
          writerAborted := true
          readerAborted := true
          supervisor := .checking })
      else none
  | .join =>
      match stream.supervisor with
      | .joiningReader =>
          if stream.reader = .ended then
            some (state.setStream task { stream with supervisor := .checking })
          else none
      | .joiningWriter =>
          if stream.live = false then
            some (state.setStream task { stream with supervisor := .checking })
          else none
      | _ => none
  | .checkSession =>
      if stream.supervisor = .checking then
        some (state.setStream task { stream with
          supervisor :=
            if state.sessionMatches stream.source stream.id then .removing else .done })
      else none
  | .removeSession =>
      if stream.supervisor = .removing then
        some { state.setStream task { stream with supervisor := .done } with
          sessions := state.sessions.erase stream.source }
      else none

/-- One action. -/
def step (setting : Setting Source) (state : State Source Datagram) :
    Action Source Datagram → Option (State Source Datagram)
  | .receive source datagram now =>
      match state.loop with
      | .receiving => some (state.receive source datagram now)
      | _ => none
  | .checkClosed =>
      match state.loop with
      | .checking source datagram id => some { state with
          loop := if state.sessionMatches source id then .removing source datagram
            else .claiming source datagram }
      | _ => none
  | .removeClosed =>
      match state.loop with
      | .removing source datagram => some { state with
          sessions := state.sessions.erase source
          loop := .claiming source datagram }
      | _ => none
  | .claim =>
      match state.loop with
      | .claiming source datagram => some (state.claim source datagram)
      | _ => none
  | .receiveError =>
      match state.loop with
      | .receiving => some { state with loop := .stopped, cancelled := true }
      | _ => none
  | .natTimeout =>
      match setting.relay, state.loop with
      | .associate, .receiving => some { state with loop := .clearing 0 }
      | _, _ => none
  | .closeControl =>
      match setting.relay with
      | .associate => some { state with controlClosed := true }
      | .forward => none
  | .controlClosed =>
      match state.controlClosed, state.loop with
      | true, .receiving => some { state with loop := .clearing 0 }
      | _, _ => none
  | .clearShard =>
      match state.loop with
      | .clearing shard =>
          if shard < setting.shards then
            some { state with
              sessions := state.retainShard setting shard fun _ => false
              loop := .clearing (shard + 1) }
          else
            some { state with loop := .stopped, cancelled := true }
      | _ => none
  | .startSweep now =>
      match state.sweep, state.cleans setting with
      | none, true => some { state with sweep := some (now, 0) }
      | _, _ => none
  | .sweepShard =>
      match state.sweep with
      | some (now, shard) =>
          if shard < setting.shards then
            some { state with
              sessions := state.retainShard setting shard (state.keeps now)
              sweep := some (now, shard + 1) }
          else
            some { state with sweep := none }
      | none => none
  | .stream task move =>
      match state.streams task with
      | some stream => state.move setting task stream move
      | none => none

end Juicity.Client.UdpSessions
