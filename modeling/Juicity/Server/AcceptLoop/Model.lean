import Juicity.Machine.Gate
import Juicity.Server.Shutdown

/-!
Owns the accept workers of `serve_with_shutdown` in `server/src/server.rs`, with
the places where a worker waits: the `select!` between the broadcast and the
endpoint, the permit of `conn_limit`, and the `JoinSet` it drains. A connection is
named by its number at its endpoint. A worker that is cancelled drops its
`JoinSet`: the handlers that run are told to abort and go when they next wait.

`Juicity.Server.Shutdown` looks at the time the handlers are given and leaves the
permits out.
-/

namespace Juicity.Server.AcceptLoop

open Juicity.Common
open Juicity.Machine
open Juicity.Server.Shutdown (acceptStopTimeout connectionDrainTimeout stopPollInterval)

def maxConcurrentConnectionHandlers : Nat := 1024

/-- Where a worker is. -/
inductive Phase where
  /-- The top of the loop, where the handlers that ended are joined. -/
  | top
  | selecting
  /-- A connection was accepted, and there is no permit for it yet. -/
  | acquiring (conn : Nat)
  | draining (deadline : Instant)
  /-- `abort_all` was called. -/
  | aborting
  | finished
  /-- Aborted by its guard; the connection it held is dropped. -/
  | cancelled (held : Option Nat)
deriving DecidableEq

def Phase.over : Phase → Bool
  | .finished | .cancelled _ => true
  | _ => false

/-- The connection that was accepted and has no handler. -/
def Phase.inHand : Phase → List Nat
  | .acquiring conn => [conn]
  | .cancelled held => held.toList
  | _ => []

/-- A worker with its endpoint. `started` and `cut` log the connections handlers were spawned for
and the handlers that were told to abort. -/
structure Worker where
  phase : Phase
  gate : Gate Nat
  /-- The handlers in the `JoinSet` that ended and were not joined. -/
  unjoined : List Nat
  queue : List Nat
  arrived : Nat
  /-- When the endpoint lost its driver. -/
  lost : Option Instant
  started : List Nat
  cut : List Nat
deriving DecidableEq

def Worker.initial : Worker where
  phase := .top
  gate := .full maxConcurrentConnectionHandlers
  unjoined := []
  queue := []
  arrived := 0
  lost := none
  started := []
  cut := []

inductive WorkerAction where
  /-- A connection reaches the endpoint. -/
  | arrive
  /-- The endpoint loses its driver and hands out no connection any more. -/
  | lose
  /-- A handler ends, by itself or because it was told to abort. -/
  | leave (conn : Nat)
  /-- `try_join_next` until there is none. -/
  | reap
  | hear
  | accept
  | acceptNone
  | acquire
  /-- `join_next` returns. -/
  | join
  /-- The `JoinSet` is empty. -/
  | emptied
  | drainTimeout
  | cancelled
deriving DecidableEq

namespace Worker

/-- No task is left in the `JoinSet`. -/
def empty (worker : Worker) : Bool := worker.gate.live.isEmpty && worker.unjoined.isEmpty

/-- A step of a worker, its endpoint or one of its handlers; `signalled` and `dropped` say what
`serve_with_shutdown` has done. -/
def step (now : Instant) (signalled dropped : Bool) (worker : Worker) :
    WorkerAction → Option Worker
  | .arrive =>
      if worker.phase.over = false ∧ worker.lost = none then
        some { worker with
          queue := worker.queue ++ [worker.arrived], arrived := worker.arrived + 1 }
      else none
  | .lose => if worker.lost = none then some { worker with lost := some now } else none
  | .leave conn =>
      (worker.gate.leave conn).map fun gate =>
        { worker with
          gate
          unjoined := if worker.phase.over then worker.unjoined else worker.unjoined ++ [conn] }
  | .reap =>
      if worker.phase = .top then some { worker with phase := .selecting, unjoined := [] } else none
  | .hear =>
      if worker.phase = .selecting ∧ signalled then
        some { worker with phase := .draining (now + connectionDrainTimeout) }
      else none
  | .accept =>
      match worker.queue with
      | conn :: queue =>
          if worker.phase = .selecting ∧ worker.lost = none then
            some { worker with phase := .acquiring conn, queue }
          else none
      | [] => none
  | .acceptNone =>
      if worker.phase = .selecting ∧ worker.lost ≠ none then
        some { worker with phase := .draining (now + connectionDrainTimeout) }
      else none
  | .acquire =>
      match worker.phase with
      | .acquiring conn =>
          worker.gate.acquire.map fun gate =>
            { worker with
              phase := .top, gate := gate.give conn, started := worker.started ++ [conn] }
      | _ => none
  | .join =>
      match worker.phase, worker.unjoined with
      | .draining _, _ :: unjoined | .aborting, _ :: unjoined => some { worker with unjoined }
      | _, _ => none
  | .emptied =>
      match worker.phase with
      | .draining _ | .aborting =>
          if worker.empty then some { worker with phase := .finished } else none
      | _ => none
  | .drainTimeout =>
      match worker.phase with
      | .draining deadline =>
          if deadline ≤ now ∧ worker.empty = false then
            some { worker with phase := .aborting, cut := worker.gate.live }
          else none
      | _ => none
  | .cancelled =>
      if dropped ∧ worker.phase.over = false then
        some { worker with
          phase := .cancelled worker.phase.inHand.head?
          unjoined := []
          cut := worker.cut ++ worker.gate.live }
      else none

end Worker

/-- Where `serve_with_shutdown` is. -/
inductive Stop where
  | serving
  | polling (deadline wake : Instant)
  /-- The guards are dropped, and the workers are joined. -/
  | dropped
  | returned
deriving DecidableEq

def Stop.dropsGuards : Stop → Bool
  | .dropped | .returned => true
  | _ => false

/-- `requested` logs when the shutdown was signalled. -/
structure State where
  now : Instant
  stop : Stop
  requested : Option Instant
  workers : List Worker
deriving DecidableEq

def initial (sockets : Nat) : State where
  now := 0
  stop := .serving
  requested := none
  workers := .replicate sockets .initial

inductive Action where
  | wait (elapsed : Duration)
  /-- The shutdown future resolves, and the broadcast is sent. -/
  | signal
  | poll
  /-- The last of the workers is joined. -/
  | ret
  | worker (index : Nat) (action : WorkerAction)
deriving DecidableEq

def State.allOver (state : State) : Bool := state.workers.all fun worker => worker.phase.over

def step (state : State) : Action → Option State
  | .wait elapsed => some { state with now := state.now + elapsed }
  | .signal =>
      if state.stop = .serving then
        some { state with
          stop := .polling (state.now + acceptStopTimeout) state.now
          requested := some state.now }
      else none
  | .poll =>
      match state.stop with
      | .polling deadline wake =>
          if state.now < wake then none
          else if state.now < deadline ∧ state.allOver = false then
            some { state with stop := .polling deadline (state.now + stopPollInterval) }
          else some { state with stop := .dropped }
      | _ => none
  | .ret =>
      if state.stop = .dropped ∧ state.allOver then some { state with stop := .returned } else none
  | .worker index action =>
      match state.workers[index]? with
      | some worker =>
          (worker.step state.now (state.stop ≠ .serving) state.stop.dropsGuards action).map
            fun moved => { state with workers := state.workers.set index moved }
      | none => none

/-! ## What a step of a worker does -/

/-- The steps of `Worker.step`, with what each found. -/
inductive Worker.Took (now : Instant) (signalled dropped : Bool) (worker : Worker) :
    WorkerAction → Worker → Prop where
  | arrive (serves : worker.phase.over = false) (held : worker.lost = none) :
      Took now signalled dropped worker .arrive
        { worker with queue := worker.queue ++ [worker.arrived], arrived := worker.arrived + 1 }
  | lose (held : worker.lost = none) :
      Took now signalled dropped worker .lose { worker with lost := some now }
  | leave (conn : Nat) (gate : Gate Nat) (left : worker.gate.leave conn = some gate) :
      Took now signalled dropped worker (.leave conn)
        { worker with
          gate
          unjoined := if worker.phase.over then worker.unjoined else worker.unjoined ++ [conn] }
  | reap (here : worker.phase = .top) :
      Took now signalled dropped worker .reap
        { worker with phase := .selecting, unjoined := [] }
  | hear (here : worker.phase = .selecting) (heard : signalled = true) :
      Took now signalled dropped worker .hear
        { worker with phase := .draining (now + connectionDrainTimeout) }
  | accept (conn : Nat) (queue : List Nat) (here : worker.phase = .selecting)
      (held : worker.lost = none) (waits : worker.queue = conn :: queue) :
      Took now signalled dropped worker .accept { worker with phase := .acquiring conn, queue }
  | acceptNone (here : worker.phase = .selecting) (gone : worker.lost ≠ none) :
      Took now signalled dropped worker .acceptNone
        { worker with phase := .draining (now + connectionDrainTimeout) }
  | acquire (conn : Nat) (gate : Gate Nat) (here : worker.phase = .acquiring conn)
      (acquired : worker.gate.acquire = some gate) :
      Took now signalled dropped worker .acquire
        { worker with phase := .top, gate := gate.give conn, started := worker.started ++ [conn] }
  | join (ended : Nat) (unjoined : List Nat) (waits : worker.unjoined = ended :: unjoined)
      (here : worker.phase = .aborting ∨ ∃ deadline, worker.phase = .draining deadline) :
      Took now signalled dropped worker .join { worker with unjoined }
  | emptied (empty : worker.empty = true)
      (here : worker.phase = .aborting ∨ ∃ deadline, worker.phase = .draining deadline) :
      Took now signalled dropped worker .emptied { worker with phase := .finished }
  | drainTimeout (deadline : Instant) (here : worker.phase = .draining deadline)
      (due : deadline ≤ now) :
      Took now signalled dropped worker .drainTimeout
        { worker with phase := .aborting, cut := worker.gate.live }
  | cancelled (drops : dropped = true) (serves : worker.phase.over = false) :
      Took now signalled dropped worker .cancelled
        { worker with
          phase := .cancelled worker.phase.inHand.head?
          unjoined := []
          cut := worker.cut ++ worker.gate.live }

theorem Worker.took_of_step {now : Instant} {signalled dropped : Bool} {worker moved : Worker}
    {action : WorkerAction} (taken : worker.step now signalled dropped action = some moved) :
    worker.Took now signalled dropped action moved := by
  cases action with
  | arrive =>
      obtain ⟨⟨serves, held⟩, same⟩ := Option.ite_none_right_eq_some.mp taken
      exact Option.some.inj same ▸ .arrive serves held
  | lose =>
      obtain ⟨held, same⟩ := Option.ite_none_right_eq_some.mp taken
      exact Option.some.inj same ▸ .lose held
  | leave conn =>
      obtain ⟨gate, left, rfl⟩ := Option.map_eq_some_iff.mp taken
      exact .leave conn gate left
  | reap =>
      obtain ⟨here, same⟩ := Option.ite_none_right_eq_some.mp taken
      exact Option.some.inj same ▸ .reap here
  | hear =>
      obtain ⟨⟨here, heard⟩, same⟩ := Option.ite_none_right_eq_some.mp taken
      exact Option.some.inj same ▸ .hear here heard
  | accept =>
      simp only [step] at taken
      split at taken
      · rename_i conn queue waits
        obtain ⟨⟨here, held⟩, same⟩ := Option.ite_none_right_eq_some.mp taken
        exact Option.some.inj same ▸ .accept conn queue here held waits
      · cases taken
  | acceptNone =>
      obtain ⟨⟨here, gone⟩, same⟩ := Option.ite_none_right_eq_some.mp taken
      exact Option.some.inj same ▸ .acceptNone here gone
  | acquire =>
      simp only [step] at taken
      split at taken
      · rename_i conn here
        obtain ⟨gate, acquired, rfl⟩ := Option.map_eq_some_iff.mp taken
        exact .acquire conn gate here acquired
      · cases taken
  | join =>
      simp only [step] at taken
      split at taken
      · rename_i deadline ended unjoined here waits
        exact Option.some.inj taken ▸ .join ended unjoined waits (.inr ⟨deadline, here⟩)
      · rename_i ended unjoined here waits
        exact Option.some.inj taken ▸ .join ended unjoined waits (.inl here)
      · cases taken
  | emptied =>
      simp only [step] at taken
      split at taken
      · rename_i deadline here
        obtain ⟨empty, same⟩ := Option.ite_none_right_eq_some.mp taken
        exact Option.some.inj same ▸ .emptied empty (.inr ⟨deadline, here⟩)
      · rename_i here
        obtain ⟨empty, same⟩ := Option.ite_none_right_eq_some.mp taken
        exact Option.some.inj same ▸ .emptied empty (.inl here)
      · cases taken
  | drainTimeout =>
      simp only [step] at taken
      split at taken
      · rename_i deadline here
        obtain ⟨⟨due, -⟩, same⟩ := Option.ite_none_right_eq_some.mp taken
        exact Option.some.inj same ▸ .drainTimeout deadline here due
      · cases taken
  | cancelled =>
      obtain ⟨⟨drops, serves⟩, same⟩ := Option.ite_none_right_eq_some.mp taken
      exact Option.some.inj same ▸ .cancelled drops serves

end Juicity.Server.AcceptLoop
