import Juicity.Common.Consts
import Juicity.Machine.Gate
import Juicity.Machine.Run
import Juicity.Machine.Spacing

/-!
Owns the accept loops of the client: `LocalServer::serve_with_listener` in
`client/src/local.rs` and `start_tcp_forward` in `client/src/forwarder.rs`, which
differ in what a handler does. A connection is named by its number at the
listener; until it is accepted it waits in the backlog.

Contract: a permit comes before a connection, so a connection that was accepted
waits for nothing; an error of `accept` costs no permit.
-/

namespace Juicity.Client.AcceptLoop

open Juicity.Common
open Juicity.Machine

def maxConcurrentTcpConnections : Nat := 256

/-- How long the loop sleeps after an error. -/
def acceptErrorPause : Duration := .fromMillis 100

inductive Phase where
  | acquiring
  /-- In `accept`, with a permit in hand. -/
  | accepting
  | sleeping (wake : Instant)
deriving DecidableEq

def Phase.inHand : Phase → Nat
  | .accepting => 1
  | _ => 0

/-- `started` and `failures` log the connections handlers were spawned for and the times of the
errors of `accept`. -/
structure State where
  now : Instant
  phase : Phase
  gate : Gate Nat
  backlog : List Nat
  arrived : Nat
  started : List Nat
  failures : List Instant
deriving DecidableEq

def initial : State where
  now := 0
  phase := .acquiring
  gate := .full maxConcurrentTcpConnections
  backlog := []
  arrived := 0
  started := []
  failures := []

inductive Action where
  | wait (elapsed : Duration)
  | connect
  /-- A handler ends. -/
  | leave (conn : Nat)
  | acquire
  | accept
  | fail
  | wake
deriving DecidableEq

def step (state : State) : Action → Option State
  | .wait elapsed => some { state with now := state.now + elapsed }
  | .connect =>
      some { state with
        backlog := state.backlog ++ [state.arrived], arrived := state.arrived + 1 }
  | .leave conn => (state.gate.leave conn).map fun gate => { state with gate }
  | .acquire =>
      if state.phase = .acquiring then
        state.gate.acquire.map fun gate => { state with phase := .accepting, gate }
      else none
  | .accept =>
      match state.phase, state.backlog with
      | .accepting, conn :: backlog =>
          some { state with
            phase := .acquiring
            gate := state.gate.give conn
            backlog
            started := state.started ++ [conn] }
      | _, _ => none
  | .fail =>
      if state.phase = .accepting then
        some { state with
          phase := .sleeping (state.now + acceptErrorPause)
          gate := state.gate.release
          failures := state.failures ++ [state.now] }
      else none
  | .wake =>
      match state.phase with
      | .sleeping wake => if wake ≤ state.now then some { state with phase := .acquiring } else none
      | _ => none

/-- The permits are all accounted for, no connection is skipped or served twice, and the loop
rests after each error. -/
structure Kept (state : State) : Prop where
  keeps : state.gate.Keeps maxConcurrentTcpConnections state.phase.inHand
  ordered : state.started ++ state.backlog = List.range state.arrived
  among : state.gate.live.Sublist state.started
  spaced : Spaced (fun _ => acceptErrorPause) state.failures
  past : ∀ last, state.failures.getLast? = some last → last ≤ state.now
  awake : ∀ last, state.failures.getLast? = some last →
    (∃ wake, state.phase = .sleeping wake ∧ last + acceptErrorPause ≤ wake) ∨
      last + acceptErrorPause ≤ state.now
  soon : ∀ wake, state.phase = .sleeping wake → wake ≤ state.now + acceptErrorPause

section Steps

variable {state after : State} {action : Action}

theorem kept_initial : Kept initial where
  keeps := Gate.keeps_full _
  ordered := rfl
  among := .slnil
  spaced := spaced_nil
  past := fun _ found => nomatch found
  awake := fun _ found => nomatch found
  soon := fun _ here => nomatch here

/-- A loop that does not sleep has rested since the last error. -/
theorem Kept.rested (kept : Kept state) (goes : ∀ wake, state.phase ≠ .sleeping wake)
    {last : Instant} (found : state.failures.getLast? = some last) :
    last + acceptErrorPause ≤ state.now := by
  rcases kept.awake last found with ⟨wake, here, -⟩ | rested
  · exact absurd here (goes wake)
  · exact rested

theorem Kept.waited (kept : Kept state) (elapsed : Duration) :
    Kept { state with now := state.now + elapsed } where
  keeps := kept.keeps
  ordered := kept.ordered
  among := kept.among
  spaced := kept.spaced
  past := fun last found => Nat.le_trans (kept.past last found) (Nat.le_add_right _ _)
  awake := fun last found =>
    (kept.awake last found).imp_right fun rested => Nat.le_trans rested (Nat.le_add_right _ _)
  soon := fun wake here =>
    Nat.le_trans (kept.soon wake here) (Nat.add_le_add_right (Nat.le_add_right _ _) _)

/-- An error puts the permit back, and the loop to sleep. -/
theorem Kept.failed (kept : Kept state) (here : state.phase = .accepting) :
    Kept { state with
      phase := .sleeping (state.now + acceptErrorPause)
      gate := state.gate.release
      failures := state.failures ++ [state.now] } := by
  have hand := kept.keeps
  rw [here] at hand
  refine ⟨Gate.Keeps.release hand, kept.ordered, kept.among, ?_, ?_, ?_, ?_⟩
  · refine kept.spaced.snoc state.now fun last found => kept.rested ?_ found
    rw [here]
    exact fun wake => Phase.noConfusion
  · intro last found
    rw [List.getLast?_concat] at found
    exact Nat.le_of_eq (Option.some.inj found).symm
  · intro last found
    rw [List.getLast?_concat] at found
    obtain rfl := Option.some.inj found
    exact .inl ⟨_, rfl, Nat.le_refl _⟩
  · intro wake same
    obtain rfl := Phase.sleeping.inj same
    exact Nat.le_refl _

theorem Kept.preserved (kept : Kept state) (taken : step state action = some after) :
    Kept after := by
  cases action with
  | wait elapsed => exact Option.some.inj taken ▸ kept.waited elapsed
  | connect =>
      obtain rfl := Option.some.inj taken
      refine ⟨kept.keeps, ?_, kept.among, kept.spaced, kept.past, kept.awake, kept.soon⟩
      rw [List.range_succ, ← kept.ordered, List.append_assoc]
  | leave conn =>
      obtain ⟨gate, left, rfl⟩ := Option.map_eq_some_iff.mp taken
      exact ⟨kept.keeps.leave left, kept.ordered, (Gate.sublist_leave left).trans kept.among,
        kept.spaced, kept.past, kept.awake, kept.soon⟩
  | acquire =>
      obtain ⟨here, goes⟩ := Option.ite_none_right_eq_some.mp taken
      obtain ⟨gate, acquired, rfl⟩ := Option.map_eq_some_iff.mp goes
      have keeps := kept.keeps
      rw [here] at keeps
      obtain ⟨-, live⟩ := Gate.live_acquire acquired
      refine ⟨keeps.acquire acquired, kept.ordered, ?_, kept.spaced, kept.past,
        fun last found => .inr (kept.rested ?_ found), fun wake there => (nomatch there)⟩
      · dsimp only
        rw [live]
        exact kept.among
      · rw [here]
        exact fun wake => Phase.noConfusion
  | accept =>
      simp only [step] at taken
      split at taken
      · rename_i conn backlog here waits
        obtain rfl := Option.some.inj taken
        have keeps := kept.keeps
        rw [here] at keeps
        have ordered := kept.ordered
        rw [waits] at ordered
        refine ⟨Gate.Keeps.give keeps conn, ?_, kept.among.append (.refl _), kept.spaced,
          kept.past, fun last found => .inr (kept.rested ?_ found),
          fun wake there => (nomatch there)⟩
        · rw [← ordered, List.append_assoc]
          rfl
        · rw [here]
          exact fun wake => Phase.noConfusion
      · cases taken
  | fail =>
      obtain ⟨here, same⟩ := Option.ite_none_right_eq_some.mp taken
      exact Option.some.inj same ▸ kept.failed here
  | wake =>
      simp only [step] at taken
      split at taken
      · rename_i wake here
        obtain ⟨due, same⟩ := Option.ite_none_right_eq_some.mp taken
        obtain rfl := Option.some.inj same
        have keeps := kept.keeps
        rw [here] at keeps
        refine ⟨keeps, kept.ordered, kept.among, kept.spaced, kept.past, fun last found => ?_,
          fun wake there => (nomatch there)⟩
        rcases kept.awake last found with ⟨other, there, rests⟩ | rested
        · obtain rfl := Phase.sleeping.inj (here.symm.trans there)
          exact .inr (Nat.le_trans rests due)
        · exact .inr rested
      · cases taken

end Steps

/-! ## Runs -/

section Runs

variable {state : State}

theorem kept_of_reachable (reached : Reachable step initial state) : Kept state :=
  reached.invariant kept_initial fun _ _ _ kept taken => kept.preserved taken

end Runs

end Juicity.Client.AcceptLoop
