import Juicity.Server.AcceptLoop.Model

/-!
Owns which connections the accept workers of `Juicity.Server.AcceptLoop` serve:
each endpoint's in the order they came, each by one handler, and never more of
them at a time than there are permits.

Contract: a worker that waits for a permit waits for nothing else.
-/

namespace Juicity.Server.AcceptLoop

open Juicity.Common
open Juicity.Machine

/-- What `serve_with_shutdown` itself does for a worker; its endpoint and its handlers do the
rest, and only a guard cancels it. -/
def WorkerAction.own : WorkerAction → Bool
  | .reap | .hear | .accept | .acceptNone | .acquire | .join | .emptied | .drainTimeout => true
  | _ => false

theorem Phase.toList_head_inHand (phase : Phase) : phase.inHand.head?.toList = phase.inHand := by
  cases phase with
  | cancelled held => cases held <;> rfl
  | _ => rfl

/-- How many tasks a `JoinSet` may hold: one more than there are permits until it is reaped. -/
def Phase.room : Phase → Nat
  | .top => maxConcurrentConnectionHandlers + 1
  | _ => maxConcurrentConnectionHandlers

namespace Worker

/-- No permit is lost, no connection skipped or served twice, and the handlers that ended do not
pile up. -/
structure Kept (worker : Worker) : Prop where
  keeps : worker.gate.Keeps maxConcurrentConnectionHandlers 0
  ordered : worker.started ++ (worker.phase.inHand ++ worker.queue) = List.range worker.arrived
  among : worker.gate.live.Sublist worker.started
  joinable : worker.gate.live.length + worker.unjoined.length ≤ worker.phase.room

theorem kept_initial : Kept .initial where
  keeps := Gate.keeps_full _
  ordered := rfl
  among := .slnil
  joinable := Nat.zero_le _

section Steps

variable {worker moved : Worker} {now : Instant} {signalled dropped : Bool}
  {action : WorkerAction}

theorem Kept.took (kept : worker.Kept) (took : worker.Took now signalled dropped action moved) :
    moved.Kept := by
  obtain ⟨keeps, ordered, among, joinable⟩ := kept
  cases took with
  | arrive serves held =>
      refine ⟨keeps, ?_, among, joinable⟩
      rw [List.range_succ, ← ordered]
      simp
  | lose held => exact ⟨keeps, ordered, among, joinable⟩
  | leave conn gate left =>
      have fewer := Gate.length_leave left
      refine ⟨keeps.leave left, ordered, (Gate.sublist_leave left).trans among, ?_⟩
      dsimp only
      split
      · omega
      · rw [List.length_append, List.length_singleton]
        omega
  | reap here =>
      rw [here] at ordered
      exact ⟨keeps, ordered, among, keeps.live_le⟩
  | hear here heard =>
      rw [here] at ordered joinable
      exact ⟨keeps, ordered, among, joinable⟩
  | accept conn queue here held waits =>
      rw [here, waits] at ordered
      rw [here] at joinable
      exact ⟨keeps, ordered, among, joinable⟩
  | acceptNone here gone =>
      rw [here] at ordered joinable
      exact ⟨keeps, ordered, among, joinable⟩
  | acquire conn gate here acquired =>
      rw [here] at ordered joinable
      obtain ⟨-, live⟩ := Gate.live_acquire acquired
      refine ⟨(keeps.acquire acquired).give conn, ?_, ?_, ?_⟩
      · rw [← ordered]
        simp [Phase.inHand]
      · change (gate.live ++ [conn]).Sublist (worker.started ++ [conn])
        rw [live]
        exact among.append (.refl _)
      · change (gate.live ++ [conn]).length + worker.unjoined.length ≤
          maxConcurrentConnectionHandlers + 1
        change worker.gate.live.length + worker.unjoined.length ≤
          maxConcurrentConnectionHandlers at joinable
        rw [live, List.length_append, List.length_singleton]
        omega
  | join ended unjoined waits here =>
      refine ⟨keeps, ordered, among, ?_⟩
      rw [waits, List.length_cons] at joinable
      dsimp only
      omega
  | emptied empty here =>
      rcases here with here | ⟨deadline, here⟩
      · rw [here] at ordered joinable
        exact ⟨keeps, ordered, among, joinable⟩
      · rw [here] at ordered joinable
        exact ⟨keeps, ordered, among, joinable⟩
  | drainTimeout deadline here due =>
      rw [here] at ordered joinable
      exact ⟨keeps, ordered, among, joinable⟩
  | cancelled drops serves =>
      refine ⟨keeps, ?_, among, keeps.live_le⟩
      change worker.started ++ (worker.phase.inHand.head?.toList ++ worker.queue) = _
      rw [Phase.toList_head_inHand]
      exact ordered

/-- Of all it could do, a worker that holds a connection without a permit can only take one. -/
theorem own_of_acquiring {conn : Nat} (kept : worker.Kept) (here : worker.phase = .acquiring conn)
    (own : action.own = true) :
    (worker.step now signalled dropped action).isSome = true ↔
      action = .acquire ∧ worker.gate.live.length < maxConcurrentConnectionHandlers := by
  constructor
  · intro some
    obtain ⟨moved, taken⟩ := Option.isSome_iff_exists.mp some
    cases took_of_step taken with
    | acquire other gate there acquired =>
        refine ⟨rfl, Nat.lt_of_le_of_ne kept.keeps.live_le fun all => ?_⟩
        have nobody := kept.keeps.acquire_eq_none_iff.mpr (by rw [Nat.zero_add, all])
        cases nobody.symm.trans acquired
    | arrive | lose | leave | cancelled => cases own
    | reap there => cases here.symm.trans there
    | hear there => cases here.symm.trans there
    | accept _ _ there => cases here.symm.trans there
    | acceptNone there => cases here.symm.trans there
    | drainTimeout _ there => cases here.symm.trans there
    | join _ _ _ there | emptied _ there =>
        rcases there with there | ⟨deadline, there⟩
        · cases here.symm.trans there
        · cases here.symm.trans there
  · rintro ⟨rfl, fewer⟩
    simp only [step, here, Option.isSome_map]
    cases free : worker.gate.acquire with
    | none =>
        have all := kept.keeps.acquire_eq_none_iff.mp free
        omega
    | some gate => rfl

end Steps

end Worker

/-! ## The workers of a server -/

section Serving

variable {state after : State} {action : Action} {sockets : Nat}

/-- A step of the server leaves each worker as it was or takes one step of it. -/
theorem forall_workers_of_step {holds : Worker → Prop}
    (taken : step state action = some after) (before : ∀ worker ∈ state.workers, holds worker)
    (preserved : ∀ index worker workerAction moved, action = .worker index workerAction →
      worker ∈ state.workers → worker.Took state.now (state.stop ≠ .serving)
        state.stop.dropsGuards workerAction moved → holds moved) :
    ∀ worker ∈ after.workers, holds worker := by
  cases action with
  | wait elapsed =>
      obtain rfl := Option.some.inj taken
      exact before
  | signal =>
      obtain ⟨-, same⟩ := Option.ite_none_right_eq_some.mp taken
      exact Option.some.inj same ▸ before
  | poll =>
      simp only [step] at taken
      split at taken
      · split at taken
        · cases taken
        · split at taken
          · exact Option.some.inj taken ▸ before
          · exact Option.some.inj taken ▸ before
      · cases taken
  | ret =>
      obtain ⟨-, same⟩ := Option.ite_none_right_eq_some.mp taken
      exact Option.some.inj same ▸ before
  | worker index workerAction =>
      simp only [step] at taken
      split at taken
      · rename_i worker found
        obtain ⟨moved, stepped, rfl⟩ := Option.map_eq_some_iff.mp taken
        have member := List.mem_of_getElem? found
        have fine := preserved index worker workerAction moved rfl member
          (Worker.took_of_step stepped)
        intro other listed
        rcases List.mem_or_eq_of_mem_set listed with old | rfl
        · exact before other old
        · exact fine
      · cases taken

theorem kept_of_reachable (reached : Reachable step (initial sockets) state) :
    ∀ worker ∈ state.workers, worker.Kept := by
  refine @Reachable.invariant _ _ step (initial sockets)
    (fun state => ∀ worker ∈ state.workers, worker.Kept) ?_ ?_ _ reached
  · intro worker member
    rw [List.eq_of_mem_replicate member]
    exact Worker.kept_initial
  · intro state action after held taken
    exact forall_workers_of_step taken held fun index worker workerAction moved _ member took =>
      (held worker member).took took

/-- In every run, a worker serves the connections of its endpoint in the order they came, each by
one handler; at most 1024 handlers run, and its `JoinSet` holds at most one task more. With a
connection in hand and no permit for it, a worker does not hear of a shutdown, or of anything
else, until one of 1024 handlers ends. -/
theorem serves_of_reachable (reached : Reachable step (initial sockets) state) :
    ∀ worker ∈ state.workers,
      worker.started ++ (worker.phase.inHand ++ worker.queue) = List.range worker.arrived ∧
      worker.gate.live.Sublist worker.started ∧
      worker.gate.live.length ≤ 1024 ∧
      worker.gate.live.length + worker.unjoined.length ≤ 1025 ∧
      ∀ conn, worker.phase = .acquiring conn → ∀ now signalled dropped action, action.own = true →
        ((worker.step now signalled dropped action).isSome = true ↔
          action = .acquire ∧ worker.gate.live.length < 1024) := by
  intro worker member
  have kept := kept_of_reachable reached worker member
  refine ⟨kept.ordered, kept.among, kept.keeps.live_le, ?_, fun conn here now signalled dropped
    action own => Worker.own_of_acquiring kept here own⟩
  refine Nat.le_trans kept.joinable ?_
  unfold Phase.room
  split
  · exact Nat.le_refl _
  · exact Nat.le_succ _

/-- Two connections arrive, and the first is given a handler while the second waits. -/
def twoConnections : List Action :=
  [.worker 0 .reap, .worker 0 .arrive, .worker 0 .arrive, .worker 0 .accept, .worker 0 .acquire,
    .worker 0 .reap, .worker 0 .accept]

/-- A worker with a handler at work and a connection in hand. -/
theorem serves_of_reachable_two :
    ∃ state worker, Reachable step (initial 1) state ∧ worker ∈ state.workers ∧
      worker.started = [0] ∧ worker.phase.inHand = [1] ∧
      worker.started ++ (worker.phase.inHand ++ worker.queue) = List.range worker.arrived ∧
      ((worker.step state.now true false .hear).isSome = true ↔
        WorkerAction.hear = .acquire ∧ worker.gate.live.length < 1024) := by
  have executed : (exec step (initial 1) twoConnections).any (fun state =>
      state.workers.any fun worker =>
        worker.started = [0] ∧ worker.phase = .acquiring 1) = true := by
    decide +kernel
  obtain ⟨state, ended, found⟩ := (Option.any_eq_true _ _).mp executed
  obtain ⟨worker, member, facts⟩ := List.any_eq_true.mp found
  obtain ⟨started, here⟩ := of_decide_eq_true facts
  have reached := reachable_of_exec ended
  obtain ⟨ordered, -, -, -, deaf⟩ := serves_of_reachable reached worker member
  exact ⟨state, worker, reached, member, started, by rw [here]; rfl, ordered,
    deaf 1 here state.now true false .hear rfl⟩

end Serving

end Juicity.Server.AcceptLoop
