import Juicity.Machine.Potential
import Juicity.Server.AcceptLoop.Serving

/-!
Owns how `serve_with_shutdown` ends: how long the handlers are left to run, how
many steps it takes to return once it was signalled, and what may still run then.
-/

namespace Juicity.Server.AcceptLoop

open Juicity.Common
open Juicity.Machine
open Juicity.Server.Shutdown (acceptStopTimeout connectionDrainTimeout stopPollInterval)

/-- The event lies the delay or more back. -/
def Since (event : Option Instant) (delay : Duration) (now : Instant) : Prop :=
  ∃ began, event = some began ∧ began + delay ≤ now

theorem Since.mono {event : Option Instant} {delay : Duration} {now later : Instant}
    (since : Since event delay now) (after : now ≤ later) : Since event delay later := by
  obtain ⟨began, there, long⟩ := since
  exact ⟨began, there, Nat.le_trans long after⟩

/-- A handler is told to abort 5 seconds after its endpoint was lost, or 3 seconds after the
signal, and not before. -/
def Late (lost requested : Option Instant) (now : Instant) : Prop :=
  Since lost connectionDrainTimeout now ∨ Since requested acceptStopTimeout now

/-- A worker that has told its handlers to abort, or has none. -/
def Phase.tells : Phase → Bool
  | .aborting | .finished | .cancelled _ => true
  | _ => false

theorem Phase.tells_of_over {phase : Phase} (ended : phase.over = true) : phase.tells = true := by
  cases phase with
  | finished | cancelled held => rfl
  | _ => cases ended

namespace Worker

/-- When a worker tells its handlers to abort, and whom it has told. -/
structure Aborts (now : Instant) (requested : Option Instant) (worker : Worker) : Prop where
  lost : ∀ began, worker.lost = some began → began ≤ now
  draining : ∀ deadline, worker.phase = .draining deadline →
    Since worker.lost connectionDrainTimeout deadline ∨
      Since requested connectionDrainTimeout deadline
  told : worker.phase.tells = true → ∀ conn ∈ worker.gate.live, conn ∈ worker.cut
  late : worker.cut ≠ [] → Late worker.lost requested now

theorem aborts_initial (now : Instant) (requested : Option Instant) :
    Aborts now requested .initial where
  lost := fun _ there => nomatch there
  draining := fun _ here => nomatch here
  told := fun _ _ member => nomatch member
  late := fun some => absurd rfl some

section Steps

variable {worker moved : Worker} {now next : Instant} {requested : Option Instant}
  {signalled dropped : Bool} {action : WorkerAction}

theorem Aborts.later (aborts : worker.Aborts now requested) (after : now ≤ next) :
    worker.Aborts next requested where
  lost := fun began there => Nat.le_trans (aborts.lost began there) after
  draining := aborts.draining
  told := aborts.told
  late := fun some => (aborts.late some).imp (·.mono after) (·.mono after)

/-- Before the signal nobody was told of it. -/
theorem Aborts.signal (aborts : worker.Aborts now none) (requested : Option Instant) :
    worker.Aborts now requested where
  lost := aborts.lost
  draining := fun deadline here => (aborts.draining deadline here).imp_right
    fun ⟨_, missing, _⟩ => nomatch missing
  told := aborts.told
  late := fun some => (aborts.late some).imp_right fun ⟨_, missing, _⟩ => nomatch missing

theorem over_of_took (took : worker.Took now signalled dropped action moved)
    (ended : worker.phase.over = true) : moved.phase.over = true := by
  cases took with
  | arrive serves held => exact ended
  | lose held => exact ended
  | leave conn gate left => exact ended
  | reap here | hear here heard | accept conn queue here held waits | acceptNone here gone
  | acquire conn gate here acquired | drainTimeout deadline here due =>
      rw [here] at ended
      cases ended
  | join handler unjoined waits here => exact ended
  | emptied empty here => rfl
  | cancelled drops serves => rfl

/-- A drain that began at an event has 5 seconds from then on. -/
theorem since_of_le {event : Option Instant} {began : Instant} (there : event = some began)
    (before : began ≤ now) :
    Since event connectionDrainTimeout (now + connectionDrainTimeout) :=
  ⟨began, there, Nat.add_le_add_right before _⟩

theorem Aborts.took (aborts : worker.Aborts now requested)
    (heard : signalled = true → ∃ began, requested = some began ∧ began ≤ now)
    (drops : dropped = true → worker.phase.over = true ∨ Since requested acceptStopTimeout now)
    (took : worker.Took now signalled dropped action moved) : moved.Aborts now requested := by
  obtain ⟨lost, draining, told, late⟩ := aborts
  cases took with
  | arrive serves held => exact ⟨lost, draining, told, late⟩
  | lose held =>
      refine ⟨fun began there => Nat.le_of_eq (Option.some.inj there).symm,
        fun deadline here => ?_, told, fun some => ?_⟩
      · refine (draining deadline here).imp_left ?_
        rintro ⟨began, there, -⟩
        cases held.symm.trans there
      · refine (late some).imp_left ?_
        rintro ⟨began, there, -⟩
        cases held.symm.trans there
  | leave conn gate left =>
      exact ⟨lost, draining, fun tells other member =>
        told tells other ((Gate.sublist_leave left).subset member), late⟩
  | reap here =>
      exact ⟨lost, fun deadline there => (nomatch there), fun tells => (nomatch tells), late⟩
  | hear here signal =>
      obtain ⟨began, there, before⟩ := heard signal
      refine ⟨lost, fun deadline same => ?_, fun tells => (nomatch tells), late⟩
      obtain rfl := Phase.draining.inj same
      exact .inr (since_of_le there before)
  | accept conn queue here held waits =>
      exact ⟨lost, fun deadline there => (nomatch there), fun tells => (nomatch tells), late⟩
  | acceptNone here gone =>
      obtain ⟨began, there⟩ := Option.ne_none_iff_exists'.mp gone
      refine ⟨lost, fun deadline same => ?_, fun tells => (nomatch tells), late⟩
      obtain rfl := Phase.draining.inj same
      exact .inl (since_of_le there (lost began there))
  | acquire conn gate here acquired =>
      exact ⟨lost, fun deadline there => (nomatch there), fun tells => (nomatch tells), late⟩
  | join handler unjoined waits here => exact ⟨lost, draining, told, late⟩
  | emptied empty here =>
      refine ⟨lost, fun deadline there => (nomatch there), fun _ conn member => ?_, late⟩
      have none : worker.gate.live = [] := by
        rw [Worker.empty, Bool.and_eq_true] at empty
        exact List.isEmpty_iff.mp empty.1
      rw [none] at member
      cases member
  | drainTimeout deadline here due =>
      refine ⟨lost, fun deadline there => (nomatch there), fun _ conn member => member,
        fun _ => ?_⟩
      refine (draining deadline here).imp (·.mono due) fun since => ?_
      obtain ⟨began, there, long⟩ := since
      have shorter : acceptStopTimeout ≤ connectionDrainTimeout := by decide
      exact ⟨began, there, Nat.le_trans (Nat.add_le_add_left shorter began)
        (Nat.le_trans long due)⟩
  | cancelled drop serves =>
      refine ⟨lost, fun deadline there => (nomatch there),
        fun _ conn member => List.mem_append_right _ member, fun _ => ?_⟩
      rcases drops drop with ended | since
      · cases serves.symm.trans ended
      · exact .inr since

end Steps

end Worker

/-! ## The shutdown -/

/-- What `serve_with_shutdown` knows of its workers, and when it goes on. -/
structure Timed (state : State) : Prop where
  workers : ∀ worker ∈ state.workers, worker.Aborts state.now state.requested
  serving : state.stop = .serving → state.requested = none
  signalled : state.stop ≠ .serving →
    ∃ began, state.requested = some began ∧ began ≤ state.now
  polling : ∀ deadline wake, state.stop = .polling deadline wake →
    Since state.requested acceptStopTimeout deadline ∧ deadline ≤ wake + acceptStopTimeout ∧
      wake ≤ state.now + stopPollInterval
  dropped : state.stop.dropsGuards = true →
    state.allOver = true ∨ Since state.requested acceptStopTimeout state.now
  returned : state.stop = .returned → state.allOver = true

section Shutdown

variable {state after : State} {action : Action} {sockets : Nat}

theorem timed_initial (sockets : Nat) : Timed (initial sockets) where
  workers := by
    intro worker member
    rw [List.eq_of_mem_replicate member]
    exact Worker.aborts_initial _ _
  serving := fun _ => rfl
  signalled := fun signal => absurd rfl signal
  polling := fun deadline wake here => nomatch here
  dropped := fun drops => nomatch drops
  returned := fun here => nomatch here

theorem allOver_iff : state.allOver = true ↔ ∀ worker ∈ state.workers, worker.phase.over = true :=
  List.all_eq_true

/-- A worker that is over stays over. -/
theorem allOver_of_step (taken : step state action = some after) (ended : state.allOver = true) :
    after.allOver = true :=
  allOver_iff.mpr <| forall_workers_of_step taken (allOver_iff.mp ended)
    fun _ _ _ _ _ member took => Worker.over_of_took took (allOver_iff.mp ended _ member)

theorem Timed.worker {index : Nat} {workerAction : WorkerAction} (timed : Timed state)
    (taken : step state (.worker index workerAction) = some after) : Timed after := by
  have ended := fun every => allOver_of_step taken every
  have moved : ∀ worker ∈ after.workers, worker.Aborts state.now state.requested := by
    refine forall_workers_of_step taken timed.workers
      fun _ worker _ _ _ member took => (timed.workers worker member).took ?_ ?_ took
    · intro signalled
      exact timed.signalled (of_decide_eq_true signalled)
    · intro drops
      exact (timed.dropped drops).imp_left fun every => allOver_iff.mp every worker member
  obtain ⟨now, stop, requested⟩ : after.now = state.now ∧ after.stop = state.stop ∧
      after.requested = state.requested := by
    simp only [step] at taken
    split at taken
    · obtain ⟨moved, -, rfl⟩ := Option.map_eq_some_iff.mp taken
      exact ⟨rfl, rfl, rfl⟩
    · cases taken
  constructor
  · rw [now, requested]
    exact moved
  · rw [stop, requested]
    exact timed.serving
  · rw [stop, requested, now]
    exact timed.signalled
  · rw [stop, requested, now]
    exact timed.polling
  · rw [stop, requested, now]
    exact fun drops => (timed.dropped drops).imp_left ended
  · rw [stop]
    exact fun here => ended (timed.returned here)

theorem Timed.preserved (timed : Timed state) (taken : step state action = some after) :
    Timed after := by
  cases action with
  | wait elapsed =>
      obtain rfl := Option.some.inj taken
      have later : state.now ≤ state.now + elapsed := Nat.le_add_right _ _
      refine ⟨fun worker member => (timed.workers worker member).later later, timed.serving,
        fun signal => ?_, fun deadline wake here => ?_,
        fun drops => (timed.dropped drops).imp_right (·.mono later), timed.returned⟩
      · obtain ⟨began, there, before⟩ := timed.signalled signal
        exact ⟨began, there, Nat.le_trans before later⟩
      · obtain ⟨since, short, soon⟩ := timed.polling deadline wake here
        exact ⟨since, short, Nat.le_trans soon (Nat.add_le_add_right later _)⟩
  | signal =>
      obtain ⟨serves, same⟩ := Option.ite_none_right_eq_some.mp taken
      obtain rfl := Option.some.inj same
      refine ⟨fun worker member => ?_, fun here => Stop.noConfusion here,
        fun _ => ⟨state.now, rfl, Nat.le_refl _⟩, fun deadline wake here => ?_,
        fun drops => (Bool.false_ne_true drops).elim, fun here => Stop.noConfusion here⟩
      · have before := timed.workers worker member
        rw [timed.serving serves] at before
        exact before.signal _
      · obtain ⟨rfl, rfl⟩ := Stop.polling.inj here
        exact ⟨⟨state.now, rfl, Nat.le_refl _⟩, Nat.le_refl _, Nat.le_add_right _ _⟩
  | poll =>
      simp only [step] at taken
      split at taken
      · rename_i deadline wake here
        obtain ⟨since, short, soon⟩ := timed.polling deadline wake here
        have signalled := timed.signalled (by rw [here]; exact Stop.noConfusion)
        obtain ⟨awake, goes⟩ := Option.ite_none_left_eq_some.mp taken
        split at goes
        · obtain rfl := Option.some.inj goes
          refine ⟨timed.workers, fun there => Stop.noConfusion there, fun _ => signalled,
            fun other next there => ?_, fun drops => (Bool.false_ne_true drops).elim,
            fun there => Stop.noConfusion there⟩
          obtain ⟨rfl, rfl⟩ := Stop.polling.inj there
          have later := Nat.le_trans (Nat.not_lt.mp awake) (Nat.le_add_right _ stopPollInterval)
          exact ⟨since, Nat.le_trans short (Nat.add_le_add_right later _), Nat.le_refl _⟩
        · rename_i stops
          obtain rfl := Option.some.inj goes
          refine ⟨timed.workers, fun there => Stop.noConfusion there, fun _ => signalled,
            fun other next there => Stop.noConfusion there, fun _ => ?_,
            fun there => Stop.noConfusion there⟩
          by_cases due : state.now < deadline
          · refine .inl ?_
            by_contra running
            exact stops ⟨due, Bool.not_eq_true _ ▸ running⟩
          · exact .inr (since.mono (Nat.not_lt.mp due))
      · cases taken
  | ret =>
      obtain ⟨⟨here, ended⟩, same⟩ := Option.ite_none_right_eq_some.mp taken
      obtain rfl := Option.some.inj same
      have signalled := timed.signalled (by rw [here]; exact Stop.noConfusion)
      exact ⟨timed.workers, fun there => Stop.noConfusion there, fun _ => signalled,
        fun deadline wake there => Stop.noConfusion there, fun _ => .inl ended, fun _ => ended⟩
  | worker index workerAction => exact timed.worker taken

end Shutdown

/-! ## The way to the end -/

/-- What `serve_with_shutdown` does itself. -/
def ofMain : Action → Nat
  | .signal | .poll | .ret | .worker _ .cancelled => 1
  | _ => 0

/-- The polls, and the return, that are still to come. -/
def Stop.left : Stop → Nat
  | .polling deadline wake => (deadline - wake + (stopPollInterval - 1)) / stopPollInterval + 2
  | .dropped => 1
  | _ => 0

def State.left (state : State) : Nat :=
  state.stop.left + state.workers.countP fun worker => !worker.phase.over

section Ending

variable {state after : State} {action : Action} {sockets : Nat}

/-- A worker is cancelled once, and not when it is over. -/
theorem ofMain_of_took {now : Instant} {signalled dropped : Bool} {worker moved : Worker}
    {workerAction : WorkerAction} (index : Nat)
    (took : worker.Took now signalled dropped workerAction moved) :
    ofMain (.worker index workerAction) + (if !moved.phase.over then 1 else 0) ≤
      if !worker.phase.over then 1 else 0 := by
  by_cases cancels : workerAction = .cancelled
  · subst cancels
    cases took with
    | cancelled drops serves =>
        exact Nat.le_of_eq (by rw [serves]; rfl)
  · have free : ofMain (.worker index workerAction) = 0 := by
      cases workerAction with
      | cancelled => exact absurd rfl cancels
      | _ => rfl
    rw [free, Nat.zero_add]
    cases before : worker.phase.over with
    | true =>
        exact Nat.le_of_eq (by rw [Worker.over_of_took took before])
    | false =>
        split
        · exact Nat.le_refl _
        · exact Nat.zero_le _

theorem left_of_worker {index : Nat} {workerAction : WorkerAction}
    (taken : step state (.worker index workerAction) = some after) :
    ofMain (.worker index workerAction) + after.left ≤ state.left ∧ after.stop = state.stop := by
  simp only [step] at taken
  split at taken
  · rename_i worker found
    obtain ⟨moved, stepped, rfl⟩ := Option.map_eq_some_iff.mp taken
    have spends := ofMain_of_took index (Worker.took_of_step stepped)
    obtain ⟨inside, here⟩ := List.getElem?_eq_some_iff.mp found
    refine ⟨?_, rfl⟩
    have counted : (if !worker.phase.over then 1 else 0) ≤
        state.workers.countP fun worker => !worker.phase.over := by
      split
      · rename_i serves
        exact List.countP_pos_iff.mpr ⟨worker, List.mem_of_getElem? found, serves⟩
      · exact Nat.zero_le _
    unfold State.left
    dsimp only
    rw [List.countP_set inside, here]
    omega
  · cases taken

/-- Each step of `serve_with_shutdown` is one of those that are left. -/
theorem left_of_step (signalled : state.stop ≠ .serving)
    (taken : step state action = some after) :
    ofMain action + after.left ≤ state.left ∧ after.stop ≠ .serving := by
  cases action with
  | wait elapsed =>
      obtain rfl := Option.some.inj taken
      exact ⟨Nat.le_of_eq (Nat.zero_add _), signalled⟩
  | signal =>
      obtain ⟨serves, -⟩ := Option.ite_none_right_eq_some.mp taken
      exact absurd serves signalled
  | poll =>
      simp only [step] at taken
      split at taken
      · rename_i deadline wake here
        obtain ⟨awake, goes⟩ := Option.ite_none_left_eq_some.mp taken
        split at goes
        · rename_i waits
          obtain rfl := Option.some.inj goes
          refine ⟨?_, Stop.noConfusion⟩
          have early : state.now < deadline := waits.1
          have late : wake ≤ state.now := Nat.not_lt.mp awake
          simp only [State.left, here, Stop.left, ofMain, stopPollInterval, Duration.fromMillis]
          unfold Instant Duration at *
          omega
        · obtain rfl := Option.some.inj goes
          refine ⟨?_, Stop.noConfusion⟩
          simp only [State.left, here, Stop.left, ofMain]
          rw [← Nat.add_assoc]
          exact Nat.add_le_add_right (Nat.le_add_left 2 _) _
      · cases taken
  | ret =>
      obtain ⟨⟨here, -⟩, same⟩ := Option.ite_none_right_eq_some.mp taken
      obtain rfl := Option.some.inj same
      refine ⟨?_, Stop.noConfusion⟩
      simp only [State.left, here, Stop.left, ofMain]
      omega
  | worker index workerAction =>
      obtain ⟨spends, same⟩ := left_of_worker taken
      exact ⟨spends, same ▸ signalled⟩

/-- After the wait for the next poll at most, there is a step to take. -/
theorem goes_of_signalled (timed : Timed state) (signalled : state.stop ≠ .serving)
    (runs : state.stop ≠ .returned) :
    ∃ elapsed ≤ stopPollInterval, ∃ action, ofMain action = 1 ∧
      (step { state with now := state.now + elapsed } action).isSome = true := by
  cases here : state.stop with
  | serving => exact absurd here signalled
  | returned => exact absurd here runs
  | polling deadline wake =>
      obtain ⟨-, -, soon⟩ := timed.polling deadline wake here
      refine ⟨wake - state.now, Nat.sub_le_iff_le_add'.mpr soon, .poll, rfl, ?_⟩
      have awake : ¬ state.now + (wake - state.now) < wake :=
        Nat.not_lt.mpr (Nat.sub_le_iff_le_add'.mp (Nat.le_refl _))
      simp only [step, if_neg awake]
      split
      · rfl
      · rfl
  | dropped =>
      refine ⟨0, Nat.zero_le _, ?_⟩
      cases ended : state.allOver with
      | true => exact ⟨.ret, rfl, by simp [step, State.allOver, ← ended]⟩
      | false =>
          obtain ⟨worker, member, serves⟩ := List.all_eq_false.mp ended
          obtain ⟨index, found⟩ := List.getElem?_of_mem member
          refine ⟨.worker index .cancelled, rfl, ?_⟩
          simp [step, found, Worker.step, Stop.dropsGuards, serves]

theorem length_workers (reached : Reachable step (initial sockets) state) :
    state.workers.length = sockets := by
  refine @Reachable.invariant _ _ step (initial sockets) (fun state => state.workers.length = sockets)
    ?_ ?_ _ reached
  · exact List.length_replicate
  · intro state action after held taken
    cases action with
    | wait elapsed => exact Option.some.inj taken ▸ held
    | signal =>
        obtain ⟨-, same⟩ := Option.ite_none_right_eq_some.mp taken
        exact Option.some.inj same ▸ held
    | poll =>
        simp only [step] at taken
        split at taken
        · obtain ⟨-, goes⟩ := Option.ite_none_left_eq_some.mp taken
          split at goes
          · exact Option.some.inj goes ▸ held
          · exact Option.some.inj goes ▸ held
        · cases taken
    | ret =>
        obtain ⟨-, same⟩ := Option.ite_none_right_eq_some.mp taken
        exact Option.some.inj same ▸ held
    | worker index workerAction =>
        simp only [step] at taken
        split at taken
        · obtain ⟨moved, -, rfl⟩ := Option.map_eq_some_iff.mp taken
          exact (List.length_set ..).trans held
        · cases taken

theorem timed_of_reachable (reached : Reachable step (initial sockets) state) : Timed state :=
  reached.invariant (timed_initial sockets) fun _ _ _ timed taken => timed.preserved taken

theorem left_le (timed : Timed state) : state.left ≤ 152 + state.workers.length := by
  have workers := state.workers.countP_le_length (p := fun worker => !worker.phase.over)
  have stop : state.stop.left ≤ 152 := by
    cases here : state.stop with
    | polling deadline wake =>
        obtain ⟨-, short, -⟩ := timed.polling deadline wake here
        simp only [Stop.left, stopPollInterval, acceptStopTimeout, Duration.fromMillis,
          Duration.fromSecs] at short ⊢
        unfold Instant Duration at *
        omega
    | _ => decide
  exact Nat.add_le_add stop workers

/-- In every run, once the shutdown is signalled, `serve_with_shutdown` always goes on after at
most the time between two polls, and it returns after at most 152 steps of its own and one for
each worker. When it has returned no worker accepts or waits any more, and every handler that
still runs was told to abort. No handler is told so earlier than 3 seconds after the signal,
unless its endpoint was lost 5 seconds before. -/
theorem returns_of_run {history : List (State × Action)}
    (run : Run step (initial sockets) history state) :
    (state.stop ≠ .serving → state.stop ≠ .returned →
      ∃ elapsed ≤ stopPollInterval, ∃ action, ofMain action = 1 ∧
        (step { state with now := state.now + elapsed } action).isSome = true) ∧
    (state.stop ≠ .serving → ∀ later final, Run step state later final →
      spent ofMain later ≤ 152 + sockets) ∧
    (state.stop = .returned → ∀ worker ∈ state.workers, worker.phase.over = true ∧
      ∀ conn ∈ worker.gate.live, conn ∈ worker.cut) ∧
    ∀ worker ∈ state.workers, worker.cut ≠ [] → Late worker.lost state.requested state.now := by
  have reached : Reachable step (initial sockets) state := ⟨history, run⟩
  have timed := timed_of_reachable reached
  refine ⟨goes_of_signalled timed, fun signalled later final more => ?_,
    fun returned worker member => ?_, fun worker member => (timed.workers worker member).late⟩
  · have preserved : ∀ state action after, Timed state ∧ state.stop ≠ .serving →
        step state action = some after → Timed after ∧ after.stop ≠ .serving :=
      fun state action after held taken =>
        ⟨held.1.preserved taken, (left_of_step held.2 taken).2⟩
    have spends := (more.spent_le ⟨timed, signalled⟩ preserved
      fun state action after held taken => (left_of_step held.2 taken).1).1
    have bound := left_le timed
    rw [length_workers reached] at bound
    exact Nat.le_trans (Nat.le_add_right _ _) (Nat.le_trans spends bound)
  · have ended := allOver_iff.mp (timed.returned returned) worker member
    exact ⟨ended, (timed.workers worker member).told (Phase.tells_of_over ended)⟩

/-- A connection is served when the shutdown is signalled; the worker does not hear of it, and
after 3 seconds its guard is dropped. -/
def deafWorker : List Action :=
  [.worker 0 .reap, .worker 0 .arrive, .worker 0 .accept, .worker 0 .acquire, .signal, .poll,
    .wait acceptStopTimeout, .poll, .worker 0 .cancelled, .ret]

/-- The handler is told to abort when the server has waited for 3 seconds, though it had not
begun to drain. -/
theorem returns_of_run_deaf :
    ∃ history state, Run step (initial 1) history state ∧ state.stop = .returned ∧
      (∃ worker ∈ state.workers, worker.cut = [0] ∧ Late worker.lost state.requested state.now) ∧
      ∀ worker ∈ state.workers, worker.phase.over = true ∧
        ∀ conn ∈ worker.gate.live, conn ∈ worker.cut := by
  have executed : (exec step (initial 1) deafWorker).any (fun state =>
      state.stop = .returned && state.workers.any fun worker => worker.cut = [0]) = true := by
    decide +kernel
  obtain ⟨state, reached, facts⟩ := (Option.any_eq_true _ _).mp executed
  obtain ⟨returned, found⟩ := (Bool.and_eq_true _ _).mp facts
  obtain ⟨worker, member, cut⟩ := List.any_eq_true.mp found
  have stopped : state.stop = .returned := of_decide_eq_true returned
  have told : worker.cut = [0] := of_decide_eq_true cut
  have run := run_trace reached
  obtain ⟨-, -, ended, late⟩ := returns_of_run run
  exact ⟨_, state, run, stopped, ⟨worker, member, told, late worker member (by rw [told]; simp)⟩,
    ended stopped⟩

end Ending

end Juicity.Server.AcceptLoop
