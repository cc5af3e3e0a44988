import Juicity.Common.Consts
import Juicity.Machine.Run

/-!
Owns the shutdown of `serve_with_shutdown` in `server/src/server.rs`: the accept
workers, each with its connection handlers and a deadline to drain them, and the
loop that waits for the workers with a deadline of its own and then drops the
guards that abort them. Times count from the moment the signal resolves; a timer
may fire at any time from when it is due.

Contract: a handler that finishes within the drain timeout is not aborted as far
as it finishes before the first of the two deadlines.
-/

namespace Juicity.Server.Shutdown

open Juicity.Common
open Juicity.Machine

def acceptStopTimeout : Duration := .fromSecs 3
def connectionDrainTimeout : Duration := .fromSecs 5
def stopPollInterval : Duration := .fromMillis 20

/-- A connection handler: when it finishes if it is left alone, whether it was accepted before
the signal, and whether it was aborted. -/
structure Handler where
  finishes : Instant
  early : Bool
  aborted : Bool
deriving DecidableEq

namespace Handler

def running (now : Instant) (handler : Handler) : Bool :=
  !handler.aborted && decide (now < handler.finishes)

/-- Only a handler that still runs is aborted. -/
def abort (now : Instant) (handler : Handler) : Handler :=
  if handler.running now then { handler with aborted := true } else handler

end Handler

inductive Phase where
  | accepting
  | draining (deadline : Instant)
  | finished
deriving DecidableEq

/-- An accept worker with the handlers of its `JoinSet`. -/
structure Worker where
  phase : Phase
  handlers : List Handler
deriving DecidableEq

inductive WorkerAction where
  | accept (finishes : Instant)
  /-- The broadcast, or an endpoint that is closed. -/
  | stopAccepting
  | joined
  | drainTimeout
  | cancelled
deriving DecidableEq

namespace Worker

/-- `abort_all`, or the drop of the `JoinSet`. -/
def abortAll (now : Instant) (worker : Worker) : Worker :=
  ⟨.finished, worker.handlers.map (Handler.abort now)⟩

/-- A step of a worker; it is cancelled only when the guards are dropped. -/
def step (now : Instant) (dropped : Bool) (worker : Worker) : WorkerAction → Option Worker
  | .accept finishes =>
      if worker.phase = .accepting ∧ now < finishes then
        some { worker with handlers := worker.handlers ++ [⟨finishes, false, false⟩] }
      else none
  | .stopAccepting =>
      if worker.phase = .accepting then
        some { worker with phase := .draining (now + connectionDrainTimeout) }
      else none
  | .joined =>
      match worker.phase with
      | .draining _ =>
          if worker.handlers.any (Handler.running now) then none
          else some { worker with phase := .finished }
      | _ => none
  | .drainTimeout =>
      match worker.phase with
      | .draining deadline => if deadline ≤ now then some (worker.abortAll now) else none
      | _ => none
  | .cancelled =>
      if dropped ∧ worker.phase ≠ .finished then some (worker.abortAll now) else none

end Worker

/-- Where `serve_with_shutdown` is. -/
inductive Stop where
  | requested
  | polling (deadline wake : Instant)
  | dropped
deriving DecidableEq

structure State where
  now : Instant
  stop : Stop
  workers : List Worker
deriving DecidableEq

inductive Action where
  | wait (elapsed : Duration)
  | broadcast
  | poll
  | worker (index : Nat) (action : WorkerAction)
deriving DecidableEq

def State.allFinished (state : State) : Bool :=
  state.workers.all fun worker => worker.phase = .finished

def step (state : State) : Action → Option State
  | .wait elapsed => some { state with now := state.now + elapsed }
  | .broadcast =>
      if state.stop = .requested then
        some { state with stop := .polling (state.now + acceptStopTimeout) state.now }
      else none
  | .poll =>
      match state.stop with
      | .polling deadline wake =>
          if state.now < wake then none
          else if state.now < deadline ∧ ¬state.allFinished then
            some { state with stop := .polling deadline (state.now + stopPollInterval) }
          else some { state with stop := .dropped }
      | _ => none
  | .worker index action =>
      match state.workers[index]? with
      | some worker =>
          (worker.step state.now (state.stop = .dropped) action).map fun moved =>
            { state with workers := state.workers.set index moved }
      | none => none

/-- The signal has just resolved, and every handler that is there runs. -/
structure Started (state : State) : Prop where
  now : state.now = 0
  stop : state.stop = .requested
  runs : ∀ worker ∈ state.workers, ∀ handler ∈ worker.handlers,
    0 < handler.finishes ∧ handler.early = true ∧ handler.aborted = false
  left : ∀ worker ∈ state.workers, worker.phase = .finished → worker.handlers = []

/-- A handler that was there at the signal and finishes within the drain timeout is not
aborted. -/
def Worker.Spares (worker : Worker) : Prop :=
  ∀ handler ∈ worker.handlers, handler.early = true →
    handler.finishes ≤ connectionDrainTimeout → handler.aborted = false

/-- How long the handlers of a worker are sure to run. -/
def Worker.lasts (worker : Worker) : Duration :=
  match worker.phase with
  | .accepting => acceptStopTimeout
  | .draining deadline => min acceptStopTimeout deadline
  | .finished => connectionDrainTimeout

/-! ## Workers -/

/-- The handlers that were there at the signal run long enough, and none of them was aborted
that finishes within the drain timeout. -/
structure Worker.InTime (worker : Worker) : Prop where
  spares : worker.Spares
  lasts : ∀ handler ∈ worker.handlers, handler.early = true →
    handler.finishes ≤ connectionDrainTimeout → handler.finishes ≤ worker.lasts

section Workers

variable {worker moved : Worker} {now : Instant} {dropped : Bool} {action : WorkerAction}

/-- Aborting spares the handlers that have finished. -/
theorem Worker.InTime.abortAll (inTime : worker.InTime) (late : worker.lasts ≤ now) :
    (worker.abortAll now).InTime := by
  have kept : ∀ handler ∈ (worker.abortAll now).handlers, handler.early = true →
      handler.finishes ≤ connectionDrainTimeout → handler.aborted = false := by
    intro handler member early short
    obtain ⟨before, listed, rfl⟩ := List.mem_map.mp member
    unfold Handler.abort at early short ⊢
    split at early
    · rename_i running
      rw [if_pos running] at short
      have fits := inTime.lasts before listed early short
      simp only [Handler.running, Bool.and_eq_true, decide_eq_true_eq] at running
      exact absurd (Nat.le_trans fits late) (Nat.not_le.mpr running.2)
    · rename_i resting
      rw [if_neg resting] at short ⊢
      exact inTime.spares before listed early short
  exact ⟨kept, fun handler member early short => short⟩

theorem Worker.InTime.stopAccepting (inTime : worker.InTime) (accepting : worker.phase = .accepting)
    (now : Instant) :
    ({ worker with phase := .draining (now + connectionDrainTimeout) } : Worker).InTime := by
  refine ⟨inTime.spares, fun handler member early short => ?_⟩
  have fits := inTime.lasts handler member early short
  rw [Worker.lasts, accepting] at fits
  exact Nat.le_min.mpr ⟨fits, Nat.le_trans short (Nat.le_add_left _ _)⟩

theorem Worker.lasts_le (worker : Worker) (unfinished : worker.phase ≠ .finished) :
    worker.lasts ≤ acceptStopTimeout := by
  unfold Worker.lasts
  split
  · exact Nat.le_refl _
  · exact Nat.min_le_left _ _
  · rename_i finished
    exact absurd finished unfinished

/-- A worker that has finished takes no step. -/
theorem Worker.step_finished (finished : worker.phase = .finished) :
    worker.step now dropped action = none := by
  cases action with
  | accept finishes | stopAccepting | joined | drainTimeout | cancelled =>
      simp [Worker.step, finished]

/-- Every step of a worker keeps its handlers in time, when the guards are dropped no sooner
than they last. -/
theorem Worker.InTime.step (inTime : worker.InTime)
    (patient : dropped = true → acceptStopTimeout ≤ now ∨ worker.phase = .finished)
    (moves : worker.step now dropped action = some moved) : moved.InTime := by
  cases action with
  | accept finishes =>
      obtain ⟨_, same⟩ := Option.ite_none_right_eq_some.mp moves
      obtain rfl := Option.some.inj same
      -- a handler that is accepted now was not there at the signal
      have old : ∀ handler ∈ worker.handlers ++ [⟨finishes, false, false⟩],
          handler.early = true → handler ∈ worker.handlers := by
        intro handler member early
        rcases List.mem_append.mp member with before | new
        · exact before
        · rw [List.mem_singleton.mp new] at early
          cases early
      exact ⟨fun handler member early => inTime.spares handler (old handler member early) early,
        fun handler member early => inTime.lasts handler (old handler member early) early⟩
  | stopAccepting =>
      obtain ⟨accepting, same⟩ := Option.ite_none_right_eq_some.mp moves
      obtain rfl := Option.some.inj same
      exact inTime.stopAccepting accepting now
  | joined =>
      simp only [Worker.step] at moves
      split at moves
      · obtain ⟨_, same⟩ := Option.ite_none_left_eq_some.mp moves
        obtain rfl := Option.some.inj same
        exact ⟨inTime.spares, fun handler _ _ short => short⟩
      · cases moves
  | drainTimeout =>
      simp only [Worker.step] at moves
      split at moves
      · rename_i deadline draining
        obtain ⟨due, same⟩ := Option.ite_none_right_eq_some.mp moves
        obtain rfl := Option.some.inj same
        refine inTime.abortAll ?_
        rw [Worker.lasts, draining]
        exact Nat.le_trans (Nat.min_le_right _ _) due
      · cases moves
  | cancelled =>
      obtain ⟨⟨guards, unfinished⟩, same⟩ := Option.ite_none_right_eq_some.mp moves
      obtain rfl := Option.some.inj same
      refine inTime.abortAll (Nat.le_trans ?_ ((patient guards).resolve_right unfinished))
      exact worker.lasts_le unfinished

end Workers

/-! ## The whole shutdown -/

/-- Every worker keeps its handlers in time, and the guards are dropped neither before the
timeout for the workers nor before all of them have finished. -/
structure InTime (state : State) : Prop where
  workers : ∀ worker ∈ state.workers, worker.InTime
  polling : ∀ deadline wake, state.stop = .polling deadline wake → acceptStopTimeout ≤ deadline
  dropped : state.stop = .dropped →
    acceptStopTimeout ≤ state.now ∨ ∀ worker ∈ state.workers, worker.phase = .finished

section Runs

variable {state after : State}

theorem InTime.worker (inTime : InTime state) {index : Nat} {action : WorkerAction}
    (moves : step state (.worker index action) = some after) : InTime after := by
  simp only [step] at moves
  split at moves
  · rename_i worker found
    obtain ⟨moved, stepped, rfl⟩ := Option.map_eq_some_iff.mp moves
    have listed : worker ∈ state.workers := List.mem_of_getElem? found
    have patient : decide (state.stop = .dropped) = true →
        acceptStopTimeout ≤ state.now ∨ worker.phase = .finished := by
      intro guards
      rcases inTime.dropped (of_decide_eq_true guards) with late | finished
      · exact .inl late
      · exact .inr (finished worker listed)
    refine ⟨fun other member => ?_, inTime.polling, fun guards => ?_⟩
    · rcases List.mem_or_eq_of_mem_set member with old | rfl
      · exact inTime.workers other old
      · exact (inTime.workers worker listed).step patient stepped
    · rcases inTime.dropped guards with late | finished
      · exact .inl late
      · rw [Worker.step_finished (finished worker listed)] at stepped
        cases stepped
  · cases moves

theorem InTime.poll (inTime : InTime state) (moves : step state .poll = some after) :
    InTime after := by
  simp only [step] at moves
  split at moves
  · rename_i deadline wake polling
    obtain ⟨_, moves⟩ := Option.ite_none_left_eq_some.mp moves
    have long := inTime.polling deadline wake polling
    split at moves
    · obtain rfl := Option.some.inj moves
      refine ⟨inTime.workers, fun other later same => ?_, fun guards => nomatch guards⟩
      obtain ⟨rfl, -⟩ := Stop.polling.inj same
      exact long
    · rename_i stops
      obtain rfl := Option.some.inj moves
      refine ⟨inTime.workers, fun other later same => (nomatch same), fun _ => ?_⟩
      rw [not_and_or, not_not] at stops
      rcases stops with late | finished
      · exact .inl (Nat.le_trans long (Nat.not_lt.mp late))
      · exact .inr fun worker member =>
          of_decide_eq_true (List.all_eq_true.mp finished worker member)
  · cases moves

theorem InTime.preserved {action : Action} (inTime : InTime state)
    (moves : step state action = some after) : InTime after := by
  cases action with
  | wait elapsed =>
      obtain rfl := Option.some.inj moves
      refine ⟨inTime.workers, inTime.polling, fun guards => ?_⟩
      rcases inTime.dropped guards with late | finished
      · exact .inl (Nat.le_trans late (Nat.le_add_right _ _))
      · exact .inr finished
  | broadcast =>
      obtain ⟨_, same⟩ := Option.ite_none_right_eq_some.mp moves
      obtain rfl := Option.some.inj same
      refine ⟨inTime.workers, fun deadline wake polling => ?_, fun guards => nomatch guards⟩
      obtain ⟨rfl, -⟩ := Stop.polling.inj polling
      exact Nat.le_add_left _ _
  | poll => exact inTime.poll moves
  | worker index action => exact inTime.worker moves

/-- Handlers that run as long as they last are in time from the start. -/
theorem InTime.of_started (started : Started state)
    (lasts : ∀ worker ∈ state.workers, ∀ handler ∈ worker.handlers,
      handler.finishes ≤ connectionDrainTimeout → handler.finishes ≤ worker.lasts) :
    InTime state := by
  refine ⟨fun worker member => ⟨?_, ?_⟩, ?_, ?_⟩
  · exact fun handler listed _ _ => (started.runs worker member handler listed).2.2
  · exact fun handler listed _ short => lasts worker member handler listed short
  · intro deadline wake polling
    rw [started.stop] at polling
    cases polling
  · intro guards
    rw [started.stop] at guards
    cases guards

end Runs

/-! ## Handlers that are aborted -/

section Aborted

variable {workers : List Worker} {worker : Worker} {handler : Handler} {index : Nat}

theorem step_broadcast (workers : List Worker) :
    step ⟨0, .requested, workers⟩ .broadcast =
      some ⟨0, .polling acceptStopTimeout 0, workers⟩ := by
  simp only [step]
  rw [if_pos trivial, Nat.zero_add]

/-- A poll before the deadline is followed by the next one. -/
theorem step_poll {deadline now : Instant} (early : now < deadline)
    (unfinished : (State.mk now (.polling deadline now) workers).allFinished = false) :
    step ⟨now, .polling deadline now, workers⟩ .poll =
      some ⟨now, .polling deadline (now + stopPollInterval), workers⟩ := by
  simp only [step]
  rw [if_neg (Nat.lt_irrefl _), if_pos ⟨early, Bool.eq_false_iff.mp unfinished⟩]

/-- A poll at the deadline drops the guards. -/
theorem step_poll_deadline (deadline : Instant) (workers : List Worker) :
    step ⟨deadline, .polling deadline deadline, workers⟩ .poll =
      some ⟨deadline, .dropped, workers⟩ := by
  simp only [step]
  rw [if_neg (Nat.lt_irrefl _), if_neg fun early => Nat.lt_irrefl _ early.1]

/-- As long as some worker has not finished, the loop polls on time up to its deadline. -/
theorem reachable_polling (unfinished : (State.mk 0 .requested workers).allFinished = false)
    (rounds : Nat) (few : rounds ≤ 150) :
    Reachable step ⟨0, .requested, workers⟩
      ⟨rounds * stopPollInterval, .polling acceptStopTimeout (rounds * stopPollInterval),
        workers⟩ := by
  induction rounds with
  | zero =>
      have origin : Reachable step ⟨0, .requested, workers⟩ ⟨0, .requested, workers⟩ :=
        ⟨[], .start⟩
      rw [Nat.zero_mul]
      exact origin.next (step_broadcast workers)
  | succ rounds inductionHypothesis =>
      have early : rounds * stopPollInterval < acceptStopTimeout := by
        have small : ∀ rounds : Nat, rounds + 1 ≤ 150 →
            rounds * (20 * 1000000) < 3 * 1000000000 := by
          omega
        exact small rounds few
      have polled := (inductionHypothesis (Nat.le_of_succ_le few)).next
        (step_poll early unfinished)
      have waited : step ⟨rounds * stopPollInterval, .polling acceptStopTimeout
          (rounds * stopPollInterval + stopPollInterval), workers⟩ (.wait stopPollInterval) =
          some ⟨rounds * stopPollInterval + stopPollInterval, .polling acceptStopTimeout
            (rounds * stopPollInterval + stopPollInterval), workers⟩ := rfl
      rw [Nat.succ_mul]
      exact polled.next waited

/-- The guards are dropped at the timeout for the workers. -/
theorem reachable_dropped (unfinished : (State.mk 0 .requested workers).allFinished = false) :
    Reachable step ⟨0, .requested, workers⟩ ⟨acceptStopTimeout, .dropped, workers⟩ := by
  have last := reachable_polling unfinished 150 (Nat.le_refl _)
  have due : 150 * stopPollInterval = acceptStopTimeout := by
    simp [stopPollInterval, acceptStopTimeout, Duration.fromMillis, Duration.fromSecs]
  rw [due] at last
  exact last.next (step_poll_deadline acceptStopTimeout workers)

/-- A handler that still runs is aborted with its worker. -/
theorem not_spares_abortAll (member : handler ∈ worker.handlers) (early : handler.early = true)
    (unharmed : handler.aborted = false) (short : handler.finishes ≤ connectionDrainTimeout)
    {now : Instant} (runs : now < handler.finishes) : ¬(worker.abortAll now).Spares := by
  intro spares
  have running : handler.running now = true := by
    rw [Handler.running, unharmed, Bool.not_false, Bool.true_and]
    exact decide_eq_true runs
  have aborted : { handler with aborted := true } ∈ (worker.abortAll now).handlers :=
    List.mem_map.mpr ⟨handler, member, if_pos running⟩
  have kept := spares _ aborted early short
  cases kept

/-- Some run of the shutdown aborts a handler that was to be spared. -/
def SomeAborted (state : State) : Prop :=
  ∃ final, Reachable step state final ∧ ∃ worker ∈ final.workers, ¬worker.Spares

theorem someAborted_of_step {state after : State} {now : Instant}
    (reached : Reachable step state after) (listed : after.workers[index]? = some worker)
    (action : WorkerAction)
    (stepped : worker.step after.now (after.stop = .dropped) action = some (worker.abortAll now))
    (harmed : ¬(worker.abortAll now).Spares) : SomeAborted state := by
  have moves : step after (.worker index action) =
      some { after with workers := after.workers.set index (worker.abortAll now) } := by
    simp only [step]
    rw [listed]
    dsimp only
    rw [stepped]
    rfl
  have inside : index < after.workers.length := (List.getElem?_eq_some_iff.mp listed).1
  exact ⟨_, reached.next moves, _, List.mem_set inside _, harmed⟩

/-- A worker that is there at the timeout for the workers is cancelled with its handlers. -/
theorem someAborted_timeout (found : workers[index]? = some worker)
    (unfinished : worker.phase ≠ .finished) (harmed : ¬(worker.abortAll acceptStopTimeout).Spares) :
    SomeAborted ⟨0, .requested, workers⟩ := by
  have busy : (State.mk 0 .requested workers).allFinished = false := by
    rw [State.allFinished, List.all_eq_false]
    exact ⟨worker, List.mem_of_getElem? found, by simpa using unfinished⟩
  exact someAborted_of_step (reachable_dropped busy) found .cancelled
    (if_pos ⟨decide_eq_true rfl, unfinished⟩) harmed

/-- A drain that began before the signal ends at its own deadline. -/
theorem someAborted_drain (found : workers[index]? = some worker) {deadline : Instant}
    (draining : worker.phase = .draining deadline)
    (harmed : ¬(worker.abortAll deadline).Spares) : SomeAborted ⟨0, .requested, workers⟩ := by
  have origin : Reachable step ⟨0, .requested, workers⟩ ⟨0, .requested, workers⟩ := ⟨[], .start⟩
  have waited : step ⟨0, .requested, workers⟩ (.wait deadline) =
      some ⟨deadline, .requested, workers⟩ := by
    rw [step, Nat.zero_add]
  refine someAborted_of_step (origin.next waited) found .drainTimeout ?_ harmed
  simp only [Worker.step]
  rw [draining]
  exact if_pos (Nat.le_refl _)

/-- A handler that outlasts the first of the deadlines of its worker is aborted in some run. -/
theorem someAborted_of_outlasts {state : State} (started : Started state)
    (member : worker ∈ state.workers) (listed : handler ∈ worker.handlers)
    (short : handler.finishes ≤ connectionDrainTimeout)
    (outlasts : worker.lasts < handler.finishes) : SomeAborted state := by
  obtain ⟨now, stop, workers⟩ := state
  obtain rfl : now = 0 := started.now
  obtain rfl : stop = .requested := started.stop
  obtain ⟨_, early, unharmed⟩ := started.runs worker member handler listed
  obtain ⟨index, found⟩ := List.mem_iff_getElem?.mp member
  cases phase : worker.phase with
  | accepting =>
      have late : acceptStopTimeout < handler.finishes := by
        rwa [Worker.lasts, phase] at outlasts
      have unfinished : worker.phase ≠ .finished := by
        rw [phase]
        exact Phase.noConfusion
      exact someAborted_timeout found unfinished
        (not_spares_abortAll listed early unharmed short late)
  | draining deadline =>
      have first : min acceptStopTimeout deadline < handler.finishes := by
        rwa [Worker.lasts, phase] at outlasts
      rcases Nat.le_total acceptStopTimeout deadline with ordered | ordered
      · rw [Nat.min_eq_left ordered] at first
        have unfinished : worker.phase ≠ .finished := by
          rw [phase]
          exact Phase.noConfusion
        exact someAborted_timeout found unfinished
          (not_spares_abortAll listed early unharmed short first)
      · rw [Nat.min_eq_right ordered] at first
        exact someAborted_drain found phase
          (not_spares_abortAll listed early unharmed short first)
  | finished =>
      rw [started.left worker member phase] at listed
      cases listed

/-- Every handler that runs at the signal and finishes within the drain timeout is spared in
every run exactly when it finishes before the deadlines that its worker has: the timeout for
the workers, and the end of a drain that began before the signal. -/
theorem spares_iff (state : State) (started : Started state) :
    (∀ final, Reachable step state final → ∀ worker ∈ final.workers, worker.Spares) ↔
      ∀ worker ∈ state.workers, ∀ handler ∈ worker.handlers,
        handler.finishes ≤ connectionDrainTimeout → handler.finishes ≤ worker.lasts := by
  constructor
  · intro every worker member handler listed short
    by_contra outlasts
    obtain ⟨final, reached, other, present, harmed⟩ :=
      someAborted_of_outlasts started member listed short (Nat.not_le.mp outlasts)
    exact harmed (every final reached other present)
  · intro lasts final reached worker member
    have inTime : InTime final :=
      Reachable.invariant (.of_started started lasts)
        (fun _ _ _ inTime moves => inTime.preserved moves) reached
    exact (inTime.workers worker member).spares

end Aborted

/-- One worker that accepts, with handlers that finish at the given seconds. -/
def acceptingStart (seconds : List Nat) : State :=
  ⟨0, .requested,
    [⟨.accepting, seconds.map fun finishes => ⟨Duration.fromSecs finishes, true, false⟩⟩]⟩

theorem started_acceptingStart {seconds : List Nat} (running : ∀ finishes ∈ seconds, 0 < finishes) :
    Started (acceptingStart seconds) where
  now := rfl
  stop := rfl
  runs := by
    intro worker member handler listed
    obtain rfl := List.mem_singleton.mp member
    obtain ⟨finishes, given, rfl⟩ := List.mem_map.mp listed
    have positive : 0 < 1000000000 := by decide
    exact ⟨Nat.mul_pos (running finishes given) positive, rfl, rfl⟩
  left := by
    intro worker member finished
    obtain rfl := List.mem_singleton.mp member
    cases finished

/-- The worker drains, and the loop polls until its deadline. -/
def drainSchedule : List Action :=
  [.broadcast, .worker 0 .stopAccepting] ++
    (List.replicate 150 [.poll, .wait stopPollInterval]).flatten ++ [.poll, .worker 0 .cancelled]

theorem drain_cutShort :
    Started (acceptingStart [4]) ∧
      ∃ final, Reachable step (acceptingStart [4]) final ∧ final.now = Duration.fromSecs 3 ∧
        final.workers = [⟨.finished, [⟨Duration.fromSecs 4, true, true⟩]⟩] ∧
        ∃ worker ∈ final.workers, ¬worker.Spares := by
  have executed : exec step (acceptingStart [4]) drainSchedule =
      some ⟨Duration.fromSecs 3, .dropped, [⟨.finished, [⟨Duration.fromSecs 4, true, true⟩]⟩]⟩ := by
    decide +kernel
  refine ⟨started_acceptingStart (by decide), _, reachable_of_exec executed, rfl, rfl, _,
    List.mem_singleton_self _, fun spares => ?_⟩
  have kept := spares _ (List.mem_singleton_self _) rfl (by decide)
  cases kept

/-- Handlers of two, three and seven seconds. -/
theorem spares_iff_quick :
    Started (acceptingStart [2, 3, 7]) ∧
      ∀ final, Reachable step (acceptingStart [2, 3, 7]) final →
        ∀ worker ∈ final.workers, worker.Spares :=
  ⟨started_acceptingStart (by decide),
    (spares_iff (acceptingStart [2, 3, 7]) (started_acceptingStart (by decide))).mpr (by decide)⟩

end Juicity.Server.Shutdown
