import Mathlib.Data.List.Basic
import Mathlib.Tactic.Common

/-!
Contract: a first-in first-out mutex for tasks that suspend.

A released permit is handed to the first queued task at once, so the mutex is
free only while nobody queues: the field `fair` keeps the other states from
being built. `holder` is the task that owns the permit or has been handed it
and has not run yet; `tryLock` fails in both cases. A task that is dropped
gives up its permit or its place in the queue.
-/

namespace Juicity.Machine

universe u

/-- Who owns (or was handed) the permit, and who waits for it, first come first. -/
structure FairMutex (Task : Type u) where
  holder : Option Task
  queue : List Task
  fair : holder = none → queue = []

namespace FairMutex

variable {Task : Type u}

/-- Nobody holds the mutex. -/
def free : FairMutex Task := ⟨none, [], fun _ => rfl⟩

/-- The task asks for the mutex and takes it when it is free. -/
def lock (mutex : FairMutex Task) (task : Task) : FairMutex Task :=
  match mutex.holder with
  | none => ⟨some task, [], fun impossible => nomatch impossible⟩
  | some owner => ⟨some owner, mutex.queue ++ [task], fun impossible => nomatch impossible⟩

/-- The permit passes to the first queued task. -/
def release (mutex : FairMutex Task) : FairMutex Task :=
  match mutex.queue with
  | [] => free
  | next :: rest => ⟨some next, rest, fun impossible => nomatch impossible⟩

/-- `try_lock` succeeds exactly when nobody holds or was handed the permit. -/
def tryLock (mutex : FairMutex Task) : Bool := mutex.holder.isNone

theorem tryLock_iff {mutex : FairMutex Task} : mutex.tryLock = true ↔ mutex.holder = none := by
  simp [tryLock]

theorem lock_holder {mutex : FairMutex Task} {task owner : Task}
    (held : mutex.holder = some owner) : (mutex.lock task).holder = some owner := by
  unfold lock
  split
  · rename_i unheld
    rw [held] at unheld
    cases unheld
  · rename_i current currentHeld
    rw [held] at currentHeld
    exact currentHeld.symm

variable [DecidableEq Task]

/-- The task is dropped: it gives up its place in the queue and its permit. -/
def abandon (mutex : FairMutex Task) (task : Task) : FairMutex Task :=
  let queue := mutex.queue.filter (· ≠ task)
  if mutex.holder = some task then
    match queue with
    | [] => free
    | next :: rest => ⟨some next, rest, fun impossible => nomatch impossible⟩
  else
    ⟨mutex.holder, queue, fun none => by simp [queue, mutex.fair none]⟩

/-- What a task can do to the mutex; it releases only what it holds. -/
inductive Move (task : Task) (mutex : FairMutex Task) : FairMutex Task → Prop where
  | keep : Move task mutex mutex
  | lock : Move task mutex (mutex.lock task)
  | release (held : mutex.holder = some task) : Move task mutex mutex.release
  | abandon : Move task mutex (mutex.abandon task)

theorem abandon_holder {mutex : FairMutex Task} {task owner : Task}
    (held : mutex.holder = some owner) (other : owner ≠ task) :
    (mutex.abandon task).holder = some owner := by
  have notMine : mutex.holder ≠ some task := by
    rw [held]
    simpa using other
  unfold abandon
  rw [if_neg notMine]
  exact held

/-- Nobody else can take the mutex from its owner. -/
theorem Move.holder {mutex after : FairMutex Task} {task owner : Task}
    (move : mutex.Move task after) (held : mutex.holder = some owner) (other : owner ≠ task) :
    after.holder = some owner := by
  cases move with
  | keep => exact held
  | lock => exact lock_holder held
  | release mine =>
      rw [held] at mine
      exact absurd (Option.some.inj mine) other
  | abandon => exact abandon_holder held other

end FairMutex

end Juicity.Machine
