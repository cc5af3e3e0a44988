import Mathlib.Logic.Function.Basic
import Mathlib.Tactic.Common

/-!
Contract: one-shot wake-ups with generations.

A `Registry` hands out notification objects and counts, for each, how often all
its waiters were woken. A `Notified` remembers the count at its creation, so it
is woken by exactly the wake-ups after its creation and no permit is stored for
later ones. A notified that is not woken yet is `Pending`: its generation is
the current one. Every protocol over the registry therefore keeps, for each
waiter, "woken, or pending and somebody will notify".
-/

namespace Juicity.Machine

/-- Notification objects `0, …, fresh - 1` and how often each was signalled. -/
structure Registry where
  calls : Nat → Nat
  fresh : Nat

/-- A future that completes once its object is signalled after its creation. -/
structure Notified where
  id : Nat
  generation : Nat
deriving DecidableEq, Repr

namespace Registry

/-- No object has been handed out. -/
def empty : Registry := ⟨fun _ => 0, 0⟩

/-- A new object; its identifier is the old `fresh`. -/
def alloc (registry : Registry) : Registry := { registry with fresh := registry.fresh + 1 }

/-- Wake every future created on `id` so far. -/
def notifyWaiters (registry : Registry) (id : Nat) : Registry :=
  { registry with calls := Function.update registry.calls id (registry.calls id + 1) }

/-- Wake every future created so far on any of the listed objects. -/
def notifyAll (registry : Registry) (ids : List Nat) : Registry :=
  ids.foldl notifyWaiters registry

/-- Create a future on `id`. -/
def notified (registry : Registry) (id : Nat) : Notified := ⟨id, registry.calls id⟩

/-- The future is complete. -/
def Woken (registry : Registry) (future : Notified) : Prop :=
  future.generation < registry.calls future.id

/-- The future is not complete and the next signal on its object completes it. -/
def Pending (registry : Registry) (future : Notified) : Prop :=
  future.generation = registry.calls future.id

instance (registry : Registry) (future : Notified) : Decidable (registry.Woken future) :=
  inferInstanceAs (Decidable (future.generation < registry.calls future.id))

theorem notifyWaiters_calls_ne (registry : Registry) {id other : Nat} (different : other ≠ id) :
    (registry.notifyWaiters id).calls other = registry.calls other := by
  simp [notifyWaiters, different]

theorem pending_notified (registry : Registry) (id : Nat) :
    registry.Pending (registry.notified id) := rfl

theorem Pending.not_woken {registry : Registry} {future : Notified}
    (pending : registry.Pending future) : ¬ registry.Woken future := by
  unfold Woken
  rw [pending]
  exact Nat.lt_irrefl _

/-- A complete future stays complete. -/
theorem Woken.notifyWaiters {registry : Registry} {future : Notified}
    (woken : registry.Woken future) (id : Nat) : (registry.notifyWaiters id).Woken future := by
  unfold Woken at woken ⊢
  by_cases same : future.id = id
  · subst same
    simp only [Registry.notifyWaiters, Function.update_self]
    omega
  · rw [notifyWaiters_calls_ne registry same]
    exact woken

/-- A signal completes the futures pending on its object. -/
theorem Pending.woken_of_notify {registry : Registry} {future : Notified}
    (pending : registry.Pending future) :
    (registry.notifyWaiters future.id).Woken future := by
  unfold Woken
  rw [pending]
  simp [notifyWaiters]

/-- After a signal a pending future is complete, or pending on another object. -/
theorem Pending.notifyWaiters {registry : Registry} {future : Notified}
    (pending : registry.Pending future) (id : Nat) :
    (registry.notifyWaiters id).Woken future ∨
      (future.id ≠ id ∧ (registry.notifyWaiters id).Pending future) := by
  by_cases same : future.id = id
  · subst same
    exact .inl pending.woken_of_notify
  · refine .inr ⟨same, ?_⟩
    unfold Pending
    rw [notifyWaiters_calls_ne registry same]
    exact pending

/-- Who is woken, or pending under a promise, is so after a signal too, if the signal of another
object keeps the promise. -/
theorem covered_notifyWaiters {registry : Registry} {future : Notified} {before after : Prop}
    (id : Nat) (covered : registry.Woken future ∨ registry.Pending future ∧ before)
    (kept : future.id ≠ id → before → after) :
    (registry.notifyWaiters id).Woken future ∨
      (registry.notifyWaiters id).Pending future ∧ after := by
  rcases covered with woken | ⟨pending, promised⟩
  · exact .inl (woken.notifyWaiters id)
  · rcases pending.notifyWaiters id with woken | ⟨different, stillPending⟩
    · exact .inl woken
    · exact .inr ⟨stillPending, kept different promised⟩

/-- A complete future stays complete under any number of signals. -/
theorem Woken.notifyAll {registry : Registry} {future : Notified}
    (woken : registry.Woken future) (ids : List Nat) : (registry.notifyAll ids).Woken future := by
  induction ids generalizing registry with
  | nil => exact woken
  | cons id rest inductionHypothesis => exact inductionHypothesis (woken.notifyWaiters id)

/-- Signalling a list of objects completes the futures pending on one of them
and leaves the others pending. -/
theorem Pending.notifyAll {registry : Registry} {future : Notified}
    (pending : registry.Pending future) (ids : List Nat) :
    (registry.notifyAll ids).Woken future ∨
      (future.id ∉ ids ∧ (registry.notifyAll ids).Pending future) := by
  induction ids generalizing registry with
  | nil => exact .inr ⟨by simp, pending⟩
  | cons id rest inductionHypothesis =>
      rcases pending.notifyWaiters id with woken | ⟨different, stillPending⟩
      · exact .inl (woken.notifyAll rest)
      · rcases inductionHypothesis stillPending with woken | ⟨unlisted, left⟩
        · exact .inl woken
        · exact .inr ⟨by simp [different, unlisted], left⟩

end Registry

end Juicity.Machine
