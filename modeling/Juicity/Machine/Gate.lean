import Mathlib.Data.List.Basic
import Mathlib.Tactic.Common

/-!
Contract: a counting semaphore whose permits are owned. A permit is free, in the
hand of the one who asks for it, or with the task it was given to, until that
task leaves.
-/

namespace Juicity.Machine

universe u

/-- The free permits, and the tasks that hold one. -/
structure Gate (Task : Type u) where
  free : Nat
  live : List Task
deriving DecidableEq

namespace Gate

variable {Task : Type u}

def full (limit : Nat) : Gate Task := ⟨limit, []⟩

/-- Take a free permit in hand. -/
def acquire (gate : Gate Task) : Option (Gate Task) :=
  match gate.free with
  | 0 => none
  | free + 1 => some { gate with free }

/-- Put the permit in hand back. -/
def release (gate : Gate Task) : Gate Task := { gate with free := gate.free + 1 }

/-- Give the permit in hand to a task. -/
def give (gate : Gate Task) (task : Task) : Gate Task := { gate with live := gate.live ++ [task] }

/-- A task ends, and its permit is free again. -/
def leave [DecidableEq Task] (gate : Gate Task) (task : Task) : Option (Gate Task) :=
  if task ∈ gate.live then some ⟨gate.free + 1, gate.live.erase task⟩ else none

/-- No permit is lost or made up: those that are neither free nor with a task are in hand. -/
def Keeps (limit hand : Nat) (gate : Gate Task) : Prop :=
  gate.free + hand + gate.live.length = limit

section Permits

variable {limit hand : Nat} {gate after : Gate Task} {task : Task}

theorem keeps_full (limit : Nat) : Keeps limit 0 (full limit : Gate Task) := rfl

theorem acquire_eq_none_iff : gate.acquire = none ↔ gate.free = 0 := by
  unfold acquire
  split
  · rename_i none
    simp [none]
  · rename_i free some
    simp [some]

theorem live_acquire (acquired : gate.acquire = some after) :
    gate.free = after.free + 1 ∧ after.live = gate.live := by
  unfold acquire at acquired
  split at acquired
  · cases acquired
  · rename_i free here
    obtain rfl := Option.some.inj acquired
    exact ⟨here, rfl⟩

theorem Keeps.acquire (keeps : Keeps limit hand gate) (acquired : gate.acquire = some after) :
    Keeps limit (hand + 1) after := by
  obtain ⟨free, live⟩ := live_acquire acquired
  unfold Keeps at keeps ⊢
  rw [live]
  omega

theorem Keeps.release (keeps : Keeps limit (hand + 1) gate) : Keeps limit hand gate.release := by
  unfold Keeps Gate.release at *
  dsimp only
  omega

theorem Keeps.give (keeps : Keeps limit (hand + 1) gate) (task : Task) :
    Keeps limit hand (gate.give task) := by
  change gate.free + hand + (gate.live ++ [task]).length = limit
  unfold Keeps at keeps
  rw [List.length_append, List.length_singleton]
  omega

theorem Keeps.live_le (keeps : Keeps limit hand gate) : gate.live.length ≤ limit := by
  unfold Keeps at keeps
  omega

/-- Nobody gets in exactly when all permits are in hand or with tasks. -/
theorem Keeps.acquire_eq_none_iff (keeps : Keeps limit hand gate) :
    gate.acquire = none ↔ hand + gate.live.length = limit := by
  rw [Gate.acquire_eq_none_iff]
  unfold Keeps at keeps
  omega

variable [DecidableEq Task]

theorem cases_of_leave (left : gate.leave task = some after) :
    task ∈ gate.live ∧ after = ⟨gate.free + 1, gate.live.erase task⟩ := by
  unfold leave at left
  split at left
  · rename_i member
    exact ⟨member, (Option.some.inj left).symm⟩
  · cases left

theorem leave_isSome_iff : (gate.leave task).isSome = true ↔ task ∈ gate.live := by
  unfold leave
  split
  · rename_i member
    simp [member]
  · rename_i missing
    simp [missing]

theorem length_leave (left : gate.leave task = some after) :
    gate.live.length = after.live.length + 1 := by
  obtain ⟨member, rfl⟩ := cases_of_leave left
  have positive := List.length_pos_of_mem member
  rw [List.length_erase_of_mem member]
  omega

theorem sublist_leave (left : gate.leave task = some after) : after.live.Sublist gate.live := by
  obtain ⟨-, rfl⟩ := cases_of_leave left
  exact List.erase_sublist

theorem Keeps.leave (keeps : Keeps limit hand gate) (left : gate.leave task = some after) :
    Keeps limit hand after := by
  have length := length_leave left
  obtain ⟨-, rfl⟩ := cases_of_leave left
  unfold Keeps at keeps ⊢
  dsimp only at length ⊢
  omega

end Permits

end Gate

end Juicity.Machine
