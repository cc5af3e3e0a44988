import Mathlib.Logic.Function.Basic
import Mathlib.Tactic.Common

/-!
Contract: families of tasks of which one moves at a time. A step replaces the
record of a single task; what holds of the new record and of every other old
record then holds of all records, and what the mover keeps all keep.
-/

namespace Juicity.Machine

universe u v w

variable {Index : Type u} {Task : Type v} [DecidableEq Index]

/-- Only `mover` moves, and its record becomes `moved`. -/
def Moves (before after : Index → Task) (mover : Index) (moved : Task) : Prop :=
  after = Function.update before mover moved

namespace Moves

variable {before after : Index → Task} {mover other : Index} {moved : Task}

theorem self (moves : Moves before after mover moved) : after mover = moved := by
  rw [moves, Function.update_self]

theorem of_ne (moves : Moves before after mover moved) (different : other ≠ mover) :
    after other = before other := by
  rw [moves, Function.update_of_ne different]

theorem forall_tasks (moves : Moves before after mover moved) {motive : Index → Task → Prop}
    (self : motive mover moved)
    (others : ∀ other, other ≠ mover → motive other (before other)) (other : Index) :
    motive other (after other) := by
  by_cases same : other = mover
  · rw [same, moves.self]
    exact self
  · rw [moves.of_ne same]
    exact others other same

theorem view_eq {View : Type w} (moves : Moves before after mover moved) (view : Task → View)
    (kept : view moved = view (before mover)) (other : Index) :
    view (after other) = view (before other) := by
  apply moves.forall_tasks (motive := fun other task => view task = view (before other))
  · exact kept
  · exact fun _ _ => rfl

end Moves

end Juicity.Machine
