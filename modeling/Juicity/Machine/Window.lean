import Mathlib.Data.List.DropRight

/-!
Contract: a window onto the newest items of a growing list.

An item that comes into a full window pushes the oldest one out. So the window is
always the end of the list, as long as the window is wide at most.
-/

namespace Juicity.Machine.Window

variable {α : Type} {capacity : Nat}

/-- The window after a further item. -/
def slide (capacity : Nat) (window : List α) (item : α) : List α :=
  (if window.length = capacity then window.tail else window) ++ [item]

theorem length_rtake (items : List α) :
    (items.rtake capacity).length = min capacity items.length := by
  rw [List.rtake, List.length_drop]
  omega

/-- A window that holds the newest items still does after a further one. -/
theorem slide_rtake (positive : 0 < capacity) (items : List α) (item : α) :
    slide capacity (items.rtake capacity) item = (items ++ [item]).rtake capacity := by
  obtain ⟨below, rfl⟩ := Nat.exists_eq_add_one.mpr positive
  rw [slide, List.rtake_concat_succ, length_rtake]
  congr 1
  split
  next full =>
    have start : items.length - (below + 1) + 1 = items.length - below := by omega
    rw [List.rtake, List.rtake, List.tail_drop, start]
  next room =>
    have near : items.length - (below + 1) = items.length - below := by omega
    rw [List.rtake, List.rtake, near]

end Juicity.Machine.Window
