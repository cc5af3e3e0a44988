import Mathlib.Data.List.Basic
import Mathlib.Tactic.Common

/-!
Contract: moving the elements to keep to the front of a sequence, in place and
in order. A scan looks at one position after the other and exchanges each
element it keeps with the first position not yet taken by a kept one. The
sequence is a function of the position, so that several arrays exchanged
together are one sequence of tuples.
-/

namespace Juicity.Machine

universe u

variable {α : Type u}

/-- Two positions exchanged. -/
def exchanged (slots : Nat → α) (i j : Nat) : Nat → α := fun k =>
  if k = i then slots j else if k = j then slots i else slots k

/-- After a scan of the first `scanned` positions the first `keep` hold the kept
elements, and the positions ahead are as they were. -/
structure Compacted (keeps : α → Bool) (before after : Nat → α) (scanned keep : Nat) : Prop where
  within : keep ≤ scanned
  kept : (List.range keep).map after = ((List.range scanned).map before).filter keeps
  ahead : ∀ k, scanned ≤ k → after k = before k

namespace Compacted

variable {keeps : α → Bool} {before after : Nat → α} {scanned keep : Nat}

theorem start : Compacted keeps before before 0 0 where
  within := Nat.le_refl 0
  kept := rfl
  ahead := fun _ _ => rfl

/-- The next element is left where it is. -/
theorem skip (compacted : Compacted keeps before after scanned keep)
    (dropped : keeps (before scanned) = false) :
    Compacted keeps before after (scanned + 1) keep where
  within := Nat.le_succ_of_le compacted.within
  kept := by
    rw [List.range_succ, List.map_append, List.filter_append, compacted.kept]
    simp [dropped]
  ahead := fun k beyond => compacted.ahead k (Nat.le_of_succ_le beyond)

/-- The next element goes behind the kept ones. -/
theorem take (compacted : Compacted keeps before after scanned keep)
    (taken : keeps (before scanned) = true) :
    Compacted keeps before (exchanged after keep scanned) (scanned + 1) (keep + 1) where
  within := Nat.succ_le_succ compacted.within
  kept := by
    have front : (List.range keep).map (exchanged after keep scanned) =
        (List.range keep).map after := by
      apply List.map_congr_left
      intro k member
      have low : k < keep := List.mem_range.mp member
      have notFirst : k ≠ keep := Nat.ne_of_lt low
      have notLast : k ≠ scanned := Nat.ne_of_lt (Nat.lt_of_lt_of_le low compacted.within)
      simp [exchanged, notFirst, notLast]
    have last : exchanged after keep scanned keep = before scanned := by
      simp [exchanged, compacted.ahead scanned (Nat.le_refl _)]
    rw [List.range_succ, List.map_append, front, compacted.kept, List.range_succ,
      List.map_append, List.filter_append]
    simp [last, taken]
  ahead := by
    intro k beyond
    have notLast : k ≠ scanned := Nat.ne_of_gt beyond
    have notFirst : k ≠ keep := Nat.ne_of_gt (Nat.lt_of_le_of_lt compacted.within beyond)
    simp [exchanged, notFirst, notLast, compacted.ahead k (Nat.le_of_succ_le beyond)]

end Compacted

theorem exchanged_self (slots : Nat → α) (i : Nat) : exchanged slots i i = slots := by
  funext k
  by_cases same : k = i
  · simp [exchanged, same]
  · simp [exchanged, same]

/-- An array after an exchange of two of its positions. -/
theorem getElem?_swapIfInBounds {array : Array α} {i j : Nat} (left : i < array.size)
    (right : j < array.size) :
    (fun k => (array.swapIfInBounds i j)[k]?) = exchanged (fun k => array[k]?) i j := by
  funext k
  rw [Array.swapIfInBounds, dif_pos left, dif_pos right, Array.getElem?_swap]
  unfold exchanged
  dsimp only
  by_cases isFirst : k = i
  · subst isFirst
    rw [if_pos rfl, if_pos rfl, Array.getElem?_eq_getElem right]
    by_cases isLast : j = k
    · subst isLast
      rw [if_pos rfl]
    · rw [if_neg isLast]
  · rw [if_neg isFirst, if_neg (Ne.symm isFirst), Array.getElem?_eq_getElem left]
    by_cases isLast : k = j
    · rw [if_pos isLast, if_pos isLast.symm]
    · rw [if_neg isLast, if_neg (Ne.symm isLast)]

end Juicity.Machine
