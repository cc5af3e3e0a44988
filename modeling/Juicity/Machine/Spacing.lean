import Mathlib.Algebra.BigOperators.Intervals
import Mathlib.Algebra.Order.Group.Nat

/-!
Contract: times of events that keep a distance. Each event lies its delay or more
behind the one before it, so the delays between two events add up.
-/

namespace Juicity.Machine

/-- The delay of an index is that between the event there and the next. -/
def Spaced (delay : Nat → Nat) (times : List Nat) : Prop :=
  ∀ index earlier later, times[index]? = some earlier → times[index + 1]? = some later →
    earlier + delay index ≤ later

variable {delay : Nat → Nat} {times : List Nat}

theorem spaced_nil : Spaced delay [] := by
  intro index earlier later found
  cases found

/-- An event that waits for the delay of the last one. -/
theorem Spaced.snoc (spaced : Spaced delay times) (time : Nat)
    (waited : ∀ last, times.getLast? = some last → last + delay (times.length - 1) ≤ time) :
    Spaced delay (times ++ [time]) := by
  intro index earlier later foundEarlier foundLater
  have within : index + 1 < times.length + 1 := by
    rw [← List.length_singleton (a := time), ← List.length_append]
    exact (List.getElem?_eq_some_iff.mp foundLater).1
  rw [List.getElem?_append_left (by omega)] at foundEarlier
  by_cases last : index + 1 = times.length
  · rw [List.getElem?_append_right (by omega), last, Nat.sub_self] at foundLater
    obtain rfl := Option.some.inj foundLater
    have ends : times.getLast? = some earlier := by
      rw [List.getLast?_eq_getElem?, ← last, Nat.add_sub_cancel, foundEarlier]
    have long := waited earlier ends
    rw [← last, Nat.add_sub_cancel] at long
    exact long
  · rw [List.getElem?_append_left (by omega)] at foundLater
    exact spaced index earlier later foundEarlier foundLater

/-- The delays between the first event and a later one add up. -/
theorem Spaced.sum_le {first : Nat} (spaced : Spaced delay times)
    (starts : times[0]? = some first) (index last : Nat) (found : times[index]? = some last) :
    first + ∑ before ∈ Finset.range index, delay before ≤ last := by
  induction index generalizing last with
  | zero =>
      rw [Finset.sum_range_zero]
      exact Nat.le_of_eq (Option.some.inj (starts.symm.trans found))
  | succ index inductionHypothesis =>
      have within : index < times.length :=
        Nat.lt_of_succ_lt (List.getElem?_eq_some_iff.mp found).1
      have earlier := List.getElem?_eq_getElem within
      rw [Finset.sum_range_succ, ← Nat.add_assoc]
      exact Nat.le_trans (Nat.add_le_add_right (inductionHypothesis _ earlier) _)
        (spaced index _ last earlier found)

end Juicity.Machine
