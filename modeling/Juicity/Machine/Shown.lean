import Mathlib.Tactic.Common

/-!
Contract: copies of what a state shows, refreshed part by part.

A state shows something for each of its parts, and somebody keeps a copy of each.
A call names the parts it may have changed, and only those are copied again. The
module owns the rules for such reports: a report is never wrong when it names more
parts, calls in a row are covered by what any of them names, and copies that are
refreshed by complete reports are always up to date.
-/

namespace Juicity.Machine

section Shown

variable {Part State : Type} {Shows : Part → Type} (view : (part : Part) → State → Shows part)

/-- Between the two states only the named parts changed. -/
def Reports (named : Part → Bool) (before after : State) : Prop :=
  ∀ part, named part = false → view part after = view part before

/-- Every copy is what the state shows. -/
def UpToDate (copies : (part : Part) → Shows part) (state : State) : Prop :=
  ∀ part, copies part = view part state

/-- The named parts are copied again. -/
def refresh (named : Part → Bool) (copies : (part : Part) → Shows part) (state : State)
    (part : Part) : Shows part :=
  if named part then view part state else copies part

variable {view} {named more : Part → Bool} {before middle after state : State}
  {copies : (part : Part) → Shows part}

theorem Reports.refl : Reports view named state state := fun _ _ => rfl

theorem Reports.of_eq (same : ∀ part, view part after = view part before) :
    Reports view named before after :=
  fun part _ => same part

theorem Reports.mono (reports : Reports view named before after)
    (weaker : ∀ part, named part = true → more part = true) : Reports view more before after := by
  intro part silent
  refine reports part (Bool.eq_false_iff.mpr fun given => ?_)
  rw [weaker part given] at silent
  cases silent

/-- Two calls in a row are covered by what either names. -/
theorem Reports.trans (first : Reports view named before middle)
    (second : Reports view more middle after) :
    Reports view (fun part => named part || more part) before after := by
  intro part silent
  obtain ⟨left, right⟩ := Bool.or_eq_false_iff.mp silent
  exact (second part right).trans (first part left)

/-- Complete reports keep the copies up to date. -/
theorem UpToDate.refresh (current : UpToDate view copies before)
    (reports : Reports view named before after) :
    UpToDate view (refresh view named copies after) after := by
  intro part
  unfold Machine.refresh
  cases given : named part with
  | true => rfl
  | false =>
      calc
        copies part = view part before := current part
        _ = view part after := (reports part given).symm

/-- Copies that are all taken anew are up to date. -/
theorem upToDate_refresh (all : ∀ part, named part = true) :
    UpToDate view (refresh view named copies state) state := by
  intro part
  unfold refresh
  rw [all part]
  rfl

end Shown

end Juicity.Machine
