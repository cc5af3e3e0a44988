import Juicity.Machine.Run

/-!
Contract: runs that spend a potential. When every step costs no more than the
potential it takes away, the costs of a run add up to no more than the potential
it started with.
-/

namespace Juicity.Machine

universe u v

variable {State : Type u} {Action : Type v} {step : State → Action → Option State}
  {origin final : State} {history : List (State × Action)}

/-- What the actions of a history cost. -/
def spent (cost : Action → Nat) (history : List (State × Action)) : Nat :=
  history.foldl (fun total entry => total + cost entry.2) 0

theorem spent_snoc (cost : Action → Nat) (history : List (State × Action))
    (state : State) (action : Action) :
    spent cost (history ++ [(state, action)]) = spent cost history + cost action := by
  simp [spent]

/-- When each action costs one, a history costs its length. -/
theorem spent_one (history : List (State × Action)) :
    spent (fun _ => 1) history = history.length := by
  have counted : ∀ (history : List (State × Action)) (total : Nat),
      history.foldl (fun total _ => total + 1) total = total + history.length := by
    intro history
    induction history with
    | nil => exact fun total => rfl
    | cons entry history inductionHypothesis =>
        intro total
        rw [List.foldl_cons, inductionHypothesis, List.length_cons]
        omega
  exact (counted history 0).trans (Nat.zero_add _)

theorem Run.spent_le {inv : State → Prop} {cost : Action → Nat} {potential : State → Nat}
    (initial : inv origin)
    (preserved : ∀ state action after, inv state → step state action = some after → inv after)
    (spends : ∀ state action after, inv state → step state action = some after →
      cost action + potential after ≤ potential state)
    (run : Run step origin history final) :
    spent cost history + potential final ≤ potential origin ∧ inv final := by
  induction run with
  | start => exact ⟨Nat.le_of_eq (Nat.zero_add _), initial⟩
  | @next history state after action before taken inductionHypothesis =>
      obtain ⟨earlier, held⟩ := inductionHypothesis
      have last := spends state action after held taken
      refine ⟨?_, preserved state action after held taken⟩
      rw [spent_snoc]
      omega

end Juicity.Machine
