import Mathlib.Logic.Basic
import Mathlib.Data.List.Basic
import Mathlib.Tactic.Common

/-!
Contract: runs of an executable step function.

A system is given by `step : State → Action → Option State`; `none` means that
the action is not enabled. A run records every state left and the action taken
there, so that a property of all states of a run and a condition on all its
steps can both be stated. The module owns the three rules the developments
above it use: an invariant of every run, an invariant of the runs whose steps
are allowed, and the equivalence between "every state is good" and "every step
is allowed" when the first disallowed step leaves the good states.
-/

namespace Juicity.Machine

universe u v

variable {State : Type u} {Action : Type v}

/-- A run from `origin`: the steps taken, oldest first, and the state reached. -/
inductive Run (step : State → Action → Option State) (origin : State) :
    List (State × Action) → State → Prop where
  | start : Run step origin [] origin
  | next {history : List (State × Action)} {state after : State} {action : Action}
      (before : Run step origin history state)
      (taken : step state action = some after) :
      Run step origin (history ++ [(state, action)]) after

/-- `good` holds in every state of the run, the last one included. -/
def Everywhere (good : State → Prop) (history : List (State × Action)) (final : State) : Prop :=
  (∀ entry ∈ history, good entry.1) ∧ good final

/-- Every step of the run meets `allowed` in the state it is taken from. -/
def Allowed (allowed : State → Action → Prop) (history : List (State × Action)) : Prop :=
  ∀ entry ∈ history, allowed entry.1 entry.2

/-- Some run ends in the state. -/
def Reachable (step : State → Action → Option State) (origin state : State) : Prop :=
  ∃ history, Run step origin history state

/-- The steps by the permitted actions. -/
def within (permitted : Action → Bool) (step : State → Action → Option State) (state : State)
    (action : Action) : Option State :=
  if permitted action then step state action else none

section Rules

variable {step : State → Action → Option State} {origin : State}
  {allowed : State → Action → Prop} {inv good : State → Prop}

theorem within_eq_some {permitted : Action → Bool} {state after : State} {action : Action} :
    within permitted step state action = some after ↔
      permitted action = true ∧ step state action = some after :=
  Option.ite_none_right_eq_some

@[simp] theorem allowed_nil : Allowed allowed ([] : List (State × Action)) := by
  simp [Allowed]

theorem allowed_snoc {history : List (State × Action)} {state : State} {action : Action} :
    Allowed allowed (history ++ [(state, action)]) ↔
      Allowed allowed history ∧ allowed state action := by
  constructor
  · intro every
    refine ⟨fun entry member => every entry (by simp [member]), ?_⟩
    exact every (state, action) (by simp)
  · rintro ⟨earlier, last⟩ entry member
    rcases List.mem_append.mp member with old | new
    · exact earlier entry old
    · rw [List.mem_singleton.mp new]
      exact last

theorem everywhere_snoc {history : List (State × Action)} {state after : State}
    {action : Action} :
    Everywhere good (history ++ [(state, action)]) after ↔
      Everywhere good history state ∧ good after := by
  constructor
  · rintro ⟨every, last⟩
    refine ⟨⟨fun entry member => every entry (by simp [member]), ?_⟩, last⟩
    exact every (state, action) (by simp)
  · rintro ⟨⟨earlier, here⟩, last⟩
    refine ⟨fun entry member => ?_, last⟩
    rcases List.mem_append.mp member with old | new
    · exact earlier entry old
    · rw [List.mem_singleton.mp new]
      exact here

theorem Everywhere.mono {strong weak : State → Prop}
    (weaker : ∀ state, strong state → weak state)
    {history : List (State × Action)} {final : State}
    (every : Everywhere strong history final) : Everywhere weak history final :=
  ⟨fun entry member => weaker _ (every.1 entry member), weaker _ every.2⟩

/-- An invariant kept by the allowed steps holds in every state of every run
whose steps are all allowed. -/
theorem Run.invariant_of_allowed
    (initial : inv origin)
    (preserved : ∀ state action after, inv state → allowed state action →
      step state action = some after → inv after)
    {history : List (State × Action)} {final : State}
    (run : Run step origin history final) (fine : Allowed allowed history) :
    Everywhere inv history final := by
  induction run with
  | start => exact ⟨by simp, initial⟩
  | next before taken inductionHypothesis =>
      obtain ⟨earlier, last⟩ := allowed_snoc.mp fine
      have held := inductionHypothesis earlier
      exact everywhere_snoc.mpr ⟨held, preserved _ _ _ held.2 last taken⟩

/-- An invariant kept by every step holds in every reachable state. -/
theorem Reachable.invariant
    (initial : inv origin)
    (preserved : ∀ state action after, inv state →
      step state action = some after → inv after)
    {state : State} (reached : Reachable step origin state) : inv state := by
  obtain ⟨history, run⟩ := reached
  have free : Allowed (fun (_ : State) (_ : Action) => True) history := fun _ _ => trivial
  have every : Everywhere inv history state :=
    run.invariant_of_allowed initial
      (fun state action after held _ taken => preserved state action after held taken) free
  exact every.2

/-- When allowed steps keep the invariant, the invariant gives `good`, and a
disallowed step out of the invariant ends in a state that is not good, the
runs that stay good are exactly the runs of allowed steps. -/
theorem Run.everywhere_iff_allowed
    (initial : inv origin)
    (preserved : ∀ state action after, inv state → allowed state action →
      step state action = some after → inv after)
    (sufficient : ∀ state, inv state → good state)
    (broken : ∀ state action after, inv state → ¬ allowed state action →
      step state action = some after → ¬ good after)
    {history : List (State × Action)} {final : State}
    (run : Run step origin history final) :
    Everywhere good history final ↔ Allowed allowed history := by
  constructor
  · intro every
    induction run with
    | start => exact allowed_nil
    | next before taken inductionHypothesis =>
        obtain ⟨earlier, last⟩ := everywhere_snoc.mp every
        have fine := inductionHypothesis earlier
        have held := (before.invariant_of_allowed initial preserved fine).2
        refine allowed_snoc.mpr ⟨fine, ?_⟩
        by_contra disallowed
        exact broken _ _ _ held disallowed taken last
  · intro fine
    exact (run.invariant_of_allowed initial preserved fine).mono sufficient

/-- A run through good states starts in one. -/
theorem Run.origin_of_everywhere {history : List (State × Action)} {final : State}
    (run : Run step origin history final) (every : Everywhere good history final) : good origin := by
  induction run with
  | start => exact every.2
  | next before taken inductionHypothesis => exact inductionHypothesis (everywhere_snoc.mp every).1

/-- A run passes through the state its history names: it was reached by the
steps before, and the rest of the history is a run from the state after. -/
theorem Run.split {earlier later : List (State × Action)} {state final : State} {action : Action}
    (run : Run step origin (earlier ++ (state, action) :: later) final) :
    Run step origin earlier state ∧
      ∃ after, step state action = some after ∧ Run step after later final := by
  generalize shape : earlier ++ (state, action) :: later = history at run
  induction run generalizing later with
  | start => simp at shape
  | @next history last after lastAction before taken inductionHypothesis =>
      rcases List.eq_nil_or_concat later with rfl | ⟨middle, entry, rfl⟩
      · obtain ⟨rfl, same⟩ := List.append_inj' shape rfl
        obtain ⟨rfl, rfl⟩ := Prod.mk.inj (List.cons.inj same).1
        exact ⟨before, after, taken, .start⟩
      · rw [List.concat_eq_append, ← List.cons_append, ← List.append_assoc] at shape
        obtain ⟨front, same⟩ := List.append_inj' shape rfl
        obtain rfl := (List.cons.inj same).1
        obtain ⟨reached, next, first, rest⟩ := inductionHypothesis front
        refine ⟨reached, next, first, ?_⟩
        rw [List.concat_eq_append]
        exact rest.next taken

end Rules

/-! ## Executing a schedule -/

/-- Take the actions of a schedule one after the other. -/
def exec (step : State → Action → Option State) : State → List Action → Option State
  | state, [] => some state
  | state, action :: schedule => (step state action).bind fun after => exec step after schedule

/-- The history of a schedule, as far as it can be executed. -/
def trace (step : State → Action → Option State) : State → List Action → List (State × Action)
  | _, [] => []
  | state, action :: schedule =>
      match step state action with
      | some after => (state, action) :: trace step after schedule
      | none => []

theorem exec_append {step : State → Action → Option State} (state : State)
    (earlier later : List Action) :
    exec step state (earlier ++ later) =
      (exec step state earlier).bind fun middle => exec step middle later := by
  induction earlier generalizing state with
  | nil => rfl
  | cons action earlier inductionHypothesis =>
      rw [List.cons_append, exec, exec, Option.bind_assoc]
      congr 1
      funext after
      exact inductionHypothesis after

/-- An executed schedule is a run. -/
theorem run_trace {step : State → Action → Option State} {origin final : State}
    {schedule : List Action} (executed : exec step origin schedule = some final) :
    Run step origin (trace step origin schedule) final := by
  have extend : ∀ (schedule : List Action) (history : List (State × Action)) (state : State),
      Run step origin history state → exec step state schedule = some final →
        Run step origin (history ++ trace step state schedule) final := by
    intro schedule
    induction schedule with
    | nil =>
        intro history state run executed
        obtain rfl : state = final := Option.some.inj executed
        simpa [trace] using run
    | cons action schedule inductionHypothesis =>
        intro history state run executed
        obtain ⟨after, taken, rest⟩ := Option.bind_eq_some_iff.mp executed
        have whole := inductionHypothesis _ after (run.next taken) rest
        simpa [trace, taken] using whole
  exact extend schedule [] origin .start executed

/-- A condition that every action of the schedule meets in every state. -/
theorem allowed_trace {step : State → Action → Option State} {origin : State}
    {schedule : List Action} {allowed : State → Action → Prop}
    (every : ∀ state, ∀ action ∈ schedule, allowed state action) :
    Allowed allowed (trace step origin schedule) := by
  induction schedule generalizing origin with
  | nil => exact allowed_nil
  | cons action schedule inductionHypothesis =>
      unfold trace
      split
      · rename_i after taken
        intro entry member
        rcases List.mem_cons.mp member with rfl | rest
        · exact every _ _ List.mem_cons_self
        · exact inductionHypothesis (fun state action member =>
            every state action (List.mem_cons_of_mem _ member)) entry rest
      · exact allowed_nil

/-- The state a schedule ends in is reachable. -/
theorem reachable_of_exec {step : State → Action → Option State} {origin final : State}
    {schedule : List Action} (executed : exec step origin schedule = some final) :
    Reachable step origin final :=
  ⟨trace step origin schedule, run_trace executed⟩

/-- One more step. -/
theorem Reachable.next {step : State → Action → Option State} {origin state after : State}
    {action : Action} (reached : Reachable step origin state)
    (taken : step state action = some after) : Reachable step origin after := by
  obtain ⟨history, run⟩ := reached
  exact ⟨history ++ [(state, action)], run.next taken⟩

/-- A schedule that is executed later on. -/
theorem Reachable.exec {step : State → Action → Option State} {origin state final : State}
    {schedule : List Action} (reached : Reachable step origin state)
    (executed : exec step state schedule = some final) : Reachable step origin final := by
  induction schedule generalizing state with
  | nil =>
      obtain rfl := Option.some.inj executed
      exact reached
  | cons action schedule inductionHypothesis =>
      obtain ⟨after, taken, rest⟩ := Option.bind_eq_some_iff.mp executed
      exact inductionHypothesis (reached.next taken) rest

end Juicity.Machine
