import Juicity.Client.Reconnect.Invariant
import Juicity.Machine.Spacing

/-!
Owns the pace of the attempts: while the server cannot be reached, each recorded
failure holds the next attempt back for the delay of its place in the row. Only
a published connection ends the row; a `preconnect` that nobody joined leaves no
failure, and neither does a dropped attempt.
-/

namespace Juicity.Client.Reconnect

open Juicity.Common
open Juicity.Machine

/-- A recorded failure makes the row longer, a connection ends it. -/
def note (times : List Instant) (entry : State × Action) : List Instant :=
  match entry.2 with
  | .run caller =>
      match (entry.1.callers caller).pc with
      | .locking (.failed _ _) =>
          if entry.1.lock.holder = some caller ∧ entry.1.reconnect.recordFailure = true then
            times ++ [entry.1.now]
          else
            times
      | .publishing _ _ => []
      | _ => times
  | _ => times

/-- When the failures since the last connection were recorded, oldest first. -/
def failuresInRow (history : List (State × Action)) : List Instant := history.foldl note []

theorem failuresInRow_snoc (history : List (State × Action)) (entry : State × Action) :
    failuresInRow (history ++ [entry]) = note (failuresInRow history) entry := by
  rw [failuresInRow, List.foldl_append]
  rfl

/-! ## Steps -/

/-- A step that leaves the record of failures alone and gives nobody the lead. -/
structure Calm (state after : State) : Prop where
  later : state.now ≤ after.now
  attempts : after.reconnect.attempts = state.reconnect.attempts
  last : after.reconnect.lastFailure = state.reconnect.lastFailure
  leads : ∀ caller, (after.callers caller).pc.leads.isSome = true →
    (state.callers caller).pc.leads.isSome = true

/-- What a step is to the row of failures. -/
inductive Paces (state : State) : Action → State → Prop where
  | calm {action : Action} {after : State} (keeps : Calm state after)
      (silent : ∀ times, note times (state, action) = times) : Paces state action after
  | led (caller : Nat) (here : (state.callers caller).pc = .deciding)
      (outside : state.backoffFailure = none) : Paces state (.run caller) (state.lead caller)
  | failed (caller done : Nat) (error : String)
      (here : (state.callers caller).pc = .locking (.failed done error))
      (held : state.lock.holder = some caller) :
      Paces state (.run caller) (state.publishFailure caller done error)
  | succeeded (caller done conn : Nat)
      (here : (state.callers caller).pc = .publishing done conn) :
      Paces state (.run caller) (state.publishSuccess caller done conn)

section Steps

variable {state after : State} {caller : Nat} {pc : Pc}

/-- A single call moves, and not into the lead. -/
theorem calm_of_moved (moved : Moved state after caller pc) (later : after.now = state.now)
    (attempts : after.reconnect.attempts = state.reconnect.attempts)
    (last : after.reconnect.lastFailure = state.reconnect.lastFailure)
    (leads : pc.leads.isSome = true → (state.callers caller).pc.leads.isSome = true) :
    Calm state after := by
  refine ⟨Nat.le_of_eq later.symm, attempts, last, fun other => ?_⟩
  by_cases same : other = caller
  · subst same
    rw [moved.pc_self]
    exact leads
  · rw [moved.pc_other same]
    exact id

/-- Only a call that publishes its result is noted. -/
theorem note_run (here : (state.callers caller).pc = pc)
    (failed : ∀ done error, pc ≠ .locking (.failed done error))
    (succeeded : ∀ done conn, pc ≠ .publishing done conn) (times : List Instant) :
    note times (state, .run caller) = times := by
  subst here
  unfold note
  dsimp only
  split
  · rename_i done error place
    exact absurd place (failed done error)
  · rename_i done conn place
    exact absurd place (succeeded done conn)
  · rfl

theorem note_failed {done : Nat} {error : String}
    (here : (state.callers caller).pc = .locking (.failed done error))
    (held : state.lock.holder = some caller) (times : List Instant) :
    note times (state, .run caller) =
      if state.reconnect.recordFailure = true then times ++ [state.now] else times := by
  simp only [note, here, held, true_and]

theorem note_succeeded {done conn : Nat}
    (here : (state.callers caller).pc = .publishing done conn) (times : List Instant) :
    note times (state, .run caller) = [] := by
  simp only [note, here]

/-- The lock is given up; the record is read at most. -/
theorem calm_failOrRetry (state : State) (caller : Nat) :
    Calm state (state.failOrRetry caller) := by
  unfold State.failOrRetry
  split
  · exact calm_of_moved rfl rfl rfl rfl (by simp [Pc.leads])
  · exact calm_of_moved rfl rfl rfl rfl (by simp [Pc.leads, Site.leads])

theorem paces_decide (here : (state.callers caller).pc = .deciding) :
    Paces state (.run caller) (state.decide caller) := by
  have silent := note_run here (by simp) (by simp)
  unfold State.decide
  split
  · exact .calm (calm_of_moved rfl rfl rfl rfl (by simp [Pc.leads])) silent
  · rename_i outside
    split
    · split
      · exact .calm (calm_of_moved rfl rfl rfl rfl (by simp [Pc.leads])) silent
      · exact .calm (calm_of_moved rfl rfl rfl rfl (by simp [Pc.leads])) silent
    · exact .led caller here outside

theorem paces_enter {site : Site} (here : (state.callers caller).pc = .locking site)
    (held : state.lock.holder = some caller) :
    Paces state (.run caller) (state.enter caller site) := by
  cases site with
  | failed done error => exact .failed caller done error here held
  | connected done conn =>
      refine .calm (calm_of_moved rfl rfl rfl rfl fun _ => ?_) (note_run here (by simp) (by simp))
      rw [here]
      rfl
  | loopTop =>
      refine .calm ?_ (note_run here (by simp) (by simp))
      unfold State.enter
      dsimp only
      split
      · exact calm_of_moved rfl rfl rfl rfl (by simp [Pc.leads])
      · exact calm_of_moved rfl rfl rfl rfl (by simp [Pc.leads])
  | preWait wait =>
      refine .calm ?_ (note_run here (by simp) (by simp))
      unfold State.enter
      dsimp only
      split
      · exact calm_of_moved rfl rfl rfl rfl (by simp [Pc.leads])
      · exact calm_of_moved rfl rfl rfl rfl (by simp [Pc.leads])
  | postWake =>
      exact .calm (calm_failOrRetry state caller) (note_run here (by simp) (by simp))

/-- What a step of a call is. -/
theorem paces_advance (taken : state.advance caller = some after) :
    Paces state (.run caller) after := by
  cases here : (state.callers caller).pc with
  | idle => simp [State.advance, here] at taken
  | dialing done => simp [State.advance, here] at taken
  | returned result => simp [State.advance, here] at taken
  | dropped => simp [State.advance, here] at taken
  | entering =>
      simp only [State.advance, here] at taken
      refine .calm ?_ (note_run here (by simp) (by simp))
      split at taken <;> obtain rfl := Option.some.inj taken
      · exact calm_of_moved rfl rfl rfl rfl (by simp [Pc.leads])
      · exact calm_of_moved rfl rfl rfl rfl (by simp [Pc.leads, Site.leads])
  | asking site =>
      simp only [State.advance, here] at taken
      obtain rfl := Option.some.inj taken
      have silent := note_run here (by simp) (by simp)
      refine .calm (calm_of_moved rfl rfl rfl rfl fun leads => ?_) silent
      rw [here]
      exact leads
  | locking site =>
      simp only [State.advance, here] at taken
      split at taken
      · rename_i held
        obtain rfl := Option.some.inj taken
        exact paces_enter here held
      · cases taken
  | deciding =>
      simp only [State.advance, here] at taken
      obtain rfl := Option.some.inj taken
      exact paces_decide here
  | joined wait =>
      simp only [State.advance, here] at taken
      refine .calm ?_ (note_run here (by simp) (by simp))
      split at taken <;> obtain rfl := Option.some.inj taken
      · exact calm_of_moved rfl rfl rfl rfl (by simp [Pc.leads])
      · exact calm_of_moved rfl rfl rfl rfl (by simp [Pc.leads, Site.leads])
  | preWaitLive wait =>
      simp only [State.advance, here] at taken
      refine .calm ?_ (note_run here (by simp) (by simp))
      split at taken <;> obtain rfl := Option.some.inj taken
      · exact calm_of_moved rfl rfl rfl rfl (by simp [Pc.leads])
      · exact calm_failOrRetry state caller
  | waiting wait =>
      simp only [State.advance, here] at taken
      split at taken
      · obtain rfl := Option.some.inj taken
        exact .calm (calm_of_moved rfl rfl rfl rfl (by simp [Pc.leads]))
          (note_run here (by simp) (by simp))
      · cases taken
  | woken =>
      simp only [State.advance, here] at taken
      refine .calm ?_ (note_run here (by simp) (by simp))
      split at taken <;> obtain rfl := Option.some.inj taken
      · exact calm_of_moved rfl rfl rfl rfl (by simp [Pc.leads])
      · exact calm_of_moved rfl rfl rfl rfl (by simp [Pc.leads, Site.leads])
  | clearing done =>
      simp only [State.advance, here] at taken
      obtain rfl := Option.some.inj taken
      refine .calm (calm_of_moved rfl rfl rfl rfl fun _ => ?_) (note_run here (by simp) (by simp))
      rw [here]
      rfl
  | clearingAuth done =>
      simp only [State.advance, here] at taken
      obtain rfl := Option.some.inj taken
      refine .calm (calm_of_moved rfl rfl rfl rfl fun _ => ?_) (note_run here (by simp) (by simp))
      rw [here]
      rfl
  | storingAuth done conn =>
      simp only [State.advance, here] at taken
      obtain rfl := Option.some.inj taken
      refine .calm (calm_of_moved rfl rfl rfl rfl fun _ => ?_) (note_run here (by simp) (by simp))
      rw [here]
      rfl
  | publishing done conn =>
      simp only [State.advance, here] at taken
      obtain rfl := Option.some.inj taken
      exact .succeeded caller done conn here
  | signalling done result =>
      simp only [State.advance, here] at taken
      obtain rfl := Option.some.inj taken
      exact .calm (calm_of_moved rfl rfl rfl rfl (by simp [Pc.leads]))
        (note_run here (by simp) (by simp))
  | dropping done =>
      simp only [State.advance, here] at taken
      obtain rfl := Option.some.inj taken
      refine .calm ?_ (note_run here (by simp) (by simp))
      unfold State.dropGuard
      split
      · exact calm_of_moved rfl rfl rfl rfl (by simp [Pc.leads])
      · exact calm_of_moved rfl rfl rfl rfl (by simp [Pc.leads])

theorem paces_of_step {action : Action} (taken : step state action = some after) :
    Paces state action after := by
  have silent : (∀ caller, action ≠ .run caller) → ∀ times, note times (state, action) = times := by
    intro other times
    cases action with
    | run caller => exact absurd rfl (other caller)
    | _ => rfl
  cases action with
  | run caller => exact paces_advance taken
  | tick elapsed =>
      obtain rfl := Option.some.inj taken
      exact .calm ⟨Nat.le_add_right _ _, rfl, rfl, fun _ leads => leads⟩ (silent (by simp))
  | close conn =>
      obtain rfl := Option.some.inj taken
      exact .calm ⟨Nat.le_refl _, rfl, rfl, fun _ leads => leads⟩ (silent (by simp))
  | begin caller record =>
      simp only [step] at taken
      split at taken
      · obtain rfl := Option.some.inj taken
        refine .calm ⟨Nat.le_refl _, rfl, rfl, fun other leads => ?_⟩ (silent (by simp))
        by_cases same : other = caller
        · subst same
          simp [Pc.leads] at leads
        · simpa [Function.update_of_ne same] using leads
      · cases taken
  | dial caller result =>
      simp only [step] at taken
      split at taken
      · rename_i done conn here
        obtain rfl := Option.some.inj taken
        refine .calm (calm_of_moved rfl rfl rfl rfl fun _ => ?_) (silent (by simp))
        rw [here]
        rfl
      · rename_i done error here
        obtain rfl := Option.some.inj taken
        refine .calm (calm_of_moved rfl rfl rfl rfl fun _ => ?_) (silent (by simp))
        rw [here]
        rfl
      · cases taken
  | cancel caller =>
      simp only [step] at taken
      split at taken
      · obtain rfl := Option.some.inj taken
        refine .calm (calm_of_moved rfl rfl rfl rfl fun leads => ?_) (silent (by simp))
        cases led : (state.callers caller).pc.leads with
        | none =>
            rw [led] at leads
            cases leads
        | some done => rfl
      · cases taken

end Steps

/-! ## Runs -/

/-- The record of failures against the row, and the wait before an attempt. -/
structure Paced (times : List Instant) (state : State) : Prop where
  attempts : state.reconnect.attempts = min times.length 4294967295
  last : state.reconnect.lastFailure.map Prod.fst = times.getLast?
  past : ∀ last, times.getLast? = some last → last ≤ state.now
  waited : ∀ caller, (state.callers caller).pc.leads.isSome = true →
    ∀ last, times.getLast? = some last → last + reconnectDelay times.length ≤ state.now
  spaced : ∀ index earlier later, times[index]? = some earlier → times[index + 1]? = some later →
    earlier + reconnectDelay (index + 1) ≤ later

theorem paced_initial : Paced [] initial where
  attempts := rfl
  last := rfl
  past := by
    intro last found
    cases found
  waited := by
    intro caller leads
    cases leads
  spaced := by
    intro index earlier later found
    cases found

/-- The count saturates long after the delay does. -/
theorem reconnectDelay_min (attempts : Nat) :
    reconnectDelay (min attempts 4294967295) = reconnectDelay attempts := by
  unfold reconnectDelay
  rw [show min (min attempts 4294967295) 5 = min attempts 5 by omega]

section Preservation

variable {state after : State} {times : List Instant} {caller : Nat}

theorem Paced.calm (paced : Paced times state) (keeps : Calm state after) : Paced times after where
  attempts := keeps.attempts.trans paced.attempts
  last := by rw [keeps.last, paced.last]
  past := fun last found => Nat.le_trans (paced.past last found) keeps.later
  waited := fun caller leads last found =>
    Nat.le_trans (paced.waited caller (keeps.leads caller leads) last found) keeps.later
  spaced := paced.spaced

/-- Outside the window of the last failure its delay is over. -/
theorem Paced.outside (paced : Paced times state) (outside : state.backoffFailure = none)
    {last : Instant} (found : times.getLast? = some last) :
    last + reconnectDelay times.length ≤ state.now := by
  have past := paced.past last found
  rw [← paced.last] at found
  obtain ⟨⟨recorded, failure⟩, held, rfl⟩ := Option.map_eq_some_iff.mp found
  unfold State.backoffFailure at outside
  rw [held] at outside
  dsimp only at outside
  split at outside
  · cases outside
  · rename_i old
    rw [paced.attempts, reconnectDelay_min, Instant.durationSince] at old
    unfold Instant Duration at *
    omega

theorem Paced.led (paced : Paced times state) (outside : state.backoffFailure = none) :
    Paced times (state.lead caller) where
  attempts := paced.attempts
  last := paced.last
  past := paced.past
  waited := fun _ _ _ found => paced.outside outside found
  spaced := paced.spaced

/-- Nobody else has the lead of a call that publishes its failure. -/
theorem leaderless_of_failed (core : Core state) {done : Nat} {error : String}
    (here : (state.callers caller).pc = .locking (.failed done error)) (other : Nat) :
    ((state.publishFailure caller done error).callers other).pc.leads = none := by
  have moved : Moved state (state.publishFailure caller done error) caller
    (.signalling done (.error ⟨error, state.failures⟩ false)) := rfl
  exact core.nobody_leads moved (by rw [here]; rfl) rfl other

/-- A recorded failure goes to the end of the row, a delay behind the one before. -/
theorem Paced.failed (core : Core state) (paced : Paced times state) {done : Nat} {error : String}
    (here : (state.callers caller).pc = .locking (.failed done error))
    (held : state.lock.holder = some caller) :
    Paced (note times (state, .run caller)) (state.publishFailure caller done error) := by
  have nobody := leaderless_of_failed core here
  rw [note_failed here held]
  by_cases record : state.reconnect.recordFailure = true
  · rw [if_pos record]
    refine ⟨?_, ?_, ?_, ?_, ?_⟩
    · simp only [State.publishFailure, record, if_true, saturatingSucc, paced.attempts,
        List.length_append, List.length_singleton]
      omega
    · simp only [State.publishFailure, record, if_true, Option.map_some, List.getLast?_concat]
    · intro last found
      rw [List.getLast?_concat] at found
      exact Nat.le_of_eq (Option.some.inj found).symm
    · intro other leads
      rw [nobody other] at leads
      cases leads
    · have spaced : Spaced (fun index => reconnectDelay (index + 1)) times := paced.spaced
      refine spaced.snoc state.now fun earlier ends => ?_
      -- the last of the row held the leader back
      have some : times ≠ [] := by
        rintro rfl
        cases ends
      rw [Nat.sub_add_cancel (List.length_pos_of_ne_nil some)]
      exact paced.waited caller (by rw [here]; rfl) earlier ends
  · rw [if_neg record]
    refine ⟨?_, ?_, paced.past, ?_, paced.spaced⟩
    · simp only [State.publishFailure, record]
      exact paced.attempts
    · simp only [State.publishFailure, record]
      exact paced.last
    · intro other leads
      rw [nobody other] at leads
      cases leads

/-- A connection ends the row. -/
theorem Paced.succeeded {done conn : Nat}
    (here : (state.callers caller).pc = .publishing done conn) :
    Paced (note times (state, .run caller)) (state.publishSuccess caller done conn) := by
  rw [note_succeeded here]
  refine ⟨rfl, rfl, ?_, ?_, ?_⟩
  · intro last found
    cases found
  · intro other _ last found
    cases found
  · intro index earlier later found
    cases found

theorem Paced.preserved {action : Action} (core : Core state) (paced : Paced times state)
    (taken : step state action = some after) : Paced (note times (state, action)) after := by
  cases paces_of_step taken with
  | calm keeps silent =>
      rw [silent]
      exact paced.calm keeps
  | led caller here outside =>
      rw [note_run here (by simp) (by simp)]
      exact paced.led outside
  | failed caller done error here held => exact paced.failed core here held
  | succeeded caller done conn here => exact .succeeded here

end Preservation

theorem paced_of_run {history : List (State × Action)} {final : State}
    (run : Run step initial history final) : Paced (failuresInRow history) final := by
  induction run with
  | start => exact paced_initial
  | next before taken inductionHypothesis =>
      rw [failuresInRow_snoc]
      exact inductionHypothesis.preserved (core_of_reachable ⟨_, before⟩) taken

/-- In every run, however the calls interleave and whichever are dropped: after the n-th failure in
a row no attempt begins before the delay of n failures is over, the next failure is at least that
much later, and a row of failures takes at least the sum of its delays. -/
theorem spaced_of_run {history : List (State × Action)} {final : State}
    (run : Run step initial history final) :
    (∀ caller, (final.callers caller).pc.leads.isSome = true →
      ∀ last, (failuresInRow history).getLast? = some last →
        last + reconnectDelay (failuresInRow history).length ≤ final.now) ∧
    (∀ index earlier later, (failuresInRow history)[index]? = some earlier →
      (failuresInRow history)[index + 1]? = some later →
        earlier + reconnectDelay (index + 1) ≤ later) ∧
    ∀ first index last, (failuresInRow history)[0]? = some first →
      (failuresInRow history)[index]? = some last →
        first + ∑ before ∈ Finset.range index, reconnectDelay (before + 1) ≤ last := by
  have paced := paced_of_run run
  have spaced : Spaced (fun index => reconnectDelay (index + 1)) (failuresInRow history) :=
    paced.spaced
  exact ⟨paced.waited, spaced, fun first index last starts found =>
    spaced.sum_le starts index last found⟩

/-- A call that fails, and one that fails 2 seconds later. -/
def twoFailures : List Action :=
  leadSchedule 0 ++ [.dial 0 (.error "unreachable"), .run 0, .run 0, .run 0,
    .tick (Duration.fromSecs 2)] ++ leadSchedule 1 ++
    [.dial 1 (.error "unreachable"), .run 1, .run 1]

theorem spaced_of_run_twice :
    ∃ history final, Run step initial history final ∧
      (failuresInRow history)[0]? = some 0 ∧
      (failuresInRow history)[1]? = some (Duration.fromSecs 2) ∧
      0 + reconnectDelay 1 ≤ Duration.fromSecs 2 := by
  have executed : (exec step initial twoFailures).isSome = true := by decide
  obtain ⟨final, ended⟩ := Option.isSome_iff_exists.mp executed
  have run := run_trace ended
  have first : (failuresInRow (trace step initial twoFailures))[0]? = some 0 := by decide
  have second : (failuresInRow (trace step initial twoFailures))[1]? =
      some (Duration.fromSecs 2) := by decide
  exact ⟨_, final, run, first, second, (spaced_of_run run).2.1 0 _ _ first second⟩

end Juicity.Client.Reconnect
