import Juicity.Client.Reconnect.Invariant

/-!
Owns single-flight and progress of the reconnect protocol. The record is in
flight exactly while one call leads, a call that finds no leader can lead, and
every subscribed call will be signalled, in exactly the runs where the guard of
a dropped leader always finds `reconnect_lock` free: the guard uses `try_lock`
and gives up when another call holds the lock or was handed it.
-/

namespace Juicity.Client.Reconnect

open Juicity.Common
open Juicity.Machine

/-- The call executes `lead_reconnect`: it took the lead, has not published a
result, and its guard has not run. -/
def Leading (state : State) (caller : Nat) : Prop :=
  ∃ done, (state.callers caller).pc.leads = some done

/-- Reconnecting is single-flight and cannot get stuck. -/
structure SingleFlight (state : State) : Prop where
  single : state.reconnect.inFlight = true ↔ ∃! caller, Leading state caller
  reopens : (∀ caller, ¬ Leading state caller) → ∀ caller,
    (state.callers caller).pc = .deciding → state.backoffFailure = none →
      ∃ after, step state (.run caller) = some after ∧ Leading after caller
  served : ∀ caller wait, (state.callers caller).pc.waits = some wait →
    state.notify.Woken wait ∨ ∃ other, (state.callers other).pc.leads = some wait.id ∨
      (state.callers other).pc.signals = some wait.id

/-- When the guard of a dropped leader runs, nobody holds `reconnect_lock` or
was handed it. -/
def GuardFindsLockFree (state : State) (action : Action) : Prop :=
  ∀ caller done, action = .run caller → (state.callers caller).pc = .dropping done →
    state.lock.holder = none

/-- A record in flight has a leader. -/
def Led (state : State) : Prop :=
  state.reconnect.inFlight = true → ∃ caller, Leading state caller

/-- The invariant of the runs in which every guard finds the lock free. -/
structure Steered (state : State) : Prop where
  core : Core state
  led : Led state

section Preservation

variable {state after : State} {caller : Nat} {pc : Pc}

/-- A step that keeps the record in flight and the lead of its caller. -/
theorem Led.moved (led : Led state) (moved : Moved state after caller pc)
    (kept : pc.leads = (state.callers caller).pc.leads)
    (inFlight : after.reconnect.inFlight = state.reconnect.inFlight) : Led after := by
  intro flying
  rw [inFlight] at flying
  obtain ⟨leader, done, leads⟩ := led flying
  exact ⟨leader, done, by rw [moved.role_eq Pc.leads kept]; exact leads⟩

theorem Led.preserved {action : Action} (core : Core state) (led : Led state)
    (fine : GuardFindsLockFree state action) (taken : step state action = some after) :
    Led after := by
  cases took_of_step core.owned taken with
  | environment now closed => exact led
  | began caller record idle =>
      intro flying
      obtain ⟨leader, done, leads⟩ := led flying
      have different : leader ≠ caller := by
        rintro rfl
        rw [idle] at leads
        cases leads
      refine ⟨leader, done, ?_⟩
      simp only [Function.update_of_ne different]
      exact leads
  | quiet caller pc keeps =>
      exact led.moved keeps.moved keeps.leads (by rw [keeps.reconnect])
  | joined caller done here inFlight registered =>
      have moved : Moved state (state.join caller done) caller
        (.joined (state.notify.notified done)) := rfl
      exact led.moved moved (by rw [here]; rfl) rfl
  | led caller here free =>
      intro _
      have moved : Moved state (state.lead caller) caller (.clearing state.notify.fresh) := rfl
      exact ⟨caller, state.notify.fresh, by rw [moved.pc_self]; rfl⟩
  | failed caller done error here held =>
      intro flying
      cases flying
  | succeeded caller done conn here =>
      intro flying
      cases flying
  | signalled caller done result here =>
      have moved : Moved state { state.setPc caller (.returned result) with
        notify := state.notify.notifyWaiters done } caller (.returned result) := rfl
      exact led.moved moved (by rw [here]; rfl) rfl
  | guarded caller done here =>
      intro flying
      have free := FairMutex.tryLock_iff.mpr (fine caller done rfl here)
      rw [State.dropGuard, if_pos free] at flying
      cases flying

/-- The invariant with a leader for every record in flight gives single-flight. -/
theorem Steered.singleFlight (steered : Steered state) : SingleFlight state where
  single := by
    constructor
    · intro flying
      obtain ⟨leader, done, leads⟩ := steered.led flying
      refine ⟨leader, ⟨done, leads⟩, ?_⟩
      rintro other ⟨done', otherLeads⟩
      exact steered.core.alone other leader done' done otherLeads leads
    · rintro ⟨leader, ⟨done, leads⟩, _⟩
      rw [steered.core.flight, steered.core.leader leader done leads]
      rfl
  reopens := by
    intro leaderless caller here closed
    have free : state.reconnect.inFlight = false := by
      by_contra flying
      obtain ⟨leader, leading⟩ := steered.led (by simpa using flying)
      exact leaderless leader leading
    refine ⟨state.lead caller, ?_, state.notify.fresh, ?_⟩
    · have led : state.decide caller = state.lead caller := by
        simp [State.decide, closed, free]
      rw [← led]
      simp [step, State.advance, here]
    · have moved : Moved state (state.lead caller) caller (.clearing state.notify.fresh) := rfl
      rw [moved.pc_self]
      rfl
  served := by
    intro caller wait waiting
    rcases steered.core.waiter caller wait waiting with woken | ⟨_, registered | ⟨other, signals⟩⟩
    · exact .inl woken
    · right
      obtain ⟨leader, done, leads⟩ := steered.led (by rw [steered.core.flight, registered]; rfl)
      have same := steered.core.leader leader done leads
      rw [registered] at same
      exact ⟨leader, .inl (by rw [same]; exact leads)⟩
    · exact .inr ⟨other, .inr signals⟩

/-- A guard that finds the lock taken leaves a record in flight without a leader. -/
theorem leaderless_of_lock_taken (core : Core state) {done : Nat}
    (here : (state.callers caller).pc = .dropping done) (held : state.lock.holder ≠ none)
    (taken : step state (.run caller) = some after) :
    after.reconnect.inFlight = true ∧ ∀ other, ¬ Leading after other := by
  have leads : (state.callers caller).pc.leads = some done := by rw [here]; rfl
  simp only [step, State.advance, here, dropGuard_of_taken held, Option.some.injEq] at taken
  subst taken
  have moved : Moved state (state.setPc caller .dropped) caller .dropped := rfl
  constructor
  · show state.reconnect.inFlight = true
    rw [core.flight, core.leader caller done leads]
    rfl
  · rintro other ⟨done', leading⟩
    rw [core.nobody_leads moved leads rfl other] at leading
    cases leading

end Preservation

/-- A run stays single-flight exactly when the guard of every dropped leader
finds the lock free. -/
theorem singleFlight_iff_guardFindsLockFree {history : List (State × Action)} {final : State}
    (run : Run step initial history final) :
    Everywhere SingleFlight history final ↔ Allowed GuardFindsLockFree history := by
  have start : Steered initial :=
    ⟨core_initial, by simp [Led, initial, ReconnectState.default]⟩
  apply run.everywhere_iff_allowed start
  · intro state action after held fine taken
    exact ⟨held.core.preserved taken, held.led.preserved held.core fine taken⟩
  · exact fun state held => held.singleFlight
  · intro state action after held disallowed taken good
    simp only [GuardFindsLockFree, not_forall] at disallowed
    obtain ⟨caller, done, rfl, here, busy⟩ := disallowed
    obtain ⟨flying, leaderless⟩ := leaderless_of_lock_taken held.core here busy taken
    obtain ⟨leader, leading, _⟩ := good.single.mp flying
    exact leaderless leader leading

/-! ## A leader dropped while another call was handed the lock -/

/-- Call 0 dials, call 1 gets the lock, and call 0 is dropped. -/
def dropSchedule : List Action :=
  leadSchedule 0 ++ [.begin 1 true, .run 1, .run 1, .cancel 0]

theorem not_singleFlight_of_dropped_leader :
    ¬ ∀ state, Reachable step initial state → SingleFlight state := by
  have executed : (exec step initial dropSchedule).any (fun state =>
      (state.callers 0).pc = .dropping 0 && state.lock.holder = some 1) = true := by
    decide
  obtain ⟨state, ended, facts⟩ := (Option.any_eq_true _ _).mp executed
  simp only [Bool.and_eq_true, decide_eq_true_eq] at facts
  have reached := reachable_of_exec ended
  have taken : step state (.run 0) = some (state.dropGuard 0) := by
    simp [step, State.advance, facts.1]
  obtain ⟨flying, leaderless⟩ := leaderless_of_lock_taken (core_of_reachable reached) facts.1
    (by rw [facts.2]; simp) taken
  intro always
  obtain ⟨leader, leading, _⟩ := (always _ (reached.next taken)).single.mp flying
  exact leaderless leader leading

theorem singleFlight_iff_guardFindsLockFree_sample :
    Everywhere SingleFlight (trace step initial dropSchedule)
        ((exec step initial dropSchedule).getD initial) ↔
      Allowed GuardFindsLockFree (trace step initial dropSchedule) := by
  have executed : (exec step initial dropSchedule).isSome = true := by decide
  obtain ⟨final, ended⟩ := Option.isSome_iff_exists.mp executed
  rw [ended]
  exact singleFlight_iff_guardFindsLockFree (run_trace ended)

end Juicity.Client.Reconnect
