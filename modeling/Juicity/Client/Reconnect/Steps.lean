import Juicity.Client.Reconnect.Model
import Juicity.Machine.Tasks

/-!
Contract: what one action can do. Most actions move a single call and leave the
record, the notifications and the role of the call alone; these are `Quiet`.
The others take the lead, join, publish, signal or run the guard. `took_of_step`
is the only place that looks inside `step`; it needs to know that a call that
is past its lock acquisition owns the lock.
-/

namespace Juicity.Client.Reconnect

open Juicity.Common
open Juicity.Machine

/-- A call past its lock acquisition owns the lock. -/
def Owned (state : State) : Prop :=
  ∀ caller, (state.callers caller).pc.owns = true → state.lock.holder = some caller

/-- The error of `pc` comes from an open backoff window, or was read from the
record after a wake-up or after the attempt the call joined was found over. -/
def ReadsFailure (state : State) (old pc : Pc) : Prop :=
  ∀ failure inBackoff, pc.result = some (.error failure inBackoff) →
    inBackoff = true ∨
      ((∃ last, state.reconnect.lastFailure = some (last, failure)) ∧
        (old.heard = true ∨ ∃ wait, old = .preWaitLive wait))

/-- Of the calls, only this one moves. -/
def Moved (state after : State) (caller : Nat) (pc : Pc) : Prop :=
  Moves state.callers after.callers caller { state.callers caller with pc := pc }

namespace Moved

variable {state after : State} {caller other : Nat} {pc : Pc}

theorem pc_self (moved : Moved state after caller pc) : (after.callers caller).pc = pc := by
  rw [Moves.self moved]

theorem pc_other (moved : Moved state after caller pc) (different : other ≠ caller) :
    (after.callers other).pc = (state.callers other).pc := by
  rw [Moves.of_ne moved different]

theorem record_eq (moved : Moved state after caller pc) (other : Nat) :
    (after.callers other).record = (state.callers other).record :=
  moved.view_eq Caller.record rfl other

theorem began_eq (moved : Moved state after caller pc) (other : Nat) :
    (after.callers other).began = (state.callers other).began :=
  moved.view_eq Caller.began rfl other

/-- What holds of the place `caller` moved to and of every other call's place
holds of every call's place. -/
theorem forall_pc (moved : Moved state after caller pc) {motive : Nat → Pc → Prop}
    (self : motive caller pc)
    (others : ∀ other, other ≠ caller → motive other (state.callers other).pc) (other : Nat) :
    motive other (after.callers other).pc :=
  moved.forall_tasks (motive := fun other call => motive other call.pc) self others other

/-- A role the moving call keeps is kept by all. -/
theorem role_eq {Role : Type} (moved : Moved state after caller pc) (role : Pc → Role)
    (kept : role pc = role (state.callers caller).pc) (other : Nat) :
    role (after.callers other).pc = role (state.callers other).pc :=
  moved.view_eq (fun call => role call.pc) kept other

end Moved

/-- The call moves to `pc`, keeps its role and touches nothing the others rely on. -/
structure Quiet (state after : State) (caller : Nat) (pc : Pc) : Prop where
  moved : Moved state after caller pc
  reconnect : after.reconnect = state.reconnect
  notify : after.notify = state.notify
  failures : after.failures = state.failures
  lock : state.lock.Move caller after.lock
  leads : pc.leads = (state.callers caller).pc.leads
  signals : pc.signals = (state.callers caller).pc.signals
  waits : ∀ wait, pc.waits = some wait → (state.callers caller).pc.waits = some wait
  heard : pc.heard = true → (state.callers caller).pc.heard = true ∨
    ∃ wait, (state.callers caller).pc.waits = some wait ∧ state.notify.Woken wait
  owns : pc.owns = true → after.lock.holder = some caller
  settled : ∀ wait, pc = .preWaitLive wait → state.reconnect.inFlight = false
  reads : ReadsFailure state (state.callers caller).pc pc

/-- What an action can do to a state. -/
inductive Took (state : State) : Action → State → Prop where
  | environment {action : Action} (now : Instant) (closed : Nat → Bool) :
      Took state action { state with now := now, closed := closed }
  | began {action : Action} (caller : Nat) (record : Bool)
      (idle : (state.callers caller).pc = .idle) :
      Took state action { state with
        callers := Function.update state.callers caller ⟨record, state.failures, .entering⟩ }
  | quiet {action : Action} {after : State} (caller : Nat) (pc : Pc)
      (keeps : Quiet state after caller pc) : Took state action after
  | joined {action : Action} (caller done : Nat)
      (here : (state.callers caller).pc = .deciding)
      (inFlight : state.reconnect.inFlight = true)
      (registered : state.reconnect.done = some done) :
      Took state action (state.join caller done)
  | led {action : Action} (caller : Nat)
      (here : (state.callers caller).pc = .deciding)
      (free : state.reconnect.inFlight = false) :
      Took state action (state.lead caller)
  | failed {action : Action} (caller done : Nat) (error : String)
      (here : (state.callers caller).pc = .locking (.failed done error))
      (held : state.lock.holder = some caller) :
      Took state action (state.publishFailure caller done error)
  | succeeded {action : Action} (caller done conn : Nat)
      (here : (state.callers caller).pc = .publishing done conn) :
      Took state action (state.publishSuccess caller done conn)
  | signalled {action : Action} (caller done : Nat) (result : Outcome)
      (here : (state.callers caller).pc = .signalling done result) :
      Took state action
        { state.setPc caller (.returned result) with notify := state.notify.notifyWaiters done }
  | guarded (caller done : Nat) (here : (state.callers caller).pc = .dropping done) :
      Took state (.run caller) (state.dropGuard caller)

/-! ## Inversion -/

section Inversion

variable {state : State} {caller : Nat} {old pc : Pc}

/-- A call that returns no error reads no failure. -/
theorem readsFailure_of_no_error
    (silent : ∀ failure inBackoff, pc.result ≠ some (.error failure inBackoff)) :
    ReadsFailure state old pc :=
  fun failure inBackoff returns => absurd returns (silent failure inBackoff)

/-- A call moves to a place where it need not own the lock and waits for
nothing new. -/
theorem quiet_of_unowned {after : State} (here : (state.callers caller).pc = old)
    (moved : Moved state after caller pc)
    (reconnect : after.reconnect = state.reconnect) (notify : after.notify = state.notify)
    (failures : after.failures = state.failures) (move : state.lock.Move caller after.lock)
    (leads : pc.leads = old.leads) (signals : pc.signals = old.signals)
    (waits : pc.waits = none ∨ pc.waits = old.waits)
    (heard : pc.heard = false ∨ pc.heard = old.heard) (owns : pc.owns = false)
    (reads : ReadsFailure state old pc) :
    Quiet state after caller pc := by
  subst here
  exact {
    moved := moved, reconnect := reconnect, notify := notify, failures := failures
    lock := move, leads := leads, signals := signals, reads := reads
    waits := by
      intro wait waiting
      rcases waits with idle | same
      · rw [idle] at waiting
        cases waiting
      · rw [← same]
        exact waiting
    heard := by
      intro hears
      rcases heard with deaf | same
      · rw [deaf] at hears
        cases hears
      · left
        rw [← same]
        exact hears
    owns := by simp [owns]
    settled := by
      rintro wait rfl
      simp [Pc.owns] at owns }

/-- Returning the connection that `live_connection` found. -/
theorem quiet_ready {after : State} {conn : Nat} (here : (state.callers caller).pc = old)
    (moved : Moved state after caller (.returned (.ok conn)))
    (reconnect : after.reconnect = state.reconnect) (notify : after.notify = state.notify)
    (failures : after.failures = state.failures) (move : state.lock.Move caller after.lock)
    (leads : old.leads = none) (signals : old.signals = none) :
    Quiet state after caller (.returned (.ok conn)) :=
  quiet_of_unowned here moved reconnect notify failures move leads.symm signals.symm
    (.inl rfl) (.inl rfl) rfl (readsFailure_of_no_error (by simp [Pc.result]))

/-- The two places that read the failure without looking at its age. -/
theorem quiet_failOrRetry (here : (state.callers caller).pc = old)
    (held : state.lock.holder = some caller)
    (reader : old.heard = true ∨ ∃ wait, old = .preWaitLive wait)
    (leads : old.leads = none) (signals : old.signals = none) :
    ∃ pc, Quiet state (state.failOrRetry caller) caller pc := by
  unfold State.failOrRetry
  cases recorded : state.reconnect.lastFailure with
  | none =>
      exact ⟨_, quiet_of_unowned here rfl rfl rfl rfl (.release held) leads.symm signals.symm
        (.inl rfl) (.inl rfl) rfl (readsFailure_of_no_error (by simp [Pc.result]))⟩
  | some entry =>
      obtain ⟨last, failure⟩ := entry
      refine ⟨_, quiet_of_unowned here rfl rfl rfl rfl (.release held) leads.symm signals.symm
        (.inl rfl) (.inl rfl) rfl ?_⟩
      intro returned inBackoff same
      simp only [Pc.result, Option.some.injEq, Outcome.error.injEq] at same
      obtain ⟨rfl, rfl⟩ := same
      exact .inr ⟨⟨last, recorded⟩, reader⟩

/-- The decision under the lock. -/
theorem took_decide {action : Action} (owned : Owned state)
    (here : (state.callers caller).pc = .deciding) : Took state action (state.decide caller) := by
  have held : state.lock.holder = some caller := owned caller (by rw [here]; rfl)
  unfold State.decide
  cases open_ : state.backoffFailure with
  | some failure =>
      refine .quiet caller _ (quiet_of_unowned here rfl rfl rfl rfl (.release held) rfl rfl
        (.inl rfl) (.inl rfl) rfl ?_)
      intro returned inBackoff same
      simp only [Pc.result, Option.some.injEq, Outcome.error.injEq] at same
      exact .inl same.2.symm
  | none =>
      simp only
      split
      · rename_i inFlight
        cases registered : state.reconnect.done with
        | some done => exact .joined caller done here inFlight registered
        | none =>
            exact .quiet caller _ (quiet_of_unowned here rfl rfl rfl rfl (.release held) rfl rfl
              (.inl rfl) (.inl rfl) rfl (readsFailure_of_no_error (by simp [Pc.result])))
      · rename_i free
        exact .led caller here (by simpa using free)

/-- Running on from a place that locked. -/
theorem took_enter {action : Action} {site : Site}
    (here : (state.callers caller).pc = .locking site)
    (held : state.lock.holder = some caller) : Took state action (state.enter caller site) := by
  cases site with
  | loopTop =>
      unfold State.enter
      cases state.liveConnection with
      | some conn =>
          exact .quiet caller _ (quiet_ready here rfl rfl rfl rfl (.release held) rfl rfl)
      | none =>
          refine .quiet caller .deciding ⟨rfl, rfl, rfl, rfl, .keep, ?_, ?_, ?_, ?_, ?_, ?_, ?_⟩
          all_goals simp [here, held, State.setPc, Pc.leads, Site.leads, Pc.signals, Pc.waits,
            Pc.heard, ReadsFailure, Pc.result]
  | preWait wait =>
      unfold State.enter
      simp only
      split
      · exact .quiet caller _ (quiet_of_unowned here rfl rfl rfl rfl (.release held) rfl rfl
          (.inr rfl) (.inl rfl) rfl (readsFailure_of_no_error (by simp [Pc.result])))
      · rename_i landed
        refine .quiet caller (.preWaitLive wait)
          ⟨rfl, rfl, rfl, rfl, .keep, ?_, ?_, ?_, ?_, ?_, ?_, ?_⟩
        all_goals simp [here, held, landed, State.setPc, Pc.leads, Site.leads, Pc.signals, Pc.waits,
          Site.waits, Pc.heard, ReadsFailure, Pc.result]
  | postWake =>
      obtain ⟨pc, moved⟩ := quiet_failOrRetry here held (.inl rfl) rfl rfl
      exact .quiet caller pc moved
  | failed done error => exact .failed caller done error here held
  | connected done conn =>
      refine .quiet caller (.publishing done conn)
        ⟨rfl, rfl, rfl, rfl, .keep, ?_, ?_, ?_, ?_, ?_, ?_, ?_⟩
      all_goals simp [here, held, State.enter, State.setPc, Pc.leads, Site.leads, Pc.signals,
        Pc.waits, Pc.heard, ReadsFailure, Pc.result]

/-- Running a call. -/
theorem took_advance {after : State} (owned : Owned state)
    (taken : state.advance caller = some after) : Took state (.run caller) after := by
  unfold State.advance at taken
  cases here : (state.callers caller).pc with
  | idle | dialing | returned | dropped => simp [here] at taken
  | entering | joined | woken =>
      simp only [here] at taken
      cases live : state.liveConnection with
      | some conn =>
          simp only [live, Option.some.injEq] at taken
          subst taken
          exact .quiet caller _ (quiet_ready here rfl rfl rfl rfl .keep rfl rfl)
      | none =>
          simp only [live, Option.some.injEq] at taken
          subst taken
          exact .quiet caller _ (quiet_of_unowned here rfl rfl rfl rfl .keep rfl rfl
            (.inr rfl) (.inr rfl) rfl (readsFailure_of_no_error (by simp [Pc.result])))
  | asking site =>
      simp only [here, Option.some.injEq] at taken
      subst taken
      have heard : (Pc.locking site).heard = (Pc.asking site).heard := by cases site <;> rfl
      exact .quiet caller _ (quiet_of_unowned here rfl rfl rfl rfl .lock rfl rfl
        (.inr rfl) (.inr heard) rfl (readsFailure_of_no_error (by simp [Pc.result])))
  | locking site =>
      simp only [here] at taken
      split at taken
      · rename_i held
        simp only [Option.some.injEq] at taken
        subst taken
        exact took_enter here held
      · cases taken
  | deciding =>
      simp only [here, Option.some.injEq] at taken
      subst taken
      exact took_decide owned here
  | preWaitLive wait =>
      have held : state.lock.holder = some caller := owned caller (by rw [here]; rfl)
      simp only [here] at taken
      cases live : state.liveConnection with
      | some conn =>
          simp only [live, Option.some.injEq] at taken
          subst taken
          exact .quiet caller _ (quiet_ready here rfl rfl rfl rfl (.release held) rfl rfl)
      | none =>
          simp only [live, Option.some.injEq] at taken
          subst taken
          obtain ⟨pc, moved⟩ := quiet_failOrRetry here held (.inr ⟨wait, rfl⟩) rfl rfl
          exact .quiet caller pc moved
  | waiting wait =>
      simp only [here] at taken
      split at taken
      · rename_i woken
        simp only [Option.some.injEq] at taken
        subst taken
        refine .quiet caller .woken ⟨rfl, rfl, rfl, rfl, .keep, ?_, ?_, ?_, ?_, ?_, ?_, ?_⟩
        all_goals simp [here, woken, Pc.leads, Pc.signals, Pc.waits, Pc.owns, ReadsFailure,
          Pc.result]
      · cases taken
  | clearing done | clearingAuth done | storingAuth done conn =>
      simp only [here, Option.some.injEq] at taken
      subst taken
      exact .quiet caller _ (quiet_of_unowned here rfl rfl rfl rfl .keep rfl rfl
        (.inl rfl) (.inl rfl) rfl (readsFailure_of_no_error (by simp [Pc.result])))
  | publishing done conn =>
      simp only [here, Option.some.injEq] at taken
      subst taken
      exact .succeeded caller done conn here
  | signalling done result =>
      simp only [here, Option.some.injEq] at taken
      subst taken
      exact .signalled caller done result here
  | dropping done =>
      simp only [here, Option.some.injEq] at taken
      subst taken
      exact .guarded caller done here

theorem took_of_step {action : Action} {after : State} (owned : Owned state)
    (taken : step state action = some after) : Took state action after := by
  cases action with
  | tick elapsed =>
      obtain rfl := Option.some.inj taken
      exact .environment (state.now + elapsed) state.closed
  | close conn =>
      obtain rfl := Option.some.inj taken
      exact .environment state.now (Function.update state.closed conn true)
  | begin caller record =>
      simp only [step] at taken
      split at taken
      · rename_i idle
        obtain rfl := Option.some.inj taken
        exact .began caller record idle
      · cases taken
  | run caller => exact took_advance owned taken
  | dial caller result =>
      simp only [step] at taken
      split at taken
      · rename_i here
        obtain rfl := Option.some.inj taken
        exact .quiet caller _ (quiet_of_unowned here rfl rfl rfl rfl .keep rfl rfl
          (.inl rfl) (.inl rfl) rfl (readsFailure_of_no_error (by simp [Pc.result])))
      · rename_i here
        obtain rfl := Option.some.inj taken
        exact .quiet caller _ (quiet_of_unowned here rfl rfl rfl rfl .keep rfl rfl
          (.inl rfl) (.inl rfl) rfl (readsFailure_of_no_error (by simp [Pc.result])))
      · cases taken
  | cancel caller =>
      simp only [step] at taken
      split at taken
      · rename_i suspended
        obtain rfl := Option.some.inj taken
        have signals : (state.callers caller).pc.signals = none := by
          cases here : (state.callers caller).pc <;>
            first | rfl | simp [here, State.awaits] at suspended
        cases leads : (state.callers caller).pc.leads with
        | some done =>
            exact .quiet caller (.dropping done) (quiet_of_unowned rfl rfl rfl rfl rfl .abandon
              leads.symm signals.symm (.inl rfl) (.inl rfl) rfl
              (readsFailure_of_no_error (by simp [Pc.result])))
        | none =>
            exact .quiet caller .dropped (quiet_of_unowned rfl rfl rfl rfl rfl .abandon
              leads.symm signals.symm (.inl rfl) (.inl rfl) rfl
              (readsFailure_of_no_error (by simp [Pc.result])))
      · cases taken

end Inversion

end Juicity.Client.Reconnect
