import Juicity.Client.Reconnect.Invariant

/-!
Owns the age of the errors `connect` returns. Only the decision under the lock
compares a recorded failure with its backoff window; a call that waited for
another attempt reads the record whatever its age. The errors are fresh in the
runs where no guard wakes a waiting `connect` call while the record still holds
a failure from before that call.
-/

namespace Juicity.Client.Reconnect

open Juicity.Common
open Juicity.Machine

/-- The error was produced by an attempt that ended after the call began, or was
read inside its backoff window. -/
def NeverStale (state : State) : Prop :=
  ∀ caller failure inBackoff, (state.callers caller).record = true →
    (state.callers caller).pc = .returned (.error failure inBackoff) →
      inBackoff = true ∨ (state.callers caller).began ≤ failure.serial

/-- The record holds no failure from before the call. -/
def Fresh (state : State) (caller : Nat) : Prop :=
  ∀ last failure, state.reconnect.lastFailure = some (last, failure) →
    (state.callers caller).began ≤ failure.serial

/-- When the guard of a dropped leader clears the record, no failure recorded
before a `connect` call that joined this leader is left in it. -/
def GuardLeavesNoOldFailure (state : State) (action : Action) : Prop :=
  ∀ leader done, action = .run leader → (state.callers leader).pc = .dropping done →
    state.lock.holder = none → ∀ caller wait, (state.callers caller).record = true →
      (state.callers caller).pc.waits = some wait → wait.id = done → Fresh state caller

/-- The attempt the call waits for will record its failure. -/
def WillRecord (state : State) (wait : Notified) : Prop :=
  state.notify.Pending wait ∧ state.reconnect.recordFailure = true ∧
    state.reconnect.done = some wait.id

structure Timely (state : State) : Prop where
  began_le : ∀ caller, (state.callers caller).began ≤ state.failures
  waiter : ∀ caller wait, (state.callers caller).record = true →
    (state.callers caller).pc.waits = some wait → Fresh state caller ∨ WillRecord state wait
  heard : ∀ caller, (state.callers caller).record = true →
    (state.callers caller).pc.heard = true → Fresh state caller
  result : ∀ caller failure inBackoff, (state.callers caller).record = true →
    (state.callers caller).pc.result = some (.error failure inBackoff) →
      inBackoff = true ∨ (state.callers caller).began ≤ failure.serial

theorem timely_initial : Timely initial where
  began_le := by simp [initial]
  waiter := by simp [initial]
  heard := by simp [initial]
  result := by simp [initial]

section Preservation

variable {state after : State} {caller : Nat} {pc : Pc}

theorem Timely.neverStale (timely : Timely state) : NeverStale state := by
  intro caller failure inBackoff records returned
  exact timely.result caller failure inBackoff records (by rw [returned]; rfl)

/-- A call that began at a recorded count sees later failures as fresh. -/
theorem Fresh.moved {other : Nat} (fresh : Fresh state other)
    (moved : Moved state after caller pc)
    (same : after.reconnect.lastFailure = state.reconnect.lastFailure) : Fresh after other := by
  intro last failure recorded
  rw [moved.began_eq]
  exact fresh last failure (by rw [← same]; exact recorded)

/-- A call that was woken finds no failure from before it. -/
theorem Timely.fresh_of_woken (timely : Timely state) {wait : Notified}
    (records : (state.callers caller).record = true)
    (waiting : (state.callers caller).pc.waits = some wait)
    (woken : state.notify.Woken wait) : Fresh state caller := by
  rcases timely.waiter caller wait records waiting with fresh | ⟨pending, _⟩
  · exact fresh
  · exact absurd woken pending.not_woken

theorem Timely.quiet (core : Core state) (timely : Timely state)
    (keeps : Quiet state after caller pc) : Timely after where
  began_le := by
    intro other
    rw [keeps.moved.began_eq, keeps.failures]
    exact timely.began_le other
  waiter := by
    intro other wait
    rw [keeps.moved.record_eq]
    intro records waiting
    rcases timely.waiter other wait records (keeps.waits_imp other wait waiting) with fresh | will
    · exact .inl (fresh.moved keeps.moved (by rw [keeps.reconnect]))
    · right
      simpa only [WillRecord, keeps.notify, keeps.reconnect] using will
  heard := by
    intro other
    rw [keeps.moved.record_eq]
    intro records hears
    apply Fresh.moved _ keeps.moved (by rw [keeps.reconnect])
    revert hears
    apply keeps.moved.forall_pc (motive := fun other pc =>
      (state.callers other).record = true → pc.heard = true → Fresh state other) ?_ ?_ other records
    · intro records hears
      rcases keeps.heard hears with before | ⟨wait, waiting, woken⟩
      · exact timely.heard caller records before
      · exact timely.fresh_of_woken records waiting woken
    · exact fun other _ => timely.heard other
  result := by
    intro other failure inBackoff
    rw [keeps.moved.record_eq, keeps.moved.began_eq]
    apply keeps.moved.forall_pc (motive := fun other pc =>
      (state.callers other).record = true → pc.result = some (.error failure inBackoff) →
        inBackoff = true ∨ (state.callers other).began ≤ failure.serial)
    · intro records returns
      rcases keeps.reads failure inBackoff returns with inside | ⟨⟨last, recorded⟩, reader⟩
      · exact .inl inside
      · right
        rcases reader with before | ⟨wait, standing⟩
        · exact timely.heard caller records before last failure recorded
        · -- the attempt this call joined is over, so it cannot be about to record
          have waiting : (state.callers caller).pc.waits = some wait := by rw [standing]; rfl
          rcases timely.waiter caller wait records waiting with fresh | ⟨_, _, registered⟩
          · exact fresh last failure recorded
          · have landed := core.settled caller wait standing
            rw [core.flight, registered] at landed
            cases landed
    · exact fun other _ => timely.result other failure inBackoff

/-- A step that touches only the wake-ups, the flags and the place of a call
that ends up without a role. -/
theorem Timely.moved (timely : Timely state) (moved : Moved state after caller pc)
    (failures : state.failures ≤ after.failures)
    (silent : pc.heard = false)
    (result : ∀ failure inBackoff, (state.callers caller).record = true →
      pc.result = some (.error failure inBackoff) →
        inBackoff = true ∨ (state.callers caller).began ≤ failure.serial)
    (fresh : ∀ other, Fresh state other → Fresh after other)
    (subscribed : ∀ wait, (state.callers caller).record = true → pc.waits = some wait →
      WillRecord after wait)
    (will : ∀ other wait, other ≠ caller → (state.callers other).record = true →
      (state.callers other).pc.waits = some wait → WillRecord state wait →
        Fresh after other ∨ WillRecord after wait) : Timely after where
  began_le := by
    intro other
    rw [moved.began_eq]
    exact Nat.le_trans (timely.began_le other) failures
  waiter := by
    intro other wait
    rw [moved.record_eq]
    apply moved.forall_pc (motive := fun other pc => (state.callers other).record = true →
      pc.waits = some wait → Fresh after other ∨ WillRecord after wait)
    · exact fun records waiting => .inr (subscribed wait records waiting)
    · intro other different records waiting
      rcases timely.waiter other wait records waiting with before | pending
      · exact .inl (fresh other before)
      · exact will other wait different records waiting pending
  heard := by
    intro other
    rw [moved.record_eq]
    apply moved.forall_pc (motive := fun other pc => (state.callers other).record = true →
      pc.heard = true → Fresh after other)
    · intro _ hears
      rw [silent] at hears
      cases hears
    · exact fun other _ records hears => fresh other (timely.heard other records hears)
  result := by
    intro other failure inBackoff
    rw [moved.record_eq, moved.began_eq]
    apply moved.forall_pc (motive := fun other pc =>
      (state.callers other).record = true → pc.result = some (.error failure inBackoff) →
        inBackoff = true ∨ (state.callers other).began ≤ failure.serial)
    · exact result failure inBackoff
    · exact fun other _ => timely.result other failure inBackoff

/-- A new call began after every recorded failure. -/
theorem Timely.began (timely : Timely state) (record : Bool)
    (idle : (state.callers caller).pc = .idle) :
    Timely { state with
      callers := Function.update state.callers caller ⟨record, state.failures, .entering⟩ } := by
  constructor
  case began_le =>
    intro other
    by_cases same : other = caller
    · subst same
      simp
    · simpa [same] using timely.began_le other
  case waiter =>
    intro other wait
    by_cases same : other = caller
    · subst same
      simp [Pc.waits]
    · simpa [same, Fresh, WillRecord] using timely.waiter other wait
  case heard =>
    intro other
    by_cases same : other = caller
    · subst same
      simp [Pc.heard]
    · simpa [same, Fresh] using timely.heard other
  case result =>
    intro other failure inBackoff
    by_cases same : other = caller
    · subst same
      simp [Pc.result]
    · simpa [same] using timely.result other failure inBackoff

theorem Timely.joined (timely : Timely state) {done : Nat}
    (registered : state.reconnect.done = some done) : Timely (state.join caller done) := by
  have moved : Moved state (state.join caller done) caller
    (.joined (state.notify.notified done)) := rfl
  apply timely.moved moved
  · exact Nat.le_refl _
  · rfl
  · simp [Pc.result]
  · exact fun other fresh => fresh.moved moved rfl
  · intro wait records subscribed
    obtain rfl := Option.some.inj subscribed
    refine ⟨state.notify.pending_notified done, ?_, registered⟩
    show (state.reconnect.recordFailure || (state.callers caller).record) = true
    rw [records, Bool.or_true]
  · intro other wait _ _ _ will
    obtain ⟨pending, records, here⟩ := will
    refine .inr ⟨pending, ?_, here⟩
    show (state.reconnect.recordFailure || (state.callers caller).record) = true
    rw [records, Bool.true_or]

theorem Timely.led (core : Core state) (timely : Timely state)
    (free : state.reconnect.inFlight = false) : Timely (state.lead caller) := by
  have moved : Moved state (state.lead caller) caller (.clearing state.notify.fresh) := rfl
  apply timely.moved moved
  · exact Nat.le_refl _
  · rfl
  · simp [Pc.result]
  · exact fun other fresh => fresh.moved moved rfl
  · simp [Pc.waits]
  · intro other wait _ _ _ will
    rw [core.flight, will.2.2] at free
    cases free

/-- A recorded failure is fresh for every call that runs, and an attempt that
some `connect` call waits for is recorded. -/
theorem Timely.failed (timely : Timely state) {done : Nat} {error : String} :
    Timely (state.publishFailure caller done error) := by
  have moved : Moved state (state.publishFailure caller done error) caller
    (.signalling done (.error ⟨error, state.failures⟩ false)) := rfl
  have recordedFresh : state.reconnect.recordFailure = true →
      ∀ other, Fresh (state.publishFailure caller done error) other := by
    intro records other last failure recorded
    rw [moved.began_eq]
    simp only [State.publishFailure, records, if_true, Option.some.injEq, Prod.mk.injEq] at recorded
    rw [← recorded.2]
    exact timely.began_le other
  apply timely.moved moved
  · exact Nat.le_succ _
  · rfl
  · intro failure inBackoff _ same
    simp only [Pc.result, Option.some.injEq, Outcome.error.injEq] at same
    rw [← same.1]
    exact .inr (timely.began_le caller)
  · intro other fresh
    by_cases records : state.reconnect.recordFailure = true
    · exact recordedFresh records other
    · apply fresh.moved moved
      simp [State.publishFailure, records]
  · simp [Pc.waits]
  · exact fun other wait _ _ _ will => .inl (recordedFresh will.2.1 other)

theorem Timely.succeeded (timely : Timely state) {done conn : Nat} :
    Timely (state.publishSuccess caller done conn) := by
  have moved : Moved state (state.publishSuccess caller done conn) caller
    (.signalling done (.ok conn)) := rfl
  have nothing : ∀ other, Fresh (state.publishSuccess caller done conn) other := by
    intro other last failure recorded
    cases recorded
  apply timely.moved moved
  · exact Nat.le_refl _
  · rfl
  · simp [Pc.result]
  · exact fun other _ => nothing other
  · simp [Pc.waits]
  · exact fun other wait _ _ _ _ => .inl (nothing other)

/-- The signal of a published attempt leaves the waiters of a running one alone. -/
theorem Timely.signalled (core : Core state) (timely : Timely state) {done : Nat}
    {result : Outcome} (here : (state.callers caller).pc = .signalling done result) :
    Timely { state.setPc caller (.returned result) with
      notify := state.notify.notifyWaiters done } := by
  have moved : Moved state { state.setPc caller (.returned result) with
    notify := state.notify.notifyWaiters done } caller (.returned result) := rfl
  apply timely.moved moved
  · exact Nat.le_refl _
  · rfl
  · intro failure inBackoff records same
    exact timely.result caller failure inBackoff records (by rw [here]; exact same)
  · exact fun other fresh => fresh.moved moved rfl
  · simp [Pc.waits]
  · intro other wait _ _ _ will
    obtain ⟨pending, records, registered⟩ := will
    have different : wait.id ≠ done := by
      intro same
      exact (core.signaller caller done (by rw [here]; rfl)).2 (by rw [← same]; exact registered)
    rcases pending.notifyWaiters done with woken | ⟨_, stillPending⟩
    · unfold Registry.Woken at woken
      rw [Registry.notifyWaiters_calls_ne state.notify different, pending] at woken
      exact absurd woken (Nat.lt_irrefl _)
    · exact .inr ⟨stillPending, records, registered⟩

theorem Timely.guarded (core : Core state) (timely : Timely state) {done : Nat}
    (here : (state.callers caller).pc = .dropping done)
    (fine : GuardLeavesNoOldFailure state (.run caller)) : Timely (state.dropGuard caller) := by
  by_cases free : state.lock.holder = none
  · have unfolded : state.dropGuard caller = _ :=
      dropGuard_of_free core here free
    have moved : Moved state (state.dropGuard caller) caller .dropped := by
      rw [unfolded]
      rfl
    apply timely.moved moved
    · rw [unfolded]
      exact Nat.le_refl _
    · rfl
    · simp [Pc.result]
    · intro other fresh
      apply fresh.moved moved
      rw [unfolded]
    · simp [Pc.waits]
    · intro other wait _ records waiting will
      -- the waiters of the dropped leader are those the condition speaks of
      have registered := core.leader caller done (by rw [here]; rfl)
      rw [will.2.2] at registered
      have fresh := fine caller done rfl here free other wait records waiting
        (Option.some.inj registered)
      left
      apply fresh.moved moved
      rw [unfolded]
  · rw [dropGuard_of_taken free]
    have moved : Moved state (state.setPc caller .dropped) caller .dropped := rfl
    apply timely.moved moved
    · exact Nat.le_refl _
    · rfl
    · simp [Pc.result]
    · exact fun other fresh => fresh.moved moved rfl
    · simp [Pc.waits]
    · exact fun other wait _ _ _ will => .inr will

theorem Timely.preserved {action : Action} (core : Core state) (timely : Timely state)
    (fine : GuardLeavesNoOldFailure state action) (taken : step state action = some after) :
    Timely after := by
  cases took_of_step core.owned taken with
  | environment now closed =>
      exact ⟨timely.began_le, timely.waiter, timely.heard, timely.result⟩
  | began caller record idle => exact timely.began record idle
  | quiet caller pc keeps => exact timely.quiet core keeps
  | joined caller done here inFlight registered => exact timely.joined registered
  | led caller here free => exact timely.led core free
  | failed caller done error here held => exact timely.failed
  | succeeded caller done conn here => exact timely.succeeded
  | signalled caller done result here => exact timely.signalled core here
  | guarded caller done here => exact timely.guarded core here fine

end Preservation

/-- The invariant of the runs in which no guard leaves an old failure behind. -/
structure Sound (state : State) : Prop where
  core : Core state
  timely : Timely state

/-- `connect` never returns a stale failure in a run whose guards leave no old
failure to the calls they wake. -/
theorem neverStale_of_guardLeavesNoOldFailure {history : List (State × Action)} {final : State}
    (run : Run step initial history final) (fine : Allowed GuardLeavesNoOldFailure history) :
    Everywhere NeverStale history final := by
  have start : Sound initial := ⟨core_initial, timely_initial⟩
  have every : Everywhere Sound history final := by
    apply run.invariant_of_allowed start _ fine
    intro state action after held fine taken
    exact ⟨held.core.preserved taken, held.timely.preserved held.core fine taken⟩
  exact every.mono fun state held => held.timely.neverStale

/-! ## A waiter woken by the guard of a dropped leader -/

/-- Call 0 fails and its failure is recorded; 31 seconds later the window is
over and call 1 dials; call 2 joins it, waits, and call 1 is dropped. -/
def wokenSchedule : List Action :=
  leadSchedule 0 ++ [.dial 0 (.error "unreachable"), .run 0, .run 0, .run 0,
    .tick (Duration.fromSecs 31)] ++ leadSchedule 1 ++
    (.begin 2 true :: List.replicate 7 (.run 2)) ++ [.cancel 1, .run 1]

/-- Call 2 resumes and reads the record. -/
def staleSchedule : List Action := wokenSchedule ++ List.replicate 4 (.run 2)

theorem not_neverStale_of_woken_waiter :
    ¬ ∀ state, Reachable step initial state → NeverStale state := by
  have executed : (exec step initial staleSchedule).any (fun state =>
      (state.callers 2).record && (state.callers 2).began = 1 &&
        (state.callers 2).pc = .returned (.error ⟨"unreachable", 0⟩ false)) = true := by
    decide
  obtain ⟨state, ended, facts⟩ := (Option.any_eq_true _ _).mp executed
  simp only [Bool.and_eq_true, decide_eq_true_eq] at facts
  intro always
  rcases always state (reachable_of_exec ended) 2 _ _ facts.1.1 facts.2 with inside | fresh
  · cases inside
  · rw [facts.1.2] at fresh
    exact absurd fresh (by decide)

/-- Call 0 dials, call 1 joins it and waits, call 0 is dropped and its guard
wakes call 1, which takes the lead. -/
def handoverSchedule : List Action :=
  leadSchedule 0 ++ (.begin 1 true :: List.replicate 7 (.run 1)) ++
    [.cancel 0, .run 0] ++ List.replicate 8 (.run 1)

theorem neverStale_of_guardLeavesNoOldFailure_sample :
    Everywhere NeverStale (trace step initial handoverSchedule)
      ((exec step initial handoverSchedule).getD initial) := by
  have executed : (exec step initial handoverSchedule).any (fun state =>
      (state.callers 1).pc.leads.isSome) = true := by decide
  have unrecorded : (trace step initial handoverSchedule).all (fun entry =>
      entry.1.reconnect.lastFailure.isNone) = true := by decide
  obtain ⟨final, ended, _⟩ := (Option.any_eq_true _ _).mp executed
  rw [ended]
  apply neverStale_of_guardLeavesNoOldFailure (run_trace ended)
  intro entry member leader done _ _ _ caller wait _ _ _ last failure recorded
  have empty := List.all_eq_true.mp unrecorded entry member
  rw [recorded] at empty
  cases empty

end Juicity.Client.Reconnect
