import Juicity.Client.Reconnect.Steps

/-!
Contract: what holds in every reachable state of the reconnect protocol,
whatever is cancelled and whenever. A leader always finds its own `Notify` in
the record and is alone, and every subscribed call is woken or waits on a
`Notify` that is still in the record or about to be signalled. What is missing
for progress is the converse: a record in flight need not have a leader.
-/

namespace Juicity.Client.Reconnect

open Juicity.Common
open Juicity.Machine

/-- The wake-up was signalled, or its `Notify` is in the record or in the hands
of a call that is about to signal it. -/
def Covered (state : State) (wait : Notified) : Prop :=
  state.notify.Woken wait ∨
    (state.notify.Pending wait ∧
      (state.reconnect.done = some wait.id ∨
        ∃ caller, (state.callers caller).pc.signals = some wait.id))

/-- The unconditional invariant. -/
structure Core (state : State) : Prop where
  owned : Owned state
  settled : ∀ caller wait, (state.callers caller).pc = .preWaitLive wait →
    state.reconnect.inFlight = false
  flight : state.reconnect.inFlight = state.reconnect.done.isSome
  fresh : ∀ done, state.reconnect.done = some done → done < state.notify.fresh
  leader : ∀ caller done, (state.callers caller).pc.leads = some done →
    state.reconnect.done = some done
  alone : ∀ caller other done done', (state.callers caller).pc.leads = some done →
    (state.callers other).pc.leads = some done' → caller = other
  signaller : ∀ caller done, (state.callers caller).pc.signals = some done →
    done < state.notify.fresh ∧ state.reconnect.done ≠ some done
  waiter : ∀ caller wait, (state.callers caller).pc.waits = some wait → Covered state wait

theorem core_initial : Core initial where
  owned := by simp [Owned, initial, Pc.owns]
  settled := by simp [initial]
  flight := rfl
  fresh := by simp [initial, ReconnectState.default]
  leader := by simp [initial, Pc.leads]
  alone := by simp [initial, Pc.leads]
  signaller := by simp [initial, Pc.signals]
  waiter := by simp [initial, Pc.waits]

section Preservation

variable {state after : State} {caller : Nat} {pc : Pc}

/-- Ownership of the lock survives whatever one call does to it. -/
theorem Owned.moved (owned : Owned state) (moved : Moved state after caller pc)
    (move : state.lock.Move caller after.lock)
    (self : pc.owns = true → after.lock.holder = some caller) : Owned after := by
  intro other
  apply moved.forall_pc (motive := fun other pc => pc.owns = true → after.lock.holder = some other)
  · exact self
  · intro other different owns
    exact move.holder (owned other owns) different

/-- A call that owns the lock keeps every other call out of the critical section. -/
theorem Core.not_owned_by_other (core : Core state) {other : Nat}
    (held : state.lock.holder = some caller) (different : other ≠ caller) :
    (state.callers other).pc.owns = false := by
  by_contra owns
  have otherHeld := core.owned other (by simpa using owns)
  rw [held] at otherHeld
  exact different (Option.some.inj otherHeld).symm

theorem Quiet.leads_eq (keeps : Quiet state after caller pc) (other : Nat) :
    (after.callers other).pc.leads = (state.callers other).pc.leads :=
  keeps.moved.role_eq Pc.leads keeps.leads other

theorem Quiet.signals_eq (keeps : Quiet state after caller pc) (other : Nat) :
    (after.callers other).pc.signals = (state.callers other).pc.signals :=
  keeps.moved.role_eq Pc.signals keeps.signals other

theorem Quiet.waits_imp (keeps : Quiet state after caller pc) (other : Nat) (wait : Notified) :
    (after.callers other).pc.waits = some wait → (state.callers other).pc.waits = some wait := by
  apply keeps.moved.forall_pc (motive := fun other pc =>
    pc.waits = some wait → (state.callers other).pc.waits = some wait)
  · exact keeps.waits wait
  · exact fun _ _ waiting => waiting

theorem Core.quiet (core : Core state) (keeps : Quiet state after caller pc) : Core after where
  owned := core.owned.moved keeps.moved keeps.lock keeps.owns
  settled := by
    rw [keeps.reconnect]
    intro other wait
    apply keeps.moved.forall_pc
      (motive := fun _ pc => pc = .preWaitLive wait → state.reconnect.inFlight = false)
    · exact keeps.settled wait
    · exact fun other _ => core.settled other wait
  flight := by
    rw [keeps.reconnect]
    exact core.flight
  fresh := by
    rw [keeps.reconnect, keeps.notify]
    exact core.fresh
  leader := by
    intro other
    rw [keeps.leads_eq, keeps.reconnect]
    exact core.leader other
  alone := by
    intro first second
    rw [keeps.leads_eq, keeps.leads_eq]
    exact core.alone first second
  signaller := by
    intro other
    rw [keeps.signals_eq, keeps.reconnect, keeps.notify]
    exact core.signaller other
  waiter := by
    intro other wait waiting
    have covered := core.waiter other wait (keeps.waits_imp other wait waiting)
    simp only [Covered, keeps.notify, keeps.reconnect, keeps.signals_eq]
    exact covered

/-- No call is about to join where none was, unless the moved one is. -/
theorem Core.settled_moved (core : Core state) (moved : Moved state after caller pc)
    (outside : ∀ wait, pc ≠ .preWaitLive wait) (other : Nat) (wait : Notified) :
    (after.callers other).pc = .preWaitLive wait → state.reconnect.inFlight = false := by
  apply moved.forall_pc
    (motive := fun _ pc => pc = .preWaitLive wait → state.reconnect.inFlight = false)
  · exact fun standing => absurd standing (outside wait)
  · exact fun other _ => core.settled other wait

/-- Nobody leads once the leader does not. -/
theorem Core.nobody_leads (core : Core state) (moved : Moved state after caller pc) {done : Nat}
    (leads : (state.callers caller).pc.leads = some done) (quits : pc.leads = none) (other : Nat) :
    (after.callers other).pc.leads = none := by
  apply moved.forall_pc (motive := fun _ pc => pc.leads = none)
  · exact quits
  · intro other different
    cases otherLeads : (state.callers other).pc.leads with
    | none => rfl
    | some done' => exact absurd (core.alone other caller done' done otherLeads leads) different

/-- The waiting calls stay covered when each subscription does. -/
theorem Core.waiter_moved (core : Core state) (moved : Moved state after caller pc)
    (quits : pc.waits = none) (keeps : ∀ wait, Covered state wait → Covered after wait)
    (other : Nat) (wait : Notified) :
    (after.callers other).pc.waits = some wait → Covered after wait := by
  apply moved.forall_pc (motive := fun _ pc => pc.waits = some wait → Covered after wait)
  · intro waits
    rw [quits] at waits
    cases waits
  · exact fun other _ waits => keeps wait (core.waiter other wait waits)

/-- A waiting call stays covered while the signals go on as before and the
record keeps its `Notify`, hands it to a signalling call or signals it. -/
theorem Covered.moved (moved : Moved state after caller pc) {wait : Notified}
    (covered : Covered state wait)
    (notify : after.notify.calls = state.notify.calls)
    (registered : state.reconnect.done = some wait.id →
      after.reconnect.done = some wait.id ∨ pc.signals = some wait.id)
    (signals : (state.callers caller).pc.signals = none) : Covered after wait := by
  have sameWoken : after.notify.Woken wait ↔ state.notify.Woken wait := by
    simp only [Registry.Woken, notify]
  have samePending : after.notify.Pending wait ↔ state.notify.Pending wait := by
    simp only [Registry.Pending, notify]
  rcases covered with woken | ⟨pending, here | ⟨signaller, signalling⟩⟩
  · exact .inl (sameWoken.mpr woken)
  · refine .inr ⟨samePending.mpr pending, ?_⟩
    rcases registered here with still | handed
    · exact .inl still
    · exact .inr ⟨caller, by rw [moved.pc_self]; exact handed⟩
  · refine .inr ⟨samePending.mpr pending, .inr ⟨signaller, ?_⟩⟩
    have different : signaller ≠ caller := by
      rintro rfl
      rw [signals] at signalling
      cases signalling
    rw [moved.pc_other different]
    exact signalling

theorem Core.congr (core : Core state)
    (pcs : ∀ other, (after.callers other).pc = (state.callers other).pc)
    (lock : after.lock = state.lock) (reconnect : after.reconnect = state.reconnect)
    (notify : after.notify = state.notify) : Core after where
  owned := by simpa only [Owned, pcs, lock] using core.owned
  settled := by simpa only [pcs, reconnect] using core.settled
  flight := by simpa only [reconnect] using core.flight
  fresh := by simpa only [reconnect, notify] using core.fresh
  leader := by simpa only [pcs, reconnect] using core.leader
  alone := by simpa only [pcs] using core.alone
  signaller := by simpa only [pcs, reconnect, notify] using core.signaller
  waiter := by simpa only [pcs, Covered, reconnect, notify] using core.waiter

/-- A new call has no role yet. -/
theorem Core.began (core : Core state) (record : Bool)
    (idle : (state.callers caller).pc = .idle) :
    Core { state with
      callers := Function.update state.callers caller ⟨record, state.failures, .entering⟩ } := by
  let named : State := { state with
    callers := Function.update state.callers caller ⟨record, state.failures, .idle⟩ }
  have unmoved : ∀ other, (named.callers other).pc = (state.callers other).pc := by
    intro other
    by_cases same : other = caller
    · subst same
      simp [named, idle]
    · simp [named, same]
  have coreNamed : Core named := core.congr unmoved rfl rfl rfl
  have here : (named.callers caller).pc = .idle := by simp [named]
  have keeps : Quiet named (named.setPc caller .entering) caller .entering :=
    quiet_of_unowned here rfl rfl rfl rfl .keep rfl rfl (.inl rfl) (.inl rfl) rfl
      (readsFailure_of_no_error (by simp [Pc.result]))
  have stepped := coreNamed.quiet keeps
  simpa [named, State.setPc] using stepped

theorem Core.joined (core : Core state) {done : Nat}
    (here : (state.callers caller).pc = .deciding)
    (registered : state.reconnect.done = some done) : Core (state.join caller done) := by
  have held : state.lock.holder = some caller := core.owned caller (by rw [here]; rfl)
  have moved : Moved state (state.join caller done) caller
      (.joined (state.notify.notified done)) := rfl
  have sameLeads := moved.role_eq Pc.leads (by rw [here]; rfl)
  have sameSignals := moved.role_eq Pc.signals (by rw [here]; rfl)
  exact {
    owned := core.owned.moved moved (.release held) (by simp [Pc.owns])
    settled := core.settled_moved moved (by simp)
    flight := core.flight
    fresh := core.fresh
    leader := by
      intro other
      rw [sameLeads]
      exact core.leader other
    alone := by
      intro first second
      rw [sameLeads, sameLeads]
      exact core.alone first second
    signaller := by
      intro other
      rw [sameSignals]
      exact core.signaller other
    waiter := by
      intro other wait
      apply moved.forall_pc
        (motive := fun _ pc => pc.waits = some wait → Covered (state.join caller done) wait)
      · intro subscribed
        obtain rfl := Option.some.inj subscribed
        exact .inr ⟨state.notify.pending_notified done, .inl registered⟩
      · intro other _ waiting
        have covered := core.waiter other wait waiting
        simp only [Covered, sameSignals]
        exact covered }

theorem Core.led (core : Core state) (here : (state.callers caller).pc = .deciding)
    (free : state.reconnect.inFlight = false) : Core (state.lead caller) := by
  have held : state.lock.holder = some caller := core.owned caller (by rw [here]; rfl)
  have moved : Moved state (state.lead caller) caller (.clearing state.notify.fresh) := rfl
  have sameSignals := moved.role_eq Pc.signals (by rw [here]; rfl)
  have unregistered : state.reconnect.done = none := by
    simpa [core.flight] using free
  have nobodyLed : ∀ other, (state.callers other).pc.leads = none := by
    intro other
    cases leads : (state.callers other).pc.leads with
    | none => rfl
    | some done =>
        have registered := core.leader other done leads
        rw [unregistered] at registered
        cases registered
  have leader : ∀ other done, ((state.lead caller).callers other).pc.leads = some done →
      other = caller ∧ done = state.notify.fresh := by
    intro other done leads
    by_cases same : other = caller
    · subst same
      rw [moved.pc_self] at leads
      exact ⟨rfl, (Option.some.inj leads).symm⟩
    · rw [moved.pc_other same, nobodyLed] at leads
      cases leads
  exact {
    owned := core.owned.moved moved (.release held) (by simp [Pc.owns])
    settled := by
      -- the leader owned the lock, so no other call stands in its critical section
      intro other wait
      apply moved.forall_pc
        (motive := fun _ pc => pc = .preWaitLive wait →
          (state.lead caller).reconnect.inFlight = false)
      · simp
      · intro other different standing
        have outside := core.not_owned_by_other held different
        rw [standing] at outside
        cases outside
    flight := rfl
    fresh := by
      intro done registered
      obtain rfl := Option.some.inj registered
      exact Nat.lt_succ_self _
    leader := by
      intro other done leads
      rw [(leader other done leads).2]
      rfl
    alone := by
      intro first second done done' firstLeads secondLeads
      rw [(leader first done firstLeads).1, (leader second done' secondLeads).1]
    signaller := by
      intro other done
      rw [sameSignals]
      intro signals
      have known := (core.signaller other done signals).1
      refine ⟨Nat.lt_succ_of_lt known, ?_⟩
      show some state.notify.fresh ≠ some done
      simp only [ne_eq, Option.some.injEq]
      omega
    waiter := by
      refine core.waiter_moved moved rfl fun wait covered => covered.moved moved rfl ?_ ?_
      · simp [unregistered]
      · rw [here]
        rfl }

/-- A leader publishes: the record drops its `Notify`, which the call now has
to signal. Both paths of `lead_reconnect` end this way. -/
theorem Core.published (core : Core state) {done : Nat} {result : Outcome}
    (moved : Moved state after caller (.signalling done result))
    (leads : (state.callers caller).pc.leads = some done)
    (silent : (state.callers caller).pc.signals = none)
    (held : state.lock.holder = some caller) (unlocked : after.lock = state.lock.release)
    (inFlight : after.reconnect.inFlight = false) (unregistered : after.reconnect.done = none)
    (notify : after.notify = state.notify) : Core after := by
  have registered := core.leader caller done leads
  have nobodyLeads := core.nobody_leads moved leads rfl
  exact {
    owned := core.owned.moved moved (unlocked ▸ .release held) (by simp [Pc.owns])
    settled := fun _ _ _ => inFlight
    flight := by rw [inFlight, unregistered]; rfl
    fresh := by simp [unregistered]
    leader := by simp [nobodyLeads]
    alone := by simp [nobodyLeads]
    signaller := by
      rw [unregistered, notify]
      intro other done'
      apply moved.forall_pc (motive := fun _ pc =>
        pc.signals = some done' → done' < state.notify.fresh ∧ none ≠ some done')
      · intro signals
        obtain rfl := Option.some.inj signals
        exact ⟨core.fresh done registered, by simp⟩
      · intro other _ signals
        exact ⟨(core.signaller other done' signals).1, by simp⟩
    waiter := by
      refine core.waiter_moved moved rfl fun wait covered =>
        covered.moved moved (by rw [notify]) ?_ silent
      intro mine
      rw [registered] at mine
      exact .inr mine }

/-- The published `Notify` is signalled. -/
theorem Core.signalled (core : Core state) {done : Nat} {result : Outcome}
    (here : (state.callers caller).pc = .signalling done result) :
    Core { state.setPc caller (.returned result) with
      notify := state.notify.notifyWaiters done } := by
  have moved : Moved state { state.setPc caller (.returned result) with
    notify := state.notify.notifyWaiters done } caller (.returned result) := rfl
  have sameLeads := moved.role_eq Pc.leads (by rw [here]; rfl)
  exact {
    owned := core.owned.moved moved .keep (by simp [Pc.owns])
    settled := core.settled_moved moved (by simp)
    flight := core.flight
    fresh := core.fresh
    leader := by
      intro other
      rw [sameLeads]
      exact core.leader other
    alone := by
      intro first second
      rw [sameLeads, sameLeads]
      exact core.alone first second
    signaller := by
      intro other done'
      apply moved.forall_pc (motive := fun _ pc => pc.signals = some done' →
        done' < state.notify.fresh ∧ state.reconnect.done ≠ some done')
      · simp [Pc.signals]
      · exact fun other _ => core.signaller other done'
    waiter := by
      refine core.waiter_moved moved rfl fun wait covered => ?_
      refine Registry.covered_notifyWaiters done covered fun different source => ?_
      refine source.imp_right ?_
      rintro ⟨signaller, signals⟩
      have another : signaller ≠ caller := by
        rintro rfl
        rw [here] at signals
        exact different (Option.some.inj signals).symm
      exact ⟨signaller, by rw [moved.pc_other another]; exact signals⟩ }

/-- The guard that finds the lock free clears the record and signals. -/
theorem dropGuard_of_free (core : Core state) {done : Nat}
    (here : (state.callers caller).pc = .dropping done) (free : state.lock.holder = none) :
    state.dropGuard caller = { state.setPc caller .dropped with
      reconnect := { state.reconnect with inFlight := false, done := none }
      notify := state.notify.notifyWaiters done } := by
  have registered : state.reconnect.done = some done :=
    core.leader caller done (by rw [here]; rfl)
  rw [State.dropGuard, if_pos (FairMutex.tryLock_iff.mpr free), registered]

/-- The guard that finds the lock taken leaves everything as it was. -/
theorem dropGuard_of_taken (taken : state.lock.holder ≠ none) :
    state.dropGuard caller = state.setPc caller .dropped := by
  have busy : ¬ state.lock.tryLock = true := fun found => taken (FairMutex.tryLock_iff.mp found)
  rw [State.dropGuard, if_neg busy]

theorem Core.cleared (core : Core state) {done : Nat}
    (here : (state.callers caller).pc = .dropping done) (free : state.lock.holder = none) :
    Core (state.dropGuard caller) := by
  have registered : state.reconnect.done = some done :=
    core.leader caller done (by rw [here]; rfl)
  have unfolded := dropGuard_of_free core here free
  have moved : Moved state (state.dropGuard caller) caller .dropped := by
    rw [unfolded]
    rfl
  have leads : (state.callers caller).pc.leads = some done := by rw [here]; rfl
  have nobodyLeads := core.nobody_leads moved leads rfl
  have sameSignals := moved.role_eq Pc.signals (by rw [here]; rfl)
  rw [unfolded] at moved nobodyLeads sameSignals ⊢
  exact {
    owned := core.owned.moved moved .keep (by simp [Pc.owns])
    settled := fun _ _ _ => rfl
    flight := rfl
    fresh := by simp
    leader := by simp [nobodyLeads]
    alone := by simp [nobodyLeads]
    signaller := by
      intro other done'
      rw [sameSignals]
      intro signals
      exact ⟨(core.signaller other done' signals).1, by simp⟩
    waiter := by
      refine core.waiter_moved moved rfl fun wait covered => ?_
      refine Registry.covered_notifyWaiters done covered fun different source => ?_
      -- its `Notify` is not the one in the record, so another call signals it
      right
      rcases source with mine | ⟨signaller, signals⟩
      · rw [registered] at mine
        exact absurd (Option.some.inj mine).symm different
      · exact ⟨signaller, by rw [sameSignals]; exact signals⟩ }

theorem Core.abandoned (core : Core state) {done : Nat}
    (here : (state.callers caller).pc = .dropping done) (taken : state.lock.holder ≠ none) :
    Core (state.dropGuard caller) := by
  rw [dropGuard_of_taken taken]
  have moved : Moved state (state.setPc caller .dropped) caller .dropped := rfl
  have sameSignals := moved.role_eq Pc.signals (by rw [here]; rfl)
  exact {
    owned := core.owned.moved moved .keep (by simp [Pc.owns])
    settled := core.settled_moved moved (by simp)
    flight := core.flight
    fresh := core.fresh
    leader := by
      intro other done'
      apply moved.forall_pc
        (motive := fun _ pc => pc.leads = some done' → state.reconnect.done = some done')
      · simp [Pc.leads]
      · exact fun other _ => core.leader other done'
    alone := by
      intro first second done' done'' firstLeads secondLeads
      have leads : ∀ other done', ((state.setPc caller .dropped).callers other).pc.leads =
          some done' → (state.callers other).pc.leads = some done' := by
        intro other done'
        apply moved.forall_pc (motive := fun other pc =>
          pc.leads = some done' → (state.callers other).pc.leads = some done')
        · simp [Pc.leads]
        · exact fun _ _ leads => leads
      exact core.alone first second done' done'' (leads first done' firstLeads)
        (leads second done'' secondLeads)
    signaller := by
      intro other
      rw [sameSignals]
      exact core.signaller other
    waiter := by
      refine core.waiter_moved moved rfl fun wait covered => covered.moved moved rfl Or.inl ?_
      rw [here]
      rfl }

end Preservation

theorem Core.preserved {state after : State} {action : Action} (core : Core state)
    (taken : step state action = some after) : Core after := by
  cases took_of_step core.owned taken with
  | environment now closed => exact core.congr (fun _ => rfl) rfl rfl rfl
  | began caller record idle => exact core.began record idle
  | quiet caller pc keeps => exact core.quiet keeps
  | joined caller done here inFlight registered => exact core.joined here registered
  | led caller here free => exact core.led here free
  | failed caller done error here held =>
      have moved : Moved state (state.publishFailure caller done error) caller
        (.signalling done (.error ⟨error, state.failures⟩ false)) := rfl
      exact core.published moved (by rw [here]; rfl) (by rw [here]; rfl) held rfl rfl rfl rfl
  | succeeded caller done conn here =>
      have moved : Moved state (state.publishSuccess caller done conn) caller
        (.signalling done (.ok conn)) := rfl
      have held := core.owned caller (by rw [here]; rfl)
      exact core.published moved (by rw [here]; rfl) (by rw [here]; rfl) held rfl rfl rfl rfl
  | signalled caller done result here => exact core.signalled here
  | guarded caller done here =>
      by_cases free : state.lock.holder = none
      · exact core.cleared here free
      · exact core.abandoned here free

/-- The unconditional invariant holds in every reachable state. -/
theorem core_of_reachable {state : State} (reached : Reachable step initial state) :
    Core state :=
  reached.invariant core_initial fun _ _ _ core taken => core.preserved taken

end Juicity.Client.Reconnect
