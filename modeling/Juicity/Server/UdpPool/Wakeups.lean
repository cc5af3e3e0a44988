import Juicity.Machine.Tasks
import Juicity.Server.UdpPool.Model

/-!
Owns the wake-ups of `get_or_create`. A blocked call is woken when the creator
whose `Notify` it holds drops its guard. Two windows break this: the call passes
the `creating` check with a `Notify` that no running creator holds, or its
creator signals between that check and the creation of the `notified()` future.
In the runs that miss both windows no wake-up is lost.
-/

namespace Juicity.Server.UdpPool

open Juicity.Common
open Juicity.Machine

/-- A creator of the address is running and its guard will signal this `Notify`. -/
def Creates (state : State) (addr : SocketAddr) (notify : Nat) : Prop :=
  ∃ creator, state.addrOf creator = addr ∧ (state.callers creator).pc.creates = some notify

/-- The step hits neither window. A call passes the `creating` check only with
the `Notify` of a creator of its address that has yet to signal, and no guard
signals a `Notify` that a call took but has not made a future of. -/
structure MissesWindows (state : State) (action : Action) : Prop where
  checked : ∀ caller notify, action = .run caller →
    (state.callers caller).pc = .checking notify → state.creating (state.addrOf caller) = true →
      Creates state (state.addrOf caller) notify
  signalled : ∀ caller notify outcome, action = .run caller →
    (state.callers caller).pc = .signalling notify outcome →
      ∀ other, (state.callers other).pc ≠ .subscribing notify

/-- The invariant of the runs that miss the windows. -/
structure Guarded (state : State) : Prop where
  subscriber : ∀ caller notify, (state.callers caller).pc = .subscribing notify →
    Creates state (state.addrOf caller) notify
  waiter : ∀ caller wait, (state.callers caller).pc = .waiting wait →
    state.notify.Woken wait ∨
      (state.notify.Pending wait ∧ Creates state (state.addrOf caller) wait.id)

theorem guarded_initial : Guarded initial where
  subscriber := by simp [initial]
  waiter := by simp [initial]

/-- Of the calls, only this one moves, and it keeps its address. -/
def Moved (state after : State) (caller : Nat) (pc : Pc) : Prop :=
  Moves state.callers after.callers caller { state.callers caller with pc := pc }

/-- What an action does to the calls and the wake-ups. -/
inductive Took (state : State) : Action → State → Prop where
  | evicted {action : Action} {after : State} (callers : after.callers = state.callers)
      (notify : after.notify = state.notify) : Took state action after
  | called {action : Action} (caller : Nat) (addr : SocketAddr) (dialTarget : String)
      (mine : action.caller? = some caller) (idle : (state.callers caller).pc = .idle) :
      Took state action { state with
        callers := Function.update state.callers caller ⟨addr, dialTarget, .top⟩ }
  | moved {action : Action} {after : State} (caller : Nat) (pc : Pc)
      (mine : action.caller? = some caller) (moved : Moved state after caller pc)
      (calls : after.notify.calls = state.notify.calls)
      (creates : (state.callers caller).pc.creates = none ∨
        pc.creates = (state.callers caller).pc.creates)
      (subscribes : ∀ notify, pc ≠ .subscribing notify)
      (waits : ∀ wait, pc ≠ .waiting wait) : Took state action after
  | checked (caller notify : Nat) (here : (state.callers caller).pc = .checking notify)
      (creating : state.creating (state.addrOf caller) = true) :
      Took state (.run caller) (state.setPc caller (.subscribing notify))
  | subscribed (caller notify : Nat)
      (here : (state.callers caller).pc = .subscribing notify) :
      Took state (.run caller) (state.setPc caller (.waiting (state.notify.notified notify)))
  | signalled (caller notify : Nat) (outcome : Outcome)
      (here : (state.callers caller).pc = .signalling notify outcome) :
      Took state (.run caller)
        { state.setPc caller (.finished outcome) with notify := state.notify.notifyWaiters notify }

theorem took_advance {state after : State} {caller : Nat}
    (taken : state.advance caller = some after) : Took state (.run caller) after := by
  unfold State.advance at taken
  cases here : (state.callers caller).pc with
  | idle | creating | finished => simp [here] at taken
  | top =>
      simp only [here] at taken
      split at taken
      · obtain rfl := Option.some.inj taken
        exact .moved caller _ rfl rfl rfl (.inl (by rw [here]; rfl)) nofun nofun
      · obtain rfl := Option.some.inj taken
        exact .moved caller _ rfl rfl rfl (.inl (by rw [here]; rfl)) nofun nofun
  | arbitrating notify =>
      simp only [here, Option.some.injEq] at taken
      subst taken
      unfold State.arbitrate
      split
      · exact .moved caller _ rfl rfl rfl (.inl (by rw [here]; rfl)) nofun nofun
      · exact .moved caller _ rfl rfl rfl (.inl (by rw [here]; rfl)) nofun nofun
  | publishing notify =>
      simp only [here, Option.some.injEq] at taken
      subst taken
      exact .moved caller (.rechecking notify) rfl rfl rfl (.inr (by rw [here]; rfl)) nofun nofun
  | rechecking notify =>
      simp only [here] at taken
      split at taken
      · obtain rfl := Option.some.inj taken
        exact .moved caller _ rfl rfl rfl (.inr (by rw [here]; rfl)) nofun nofun
      · obtain rfl := Option.some.inj taken
        exact .moved caller _ rfl rfl rfl (.inr (by rw [here]; rfl)) nofun nofun
  | releasing notify outcome =>
      simp only [here, Option.some.injEq] at taken
      subst taken
      exact .moved caller (.unlisting notify outcome) rfl rfl rfl (.inr (by rw [here]; rfl))
        nofun nofun
  | unlisting notify outcome =>
      simp only [here, Option.some.injEq] at taken
      subst taken
      exact .moved caller (.signalling notify outcome) rfl rfl rfl (.inr (by rw [here]; rfl))
        nofun nofun
  | signalling notify outcome =>
      simp only [here, Option.some.injEq] at taken
      subst taken
      exact .signalled caller notify outcome here
  | registering =>
      simp only [here, Option.some.injEq] at taken
      subst taken
      unfold State.register
      split
      · exact .moved caller _ rfl rfl rfl (.inl (by rw [here]; rfl)) nofun nofun
      · exact .moved caller (.checking state.notify.fresh) rfl rfl rfl (.inl (by rw [here]; rfl))
          nofun nofun
  | checking notify =>
      simp only [here] at taken
      split at taken
      · rename_i creating
        obtain rfl := Option.some.inj taken
        exact .checked caller notify here creating
      · obtain rfl := Option.some.inj taken
        exact .moved caller _ rfl rfl rfl (.inl (by rw [here]; rfl)) nofun nofun
  | subscribing notify =>
      simp only [here, Option.some.injEq] at taken
      subst taken
      exact .subscribed caller notify here
  | waiting wait =>
      simp only [here] at taken
      split at taken
      · obtain rfl := Option.some.inj taken
        exact .moved caller _ rfl rfl rfl (.inl (by rw [here]; rfl)) nofun nofun
      · cases taken

theorem took_of_step {state after : State} {action : Action}
    (taken : step state action = some after) : Took state action after := by
  cases action with
  | call caller addr dialTarget =>
      simp only [step] at taken
      split at taken
      · rename_i idle
        obtain rfl := Option.some.inj taken
        exact .called caller addr dialTarget rfl idle
      · cases taken
  | run caller => exact took_advance taken
  | create caller bound lookup =>
      simp only [step] at taken
      split at taken
      · rename_i notify here
        obtain rfl := Option.some.inj taken
        unfold State.create
        split
        · exact .moved caller _ rfl rfl rfl (.inr (by rw [here]; rfl)) nofun nofun
        · exact .moved caller _ rfl rfl rfl (.inr (by rw [here]; rfl)) nofun nofun
      · cases taken
  | cancel caller =>
      simp only [step] at taken
      split at taken
      · rename_i notify here
        obtain rfl := Option.some.inj taken
        exact .moved caller _ rfl rfl rfl (.inr (by rw [here]; rfl)) nofun nofun
      · rename_i wait here
        obtain rfl := Option.some.inj taken
        exact .moved caller _ rfl rfl rfl (.inl (by rw [here]; rfl)) nofun nofun
      · cases taken
  | evict addr =>
      obtain rfl := Option.some.inj taken
      exact .evicted rfl rfl

section Preservation

variable {state after : State} {caller : Nat} {pc : Pc}

theorem Moved.addr_eq (moved : Moved state after caller pc) (other : Nat) :
    after.addrOf other = state.addrOf other :=
  moved.view_eq Caller.addr rfl other

/-- A running creator still runs after a step that is not its signal. -/
theorem Creates.moved {addr : SocketAddr} {notify : Nat} (creates : Creates state addr notify)
    (moved : Moved state after caller pc)
    (kept : (state.callers caller).pc.creates = none ∨
      pc.creates = (state.callers caller).pc.creates ∨
      (state.callers caller).pc.creates ≠ some notify) : Creates after addr notify := by
  obtain ⟨creator, here, running⟩ := creates
  refine ⟨creator, by rw [moved.addr_eq]; exact here, ?_⟩
  by_cases same : creator = caller
  · subst same
    rw [Moves.self moved]
    rcases kept with idle | still | another
    · rw [idle] at running
      cases running
    · exact still.trans running
    · exact absurd running another
  · rw [Moves.of_ne moved same]
    exact running

/-- A step that wakes nobody and keeps the creators keeps the invariant when the
moving call subscribes or blocks only for a running creator. -/
theorem Guarded.moved (guarded : Guarded state) (moved : Moved state after caller pc)
    (calls : after.notify.calls = state.notify.calls)
    (kept : (state.callers caller).pc.creates = none ∨
      pc.creates = (state.callers caller).pc.creates)
    (subscriber : ∀ notify, pc = .subscribing notify →
      Creates state (state.addrOf caller) notify)
    (waiter : ∀ wait, pc = .waiting wait →
      state.notify.Pending wait ∧ Creates state (state.addrOf caller) wait.id) :
    Guarded after where
  subscriber := by
    intro other notify
    rw [moved.addr_eq]
    apply moved.forall_tasks (motive := fun other call =>
      call.pc = .subscribing notify → Creates after (state.addrOf other) notify)
    · intro standing
      exact (subscriber notify standing).moved moved (kept.imp_right Or.inl)
    · intro other _ standing
      exact (guarded.subscriber other notify standing).moved moved (kept.imp_right Or.inl)
  waiter := by
    intro other wait
    simp only [moved.addr_eq, Registry.Woken, Registry.Pending, calls]
    apply moved.forall_tasks (motive := fun other call => call.pc = .waiting wait →
      state.notify.Woken wait ∨
        (state.notify.Pending wait ∧ Creates after (state.addrOf other) wait.id))
    · intro standing
      obtain ⟨pending, creates⟩ := waiter wait standing
      exact .inr ⟨pending, creates.moved moved (kept.imp_right Or.inl)⟩
    · intro other _ standing
      rcases guarded.waiter other wait standing with woken | ⟨pending, creates⟩
      · exact .inl woken
      · exact .inr ⟨pending, creates.moved moved (kept.imp_right Or.inl)⟩

/-- A new call is neither a creator nor waits. -/
theorem Guarded.called (guarded : Guarded state) (addr : SocketAddr) (dialTarget : String)
    (idle : (state.callers caller).pc = .idle) :
    Guarded { state with
      callers := Function.update state.callers caller ⟨addr, dialTarget, .top⟩ } := by
  let after : State := { state with
    callers := Function.update state.callers caller ⟨addr, dialTarget, .top⟩ }
  have moves : Moves state.callers after.callers caller ⟨addr, dialTarget, .top⟩ := rfl
  have creates : ∀ {addr notify}, Creates state addr notify → Creates after addr notify := by
    rintro addr notify ⟨creator, here, running⟩
    have different : creator ≠ caller := by
      rintro rfl
      rw [idle] at running
      cases running
    refine ⟨creator, ?_, ?_⟩
    · show (after.callers creator).addr = addr
      rw [moves.of_ne different]
      exact here
    · rw [moves.of_ne different]
      exact running
  constructor
  case subscriber =>
    intro other notify
    apply moves.forall_tasks (motive := fun _ call =>
      call.pc = .subscribing notify → Creates after call.addr notify)
    · nofun
    · exact fun other _ standing => creates (guarded.subscriber other notify standing)
  case waiter =>
    intro other wait
    apply moves.forall_tasks (motive := fun _ call => call.pc = .waiting wait →
      state.notify.Woken wait ∨ (state.notify.Pending wait ∧ Creates after call.addr wait.id))
    · nofun
    · intro other _ standing
      rcases guarded.waiter other wait standing with woken | ⟨pending, running⟩
      · exact .inl woken
      · exact .inr ⟨pending, creates running⟩

/-- The signal wakes the calls that hold this `Notify`, and the others wait for
another creator. -/
theorem Guarded.signalled (guarded : Guarded state) {notify : Nat} {outcome : Outcome}
    (here : (state.callers caller).pc = .signalling notify outcome)
    (subscribed : ∀ other, (state.callers other).pc ≠ .subscribing notify) :
    Guarded { state.setPc caller (.finished outcome) with
      notify := state.notify.notifyWaiters notify } := by
  have moved : Moved state { state.setPc caller (.finished outcome) with
    notify := state.notify.notifyWaiters notify } caller (.finished outcome) := rfl
  have another : ∀ {other}, other ≠ notify →
      (state.callers caller).pc.creates ≠ some other := by
    intro other different same
    rw [here] at same
    exact different (Option.some.inj same).symm
  constructor
  case subscriber =>
    intro other wanted
    rw [moved.addr_eq]
    apply moved.forall_tasks (motive := fun other call =>
      call.pc = .subscribing wanted → Creates _ (state.addrOf other) wanted)
    · nofun
    · intro other _ standing
      have different : wanted ≠ notify := by
        rintro rfl
        exact subscribed other standing
      exact (guarded.subscriber other wanted standing).moved moved
        (.inr (.inr (another different)))
  case waiter =>
    intro other wait
    rw [moved.addr_eq]
    apply moved.forall_tasks (motive := fun other call => call.pc = .waiting wait →
      (state.notify.notifyWaiters notify).Woken wait ∨
        ((state.notify.notifyWaiters notify).Pending wait ∧
          Creates _ (state.addrOf other) wait.id))
    · nofun
    · intro other _ standing
      refine Registry.covered_notifyWaiters notify (guarded.waiter other wait standing) ?_
      intro different creates
      exact creates.moved moved (.inr (.inr (another different)))

theorem Guarded.preserved {action : Action} (guarded : Guarded state)
    (misses : MissesWindows state action) (taken : step state action = some after) :
    Guarded after := by
  cases took_of_step taken with
  | evicted callers notify =>
      constructor
      case subscriber => simpa only [Creates, State.addrOf, callers] using guarded.subscriber
      case waiter => simpa only [Creates, State.addrOf, callers, notify] using guarded.waiter
  | called caller addr dialTarget mine idle => exact guarded.called addr dialTarget idle
  | moved caller pc mine moved calls creates subscribes waits =>
      apply guarded.moved moved calls creates
      · exact fun notify standing => absurd standing (subscribes notify)
      · exact fun wait standing => absurd standing (waits wait)
  | checked caller notify here creating =>
      have moved : Moved state (state.setPc caller (.subscribing notify)) caller
        (.subscribing notify) := rfl
      apply guarded.moved moved rfl (.inl (by rw [here]; rfl))
      · intro wanted standing
        obtain rfl := Pc.subscribing.inj standing
        exact misses.checked caller notify rfl here creating
      · nofun
  | subscribed caller notify here =>
      have moved : Moved state (state.setPc caller (.waiting (state.notify.notified notify)))
        caller (.waiting (state.notify.notified notify)) := rfl
      apply guarded.moved moved rfl (.inl (by rw [here]; rfl))
      · nofun
      · intro wait standing
        obtain rfl := Pc.waiting.inj standing
        exact ⟨state.notify.pending_notified notify, guarded.subscriber caller notify here⟩
  | signalled caller notify outcome here =>
      exact guarded.signalled here (misses.signalled caller notify outcome rfl here)

end Preservation

end Juicity.Server.UdpPool
