import Juicity.Machine.Tasks
import Juicity.Server.DnsFlight.Model

/-!
Contract: what one action does to the registrations. Beside the keys and the
`Notify` objects only the role of a call matters: it holds a registration until
its guard has removed the key, and then signals. Every action leaves all roles
as they are, or changes that of one call in one of three ways.
-/

namespace Juicity.Server.DnsFlight

open Juicity.Common
open Juicity.Machine
open Juicity.Server.UdpRelay (Name)

/-- What a call has to do for the waiters of its `Notify`. -/
inductive Role where
  | holding (key : Name) (notify : Nat)
  | signalling (key : Name) (notify : Nat)

def Role.notify : Role → Nat
  | .holding _ notify | .signalling _ notify => notify

/-- A call holds its key from the registration to the removal by its guard. -/
def Call.role (call : Call) : Option Role :=
  match call.pc with
  | .looking notify | .storing notify _ | .releasing notify _ => some (.holding call.key notify)
  | .notifying notify _ => some (.signalling call.key notify)
  | .idle | .entering | .waiting _ | .finished _ => none

/-- What an action does to the calls, the registered keys and the notifications. -/
inductive Took (state : State) : Action → State → Prop where
  | passed {action : Action} {after : State} (calls : after.calls = state.calls)
      (resolving : after.dnsResolving = state.dnsResolving)
      (notify : after.notify = state.notify) : Took state action after
  | quiet {action : Action} {after : State} {call : Nat} {moved : Call}
      (moves : Moves state.calls after.calls call moved)
      (resolving : after.dnsResolving = state.dnsResolving)
      (notify : after.notify = state.notify) (role : moved.role = (state.calls call).role)
      (unwaiting : ∀ wait, moved.pc ≠ .waiting wait) : Took state action after
  | joined {action : Action} {after : State} {call notify : Nat}
      (entering : (state.calls call).pc = .entering)
      (found : state.dnsResolving.lookup (state.calls call).key = some notify)
      (moves : Moves state.calls after.calls call
        { state.calls call with pc := .waiting (state.notify.notified notify) })
      (resolving : after.dnsResolving = state.dnsResolving)
      (notify : after.notify = state.notify) : Took state action after
  | led {action : Action} {after : State} {call : Nat}
      (entering : (state.calls call).pc = .entering)
      (free : state.dnsResolving.lookup (state.calls call).key = none)
      (moves : Moves state.calls after.calls call
        { state.calls call with pc := .looking state.notify.fresh })
      (resolving : after.dnsResolving =
        state.dnsResolving.insert (state.calls call).key state.notify.fresh)
      (notify : after.notify = state.notify.alloc) : Took state action after
  | released {action : Action} {after : State} {call notify : Nat} {outcome : Outcome}
      (releasing : (state.calls call).pc = .releasing notify outcome)
      (moves : Moves state.calls after.calls call
        { state.calls call with pc := .notifying notify outcome })
      (resolving : after.dnsResolving = state.dnsResolving.erase (state.calls call).key)
      (notify : after.notify = state.notify) : Took state action after
  | woke {action : Action} {after : State} {call notify : Nat} {outcome : Outcome}
      (notifying : (state.calls call).pc = .notifying notify outcome)
      (moves : Moves state.calls after.calls call
        { state.calls call with pc := .finished outcome })
      (resolving : after.dnsResolving = state.dnsResolving)
      (notify : after.notify = state.notify.notifyWaiters notify) : Took state action after

section Sections

variable {state : State} {action : Action} {call : Nat}

/-- A call moves to a place with the same role where it does not wait. -/
theorem took_setPc {pc : Pc}
    (role : ({ state.calls call with pc := pc } : Call).role = (state.calls call).role)
    (unwaiting : ∀ wait, pc ≠ .waiting wait) : Took state action (state.setPc call pc) :=
  .quiet rfl rfl rfl role unwaiting

theorem role_of_entering (entering : (state.calls call).pc = .entering) :
    (state.calls call).role = none := by
  rw [Call.role, entering]

/-- The registration does not read the cache. -/
theorem took_register (cache : IndexMap Name (SocketAddr × Instant))
    (entering : (state.calls call).pc = .entering) :
    Took state action ({ state with dnsCache := cache }.register call) := by
  unfold State.register
  dsimp only
  split
  · rename_i notify found
    exact .joined entering found rfl rfl rfl
  · rename_i free
    exact .led entering free rfl rfl rfl

theorem took_enter (entering : (state.calls call).pc = .entering) :
    Took state action (state.enter call) := by
  unfold State.enter
  dsimp only
  split
  · split
    · exact took_setPc (by rw [role_of_entering entering]; rfl) (by simp)
    · exact took_register _ entering
  · exact took_register state.dnsCache entering

theorem took_begin {key : Name} (idle : (state.calls call).pc = .idle) :
    Took state action (state.begin call key) := by
  have roleless : (state.calls call).role = none := by rw [Call.role, idle]
  unfold State.begin
  split
  · exact .quiet rfl rfl rfl (by rw [roleless]; rfl) (by simp)
  · exact .quiet rfl rfl rfl (by rw [roleless]; rfl) (by simp)

theorem took_answer {notify : Nat} {found : Except String (List SocketAddr)}
    (looking : (state.calls call).pc = .looking notify) :
    Took state action (state.answer call notify found) := by
  have holding : (state.calls call).role = some (.holding (state.calls call).key notify) := by
    rw [Call.role, looking]
  unfold State.answer
  split
  · exact took_setPc (by rw [holding]; rfl) (by simp)
  · exact took_setPc (by rw [holding]; rfl) (by simp)
  · exact took_setPc (by rw [holding]; rfl) (by simp)

end Sections

theorem took_of_step {state after : State} {action : Action}
    (taken : step state action = some after) : Took state action after := by
  cases action with
  | tick elapsed =>
      obtain rfl := Option.some.inj taken
      exact .passed rfl rfl rfl
  | begin call key =>
      simp only [step] at taken
      split at taken
      · obtain rfl := Option.some.inj taken
        exact took_begin ‹_›
      · cases taken
  | enter call =>
      simp only [step] at taken
      split at taken
      · obtain rfl := Option.some.inj taken
        exact took_enter ‹_›
      · cases taken
  | wake call =>
      simp only [step] at taken
      split at taken
      · rename_i wait waiting
        split at taken
        · obtain rfl := Option.some.inj taken
          exact took_setPc (by rw [Call.role, Call.role, waiting]) (by simp)
        · cases taken
      · cases taken
  | answer call found =>
      simp only [step] at taken
      split at taken
      · obtain rfl := Option.some.inj taken
        exact took_answer ‹_›
      · cases taken
  | store call =>
      simp only [step] at taken
      split at taken
      · rename_i notify target storing
        obtain rfl := Option.some.inj taken
        exact .quiet rfl rfl rfl (by rw [Call.role, Call.role, storing]) (by simp)
      · cases taken
  | timeout call =>
      simp only [step] at taken
      split at taken
      · split at taken
        · rename_i wait waiting
          split at taken
          · cases taken
          · obtain rfl := Option.some.inj taken
            exact took_setPc (by rw [Call.role, Call.role, waiting]) (by simp)
        · rename_i notify looking
          obtain rfl := Option.some.inj taken
          exact took_setPc (by rw [Call.role, Call.role, looking]) (by simp)
        · cases taken
      · cases taken
  | drop call =>
      simp only [step] at taken
      split at taken
      · rename_i wait waiting
        obtain rfl := Option.some.inj taken
        exact took_setPc (by rw [Call.role, Call.role, waiting]) (by simp)
      · rename_i notify looking
        obtain rfl := Option.some.inj taken
        exact took_setPc (by rw [Call.role, Call.role, looking]) (by simp)
      · cases taken
  | release call =>
      simp only [step] at taken
      split at taken
      · rename_i notify outcome releasing
        obtain rfl := Option.some.inj taken
        exact .released releasing rfl rfl rfl
      · cases taken
  | wakeAll call =>
      simp only [step] at taken
      split at taken
      · rename_i notify outcome notifying
        obtain rfl := Option.some.inj taken
        exact .woke notifying rfl rfl rfl
      · cases taken

end Juicity.Server.DnsFlight
