import Juicity.Server.DnsFlight.Steps

/-!
Owns single-flight of the DNS lookups of one connection. A key is registered
exactly while one call holds it, every waiting call will be woken by the call
whose `Notify` it waits on, and a call that ended has released both. The guard
removes the key before it signals, so for one step the calls that wait on it
wait for no lookup at all, and the next lookup may already have begun.
-/

namespace Juicity.Server.DnsFlight

open Juicity.Common
open Juicity.Machine
open Juicity.Server.UdpRelay (Name)

/-- What every run keeps. -/
structure Core (state : State) : Prop where
  fresh : ∀ call role, (state.calls call).role = some role → role.notify < state.notify.fresh
  owner : ∀ call other role rival, (state.calls call).role = some role →
    (state.calls other).role = some rival → role.notify = rival.notify → call = other
  registered : ∀ key notify, state.dnsResolving.lookup key = some notify ↔
    ∃ call, (state.calls call).role = some (.holding key notify)
  waiter : ∀ call wait, (state.calls call).pc = .waiting wait →
    state.notify.Woken wait ∨ state.notify.Pending wait ∧ ∃ other,
      (state.calls other).role = some (.holding (state.calls call).key wait.id) ∨
        (state.calls other).role = some (.signalling (state.calls call).key wait.id)

theorem core_initial : Core initial where
  fresh := by intro call role here; cases here
  owner := by intro call other role rival here; cases here
  registered := by
    intro key notify
    constructor
    · intro found
      cases found
    · rintro ⟨call, here⟩
      cases here
  waiter := by intro call wait here; cases here

section Preservation

variable {state after : State} {action : Action} {call notify : Nat} {outcome : Outcome}
  {moved : Call}

theorem role_eq (moves : Moves state.calls after.calls call moved)
    (role : moved.role = (state.calls call).role) (other : Nat) :
    (after.calls other).role = (state.calls other).role :=
  moves.view_eq Call.role role other

/-- When the mover does not wait, who waits did so before. -/
theorem waiting_before (moves : Moves state.calls after.calls call moved)
    (unwaiting : ∀ wait, moved.pc ≠ .waiting wait) {other : Nat} {wait : Notified}
    (waiting : (after.calls other).pc = .waiting wait) :
    after.calls other = state.calls other ∧ (state.calls other).pc = .waiting wait := by
  by_cases same : other = call
  · rw [same, moves.self] at waiting
    exact absurd waiting (unwaiting wait)
  · rw [moves.of_ne same] at waiting
    exact ⟨moves.of_ne same, waiting⟩

/-- Roles, keys and notifications stay, and the waiters are those before. -/
theorem Core.kept (core : Core state)
    (roles : ∀ call, (after.calls call).role = (state.calls call).role)
    (resolving : after.dnsResolving = state.dnsResolving) (notify : after.notify = state.notify)
    (waiter : ∀ call wait, (after.calls call).pc = .waiting wait →
      state.notify.Woken wait ∨ state.notify.Pending wait ∧ ∃ other,
        (state.calls other).role = some (.holding (after.calls call).key wait.id) ∨
          (state.calls other).role = some (.signalling (after.calls call).key wait.id)) :
    Core after where
  fresh := by
    intro call role here
    rw [notify]
    exact core.fresh call role ((roles call).symm.trans here)
  owner := by
    intro call other role rival here there
    exact core.owner call other role rival ((roles call).symm.trans here)
      ((roles other).symm.trans there)
  registered := by
    intro key notify
    rw [resolving, core.registered]
    constructor
    · rintro ⟨call, here⟩
      exact ⟨call, (roles call).trans here⟩
    · rintro ⟨call, here⟩
      exact ⟨call, (roles call).symm.trans here⟩
  waiter := by
    intro call wait waiting
    rw [notify]
    rcases waiter call wait waiting with woken | ⟨pending, other, serves⟩
    · exact .inl woken
    · refine .inr ⟨pending, other, ?_⟩
      rw [roles]
      exact serves

theorem Core.quiet (core : Core state) (moves : Moves state.calls after.calls call moved)
    (resolving : after.dnsResolving = state.dnsResolving) (notify : after.notify = state.notify)
    (role : moved.role = (state.calls call).role) (unwaiting : ∀ wait, moved.pc ≠ .waiting wait) :
    Core after := by
  apply core.kept (role_eq moves role) resolving notify
  intro other wait waiting
  obtain ⟨same, before⟩ := waiting_before moves unwaiting waiting
  rw [same]
  exact core.waiter other wait before

theorem Core.joined (core : Core state) (entering : (state.calls call).pc = .entering)
    (found : state.dnsResolving.lookup (state.calls call).key = some notify)
    (moves : Moves state.calls after.calls call
      { state.calls call with pc := .waiting (state.notify.notified notify) })
    (resolving : after.dnsResolving = state.dnsResolving)
    (notified : after.notify = state.notify) : Core after := by
  refine core.kept (role_eq moves ?_) resolving notified ?_
  · rw [role_of_entering entering]
    rfl
  · intro other wait waiting
    by_cases same : other = call
    · rw [same, moves.self] at waiting ⊢
      obtain rfl := Pc.waiting.inj waiting
      obtain ⟨holder, holds⟩ := (core.registered _ _).mp found
      exact .inr ⟨state.notify.pending_notified notify, holder, .inl holds⟩
    · rw [moves.of_ne same] at waiting ⊢
      exact core.waiter other wait waiting

/-- A role after a step is the new one of the mover or an old one. -/
theorem role_cases (moves : Moves state.calls after.calls call moved) {other : Nat} {role : Role}
    (here : (after.calls other).role = some role) :
    other = call ∧ moved.role = some role ∨
      other ≠ call ∧ (state.calls other).role = some role := by
  by_cases same : other = call
  · rw [same, moves.self] at here
    exact .inl ⟨same, here⟩
  · rw [moves.of_ne same] at here
    exact .inr ⟨same, here⟩

/-- A role that was not the one of the mover stays. -/
theorem role_kept (moves : Moves state.calls after.calls call moved) {other : Nat} {role : Role}
    (here : (state.calls other).role = some role)
    (notMine : (state.calls call).role ≠ some role) : (after.calls other).role = some role := by
  have different : other ≠ call := by
    rintro rfl
    exact notMine here
  rw [moves.of_ne different]
  exact here

/-- The mover takes no `Notify` of another call. -/
theorem Core.owner_after (core : Core state) (moves : Moves state.calls after.calls call moved)
    (alone : ∀ role, moved.role = some role → ∀ other rival, other ≠ call →
      (state.calls other).role = some rival → role.notify ≠ rival.notify) :
    ∀ first second role rival, (after.calls first).role = some role →
      (after.calls second).role = some rival → role.notify = rival.notify → first = second := by
  intro first second role rival here there same
  rcases role_cases moves here with ⟨rfl, new⟩ | ⟨different, before⟩
  · rcases role_cases moves there with ⟨rfl, _⟩ | ⟨other, rivalBefore⟩
    · rfl
    · exact absurd same (alone role new second rival other rivalBefore)
  · rcases role_cases moves there with ⟨rfl, new⟩ | ⟨_, rivalBefore⟩
    · exact absurd same.symm (alone rival new first role different before)
    · exact core.owner first second role rival before rivalBefore same

theorem Core.led (core : Core state) (entering : (state.calls call).pc = .entering)
    (free : state.dnsResolving.lookup (state.calls call).key = none)
    (moves : Moves state.calls after.calls call
      { state.calls call with pc := .looking state.notify.fresh })
    (resolving : after.dnsResolving =
      state.dnsResolving.insert (state.calls call).key state.notify.fresh)
    (notified : after.notify = state.notify.alloc) : Core after := by
  have mine : (after.calls call).role =
      some (.holding (state.calls call).key state.notify.fresh) := by
    rw [moves.self]
    rfl
  have roleless := role_of_entering entering
  have kept : ∀ other role, (state.calls other).role = some role →
      (after.calls other).role = some role :=
    fun other role here => role_kept moves here (by rw [roleless]; simp)
  constructor
  case fresh =>
    intro other role here
    rw [notified]
    show role.notify < state.notify.fresh + 1
    rcases role_cases moves here with ⟨_, new⟩ | ⟨_, before⟩
    · obtain rfl := Option.some.inj new
      exact Nat.lt_succ_self _
    · exact Nat.lt_succ_of_lt (core.fresh other role before)
  case owner =>
    apply core.owner_after moves
    intro role new other rival _ there
    obtain rfl := Option.some.inj new
    exact (core.fresh other rival there).ne'
  case registered =>
    intro key notify
    rw [resolving]
    by_cases same : key = (state.calls call).key
    · subst same
      rw [AList.lookup_insert]
      constructor
      · intro found
        obtain rfl := Option.some.inj found
        exact ⟨call, mine⟩
      · rintro ⟨other, here⟩
        rcases role_cases moves here with ⟨_, new⟩ | ⟨_, before⟩
        · cases new
          rfl
        · have found := (core.registered _ _).mpr ⟨other, before⟩
          rw [free] at found
          cases found
    · rw [AList.lookup_insert_ne same, core.registered]
      constructor
      · rintro ⟨other, here⟩
        exact ⟨other, kept other _ here⟩
      · rintro ⟨other, here⟩
        rcases role_cases moves here with ⟨_, new⟩ | ⟨_, before⟩
        · cases new
          exact absurd rfl same
        · exact ⟨other, before⟩
  case waiter =>
    intro other wait waiting
    obtain ⟨same, before⟩ := waiting_before moves (by simp) waiting
    rw [notified, same]
    rcases core.waiter other wait before with woken | ⟨pending, server, serves⟩
    · exact .inl woken
    · refine .inr ⟨pending, server, ?_⟩
      rcases serves with holds | signals
      · exact .inl (kept server _ holds)
      · exact .inr (kept server _ signals)

/-- The guard removes the key of the call. -/
theorem Core.released (core : Core state)
    (releasing : (state.calls call).pc = .releasing notify outcome)
    (moves : Moves state.calls after.calls call
      { state.calls call with pc := .notifying notify outcome })
    (resolving : after.dnsResolving = state.dnsResolving.erase (state.calls call).key)
    (notified : after.notify = state.notify) : Core after := by
  have holding : (state.calls call).role = some (.holding (state.calls call).key notify) := by
    rw [Call.role, releasing]
  have mine : (after.calls call).role =
      some (.signalling (state.calls call).key notify) := by
    rw [moves.self]
    rfl
  have found := (core.registered _ _).mpr ⟨call, holding⟩
  constructor
  case fresh =>
    intro other role here
    rw [notified]
    rcases role_cases moves here with ⟨_, new⟩ | ⟨_, before⟩
    · obtain rfl := Option.some.inj new
      have below : notify < state.notify.fresh := core.fresh call _ holding
      exact below
    · exact core.fresh other role before
  case owner =>
    apply core.owner_after moves
    intro role new other rival different there same
    obtain rfl := Option.some.inj new
    exact different (core.owner call other _ rival holding there same).symm
  case registered =>
    intro key other
    rw [resolving]
    by_cases same : key = (state.calls call).key
    · subst same
      rw [AList.lookup_erase]
      constructor
      · intro impossible
        cases impossible
      · rintro ⟨holder, here⟩
        rcases role_cases moves here with ⟨_, new⟩ | ⟨different, before⟩
        · cases new
        · have sameNotify := found.symm.trans ((core.registered _ _).mpr ⟨holder, before⟩)
          obtain rfl := Option.some.inj sameNotify
          exact absurd (core.owner holder call _ _ before holding rfl) different
    · rw [AList.lookup_erase_ne same, core.registered]
      constructor
      · rintro ⟨holder, here⟩
        refine ⟨holder, role_kept moves here ?_⟩
        rw [holding]
        intro mineAlso
        exact same (Role.holding.inj (Option.some.inj mineAlso)).1.symm
      · rintro ⟨holder, here⟩
        rcases role_cases moves here with ⟨_, new⟩ | ⟨_, before⟩
        · cases new
        · exact ⟨holder, before⟩
  case waiter =>
    intro other wait waiting
    obtain ⟨same, before⟩ := waiting_before moves (by simp) waiting
    rw [notified, same]
    rcases core.waiter other wait before with woken | ⟨pending, server, serves⟩
    · exact .inl woken
    · right
      refine ⟨pending, server, ?_⟩
      by_cases self : server = call
      · right
        rw [self, mine]
        rw [self, holding] at serves
        rcases serves with holds | signals
        · obtain ⟨sameKey, sameNotify⟩ := Role.holding.inj (Option.some.inj holds)
          rw [sameKey, sameNotify]
        · cases signals
      · rw [moves.of_ne self]
        exact serves

/-- The guard signals its `Notify`. -/
theorem Core.woke (core : Core state)
    (notifying : (state.calls call).pc = .notifying notify outcome)
    (moves : Moves state.calls after.calls call { state.calls call with pc := .finished outcome })
    (resolving : after.dnsResolving = state.dnsResolving)
    (notified : after.notify = state.notify.notifyWaiters notify) : Core after := by
  have signalling : (state.calls call).role =
      some (.signalling (state.calls call).key notify) := by
    rw [Call.role, notifying]
  constructor
  case fresh =>
    intro other role here
    rw [notified]
    rcases role_cases moves here with ⟨_, new⟩ | ⟨_, before⟩
    · cases new
    · exact core.fresh other role before
  case owner =>
    apply core.owner_after moves
    intro role new
    cases new
  case registered =>
    intro key other
    rw [resolving, core.registered]
    constructor
    · rintro ⟨holder, here⟩
      exact ⟨holder, role_kept moves here (by rw [signalling]; simp)⟩
    · rintro ⟨holder, here⟩
      rcases role_cases moves here with ⟨_, new⟩ | ⟨_, before⟩
      · cases new
      · exact ⟨holder, before⟩
  case waiter =>
    intro other wait waiting
    obtain ⟨same, before⟩ := waiting_before moves (by simp) waiting
    rw [notified, same]
    refine Registry.covered_notifyWaiters notify (core.waiter other wait before) ?_
    rintro unsignalled ⟨server, serves⟩
    refine ⟨server, ?_⟩
    rcases serves with holds | signals
    · exact .inl (role_kept moves holds (by rw [signalling]; simp))
    · right
      apply role_kept moves signals
      rw [signalling]
      intro mineAlso
      exact unsignalled (Role.signalling.inj (Option.some.inj mineAlso)).2.symm

theorem Core.preserved (core : Core state) (taken : step state action = some after) :
    Core after := by
  cases took_of_step taken with
  | passed calls resolving notify =>
      apply core.kept
      · intro call
        rw [calls]
      · exact resolving
      · exact notify
      · rw [calls]
        exact core.waiter
  | quiet moves resolving notify role unwaiting =>
      exact core.quiet moves resolving notify role unwaiting
  | joined entering found moves resolving notify =>
      exact core.joined entering found moves resolving notify
  | led entering free moves resolving notify => exact core.led entering free moves resolving notify
  | released releasing moves resolving notify =>
      exact core.released releasing moves resolving notify
  | woke notifying moves resolving notify => exact core.woke notifying moves resolving notify

end Preservation

/-! ## Release -/

/-- Only this call holds or signals the `Notify`. -/
structure Owns (call notify : Nat) (state : State) : Prop where
  allocated : notify < state.notify.fresh
  only : ∀ other role, (state.calls other).role = some role → role.notify = notify → other = call

/-- A role after a step has the `Notify` the call had before, or a new one. -/
theorem roles_of_took {state after : State} {action : Action} (took : Took state action after) :
    state.notify.fresh ≤ after.notify.fresh ∧
      ∀ other role, (after.calls other).role = some role →
        (∃ old, (state.calls other).role = some old ∧ old.notify = role.notify) ∨
          role.notify = state.notify.fresh := by
  cases took with
  | passed calls resolving notify =>
      rw [notify, calls]
      exact ⟨le_rfl, fun other role here => .inl ⟨role, here, rfl⟩⟩
  | quiet moves resolving notify role unwaiting =>
      rw [notify]
      refine ⟨le_rfl, fun other role here => .inl ⟨role, ?_, rfl⟩⟩
      rw [← role_eq moves ‹_›]
      exact here
  | joined entering found moves resolving notify =>
      rw [notify]
      refine ⟨le_rfl, fun other role here => .inl ⟨role, ?_, rfl⟩⟩
      rw [← role_eq moves (by rw [role_of_entering entering]; rfl)]
      exact here
  | led entering free moves resolving notify =>
      rw [notify]
      refine ⟨Nat.le_succ _, fun other role here => ?_⟩
      rcases role_cases moves here with ⟨_, new⟩ | ⟨_, before⟩
      · obtain rfl := Option.some.inj new
        exact .inr rfl
      · exact .inl ⟨role, before, rfl⟩
  | released releasing moves resolving notify =>
      rw [notify]
      refine ⟨le_rfl, fun other role here => ?_⟩
      rcases role_cases moves here with ⟨rfl, new⟩ | ⟨_, before⟩
      · obtain rfl := Option.some.inj new
        exact .inl ⟨.holding (state.calls other).key _, by rw [Call.role, releasing], rfl⟩
      · exact .inl ⟨role, before, rfl⟩
  | woke notifying moves resolving notify =>
      rw [notify]
      refine ⟨le_rfl, fun other role here => ?_⟩
      rcases role_cases moves here with ⟨_, new⟩ | ⟨_, before⟩
      · cases new
      · exact .inl ⟨role, before, rfl⟩

theorem Owns.preserved {call notify : Nat} {state after : State} {action : Action}
    (owns : Owns call notify state) (taken : step state action = some after) :
    Owns call notify after := by
  obtain ⟨grows, roles⟩ := roles_of_took (took_of_step taken)
  refine ⟨owns.allocated.trans_le grows, ?_⟩
  intro other role here same
  rcases roles other role here with ⟨old, before, sameNotify⟩ | new
  · exact owns.only other old before (sameNotify.trans same)
  · have below := owns.allocated
    omega

/-- The `Notify` of a call without a role is registered nowhere, and nobody
waits on it unsignalled. -/
theorem Core.released_of_owns {call notify : Nat} {state : State} (core : Core state)
    (owns : Owns call notify state) (roleless : (state.calls call).role = none) :
    (∀ key, state.dnsResolving.lookup key ≠ some notify) ∧
      ∀ other wait, (state.calls other).pc = .waiting wait → wait.id = notify →
        state.notify.Woken wait := by
  have unowned : ∀ other role, (state.calls other).role = some role → role.notify ≠ notify := by
    intro other role here same
    rw [owns.only other role here same, roleless] at here
    cases here
  constructor
  · intro key found
    obtain ⟨holder, here⟩ := (core.registered key notify).mp found
    exact unowned holder _ here rfl
  · intro other wait waiting same
    rcases core.waiter other wait waiting with woken | ⟨_, server, holds | signals⟩
    · exact woken
    · exact absurd same (unowned server _ holds)
    · exact absurd same (unowned server _ signals)

/-! ## Single-flight -/

/-- The call is inside its lookup for the key: it registered the key and its
guard has not removed it. -/
def Inside (state : State) (key : Name) (call : Nat) : Prop :=
  ∃ notify, (state.calls call).role = some (.holding key notify)

/-- The call runs `lookup_host` for the key. -/
def LookingUp (state : State) (key : Name) (call : Nat) : Prop :=
  (state.calls call).key = key ∧ ∃ notify, (state.calls call).pc = .looking notify

/-- A key is registered exactly while one call is inside its lookup, every
waiting call was woken, waits on the registered `Notify` of its key, or waits on
one that is signalled next, and no key is looked up twice at a time. -/
structure SingleFlight (state : State) : Prop where
  exclusive : ∀ key, key ∈ state.dnsResolving ↔ ∃! call, Inside state key call
  served : ∀ call wait, (state.calls call).pc = .waiting wait →
    state.notify.Woken wait ∨ state.notify.Pending wait ∧
      (state.dnsResolving.lookup (state.calls call).key = some wait.id ∨
        ∃ other outcome, (state.calls other).key = (state.calls call).key ∧
          (state.calls other).pc = .notifying wait.id outcome)
  alone : ∀ key call other, LookingUp state key call → LookingUp state key other → call = other

/-- However a call ends that was inside its lookup, its registration is gone
and nobody waits on its `Notify` unwoken. -/
def Releases (state : State) : Prop :=
  ∀ call key notify, (state.calls call).role = some (.holding key notify) →
    ∀ history final outcome, Run step state history final →
      (final.calls call).pc = .finished outcome →
        final.dnsResolving.lookup key ≠ some notify ∧
          ∀ other wait, (final.calls other).pc = .waiting wait → wait.id = notify →
            final.notify.Woken wait

section Results

variable {state : State}

theorem pc_of_signalling {call notify : Nat} {key : Name}
    (signals : (state.calls call).role = some (.signalling key notify)) :
    (state.calls call).key = key ∧ ∃ outcome, (state.calls call).pc = .notifying notify outcome := by
  unfold Call.role at signals
  split at signals
  · cases signals
  · cases signals
  · cases signals
  · rename_i notify outcome notifying
    obtain ⟨rfl, rfl⟩ := Role.signalling.inj (Option.some.inj signals)
    exact ⟨rfl, outcome, notifying⟩
  · cases signals
  · cases signals
  · cases signals
  · cases signals

theorem LookingUp.inside {key : Name} {call : Nat} (looking : LookingUp state key call) :
    Inside state key call := by
  obtain ⟨rfl, notify, here⟩ := looking
  exact ⟨notify, by rw [Call.role, here]⟩

theorem Core.inside_unique (core : Core state) {key : Name} {call other : Nat}
    (inside : Inside state key call) (rival : Inside state key other) : call = other := by
  obtain ⟨notify, here⟩ := inside
  obtain ⟨rivalNotify, there⟩ := rival
  have found := (core.registered key notify).mpr ⟨call, here⟩
  have rivalFound := (core.registered key rivalNotify).mpr ⟨other, there⟩
  obtain rfl := Option.some.inj (found.symm.trans rivalFound)
  exact core.owner call other _ _ here there rfl

theorem Core.singleFlight (core : Core state) : SingleFlight state where
  exclusive := by
    intro key
    constructor
    · intro member
      obtain ⟨notify, found⟩ := Table.lookup_of_mem member
      obtain ⟨call, here⟩ := (core.registered key notify).mp found
      exact ⟨call, ⟨notify, here⟩, fun other inside => core.inside_unique inside ⟨notify, here⟩⟩
    · rintro ⟨call, ⟨notify, here⟩, _⟩
      exact Table.mem_of_lookup ((core.registered key notify).mpr ⟨call, here⟩)
  served := by
    intro call wait waiting
    rcases core.waiter call wait waiting with woken | ⟨pending, other, holds | signals⟩
    · exact .inl woken
    · exact .inr ⟨pending, .inl ((core.registered _ _).mpr ⟨other, holds⟩)⟩
    · obtain ⟨sameKey, outcome, notifying⟩ := pc_of_signalling signals
      exact .inr ⟨pending, .inr ⟨other, outcome, sameKey, notifying⟩⟩
  alone := fun _ _ _ looking rival => core.inside_unique looking.inside rival.inside

theorem Core.releases (core : Core state) : Releases state := by
  intro call key notify holding history final outcome run finished
  have owns : Owns call notify state :=
    ⟨core.fresh call _ holding, fun other role here same =>
      core.owner other call role _ here holding same⟩
  have both : Core final ∧ Owns call notify final := by
    have reached : Reachable step state final := ⟨history, run⟩
    apply reached.invariant
    · exact ⟨core, owns⟩
    · exact fun _ _ _ both taken => ⟨both.1.preserved taken, both.2.preserved taken⟩
  have roleless : (final.calls call).role = none := by rw [Call.role, finished]
  obtain ⟨unregistered, woken⟩ := both.1.released_of_owns both.2 roleless
  exact ⟨unregistered key, woken⟩

/-- The lookups of a connection are single-flight, and every end of a lookup
releases its key and its waiters. -/
theorem singleFlight_and_releases (reached : Reachable step initial state) :
    SingleFlight state ∧ Releases state := by
  have core : Core state :=
    reached.invariant core_initial fun _ _ _ core taken => core.preserved taken
  exact ⟨core.singleFlight, core.releases⟩

end Results

/-! ## A lookup that begins before the guard of the last one has signalled -/

def exampleName : Name := ⟨"localhost", 53⟩

/-- Call 1 waits for call 0, which is dropped; between the two statements of its
guard call 2 registers the key again. -/
def overlapSchedule : List Action :=
  [.begin 0 exampleName, .enter 0, .begin 1 exampleName, .enter 1, .drop 0, .release 0,
    .begin 2 exampleName, .enter 2]

theorem waiter_of_older_lookup :
    ¬ ∀ state, Reachable step initial state → ∀ call wait,
      (state.calls call).pc = .waiting wait → state.notify.Woken wait ∨
        state.dnsResolving.lookup (state.calls call).key = some wait.id := by
  have executed : (exec step initial overlapSchedule).any (fun state =>
      (state.calls 1).pc == .waiting ⟨0, 0⟩ &&
        !decide (state.notify.Woken ⟨0, 0⟩ ∨
          state.dnsResolving.lookup (state.calls 1).key = some 0)) = true := by
    decide +kernel
  obtain ⟨state, ended, facts⟩ := (Option.any_eq_true _ _).mp executed
  simp only [Bool.and_eq_true, beq_iff_eq, Bool.not_eq_true', decide_eq_false_iff_not] at facts
  intro always
  exact facts.2 (always state (reachable_of_exec ended) 1 ⟨0, 0⟩ facts.1)

theorem singleFlight_and_releases_overlap :
    SingleFlight ((exec step initial overlapSchedule).getD initial) ∧
      Releases ((exec step initial overlapSchedule).getD initial) := by
  have executed : (exec step initial overlapSchedule).isSome = true := by decide +kernel
  obtain ⟨final, ended⟩ := Option.isSome_iff_exists.mp executed
  rw [ended]
  exact singleFlight_and_releases (reachable_of_exec ended)

end Juicity.Server.DnsFlight
