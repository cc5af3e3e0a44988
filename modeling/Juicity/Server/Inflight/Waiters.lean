import Juicity.Server.Inflight.Model

/-!
Owns the invariant of the in-flight table: no key is both authenticated and
awaited, both maps stay within the entry limit, and every suspended call is
registered under its own key or was notified. From it follows what a stored
entry does for a suspended call: the call can no longer time out and its next
look at the table reads whatever is stored under its key then.
-/

namespace Juicity.Server.Inflight

open Juicity.Common
open Juicity.Machine

/-- No key is in both maps. -/
def KeysDisjoint (map : InFlightState) : Prop := ∀ key, key ∈ map.auth → key ∉ map.waiting

/-- Both maps respect the entry limit. -/
def Bounded (map : InFlightState) : Prop :=
  Table.size map.auth ≤ Consts.maxInFlightUnderlayEntries ∧
    Table.size map.waiting ≤ Consts.maxInFlightUnderlayEntries

/-- The waiter of a suspended call is registered under the call's key, or it
was notified. -/
def NoneStranded (state : State) : Prop :=
  ∀ call wait, (state.calls call).pc = .suspended wait →
    (∃ insertedAt, state.map.waiting.lookup (state.calls call).key = some (wait.id, insertedAt)) ∨
      state.notify.Woken wait

/-- The inductive form of `NoneStranded`: a registered waiter is also pending,
so that the notification sent on its removal reaches it. -/
def Covered (map : InFlightState) (notify : Registry) (key : InFlightKey) (wait : Notified) :
    Prop :=
  notify.Woken wait ∨
    (notify.Pending wait ∧ ∃ insertedAt, map.waiting.lookup key = some (wait.id, insertedAt))

structure Inv (state : State) : Prop where
  disjoint : KeysDisjoint state.map
  bounded : Bounded state.map
  covered : ∀ call wait, (state.calls call).pc = .suspended wait →
    Covered state.map state.notify (state.calls call).key wait

section Maps

variable {timing : Timing} {now : Instant} {key : InFlightKey} {auth : UnderlayAuth}
  {map : InFlightState} {notify : Registry}

/-! ### Reclaiming waiters -/

theorem lookup_retainWaiting {waiting : Table InFlightKey (Nat × Instant)} {other : InFlightKey}
    {waiter : Nat} {insertedAt : Instant}
    (found : waiting.lookup other = some (waiter, insertedAt)) :
    (retainWaiting timing now waiting).lookup other = some (waiter, insertedAt) ∨
      waiter ∈ expiredWaiters timing now waiting := by
  rcases Table.lookup_retain_or_dropped
    (fun _ entry => young now timing.evictTimeout entry.2) found with kept | gone
  · exact .inl kept
  · exact .inr (List.mem_map.mpr ⟨_, gone, rfl⟩)

theorem covered_retainWaiting {auths : Table InFlightKey (UnderlayAuth × Instant)}
    {other : InFlightKey} {wait : Notified} (covered : Covered map notify other wait) :
    Covered ⟨auths, retainWaiting timing now map.waiting⟩
      (notify.notifyAll (expiredWaiters timing now map.waiting)) other wait := by
  rcases covered with woken | ⟨pending, insertedAt, found⟩
  · exact .inl (woken.notifyAll _)
  · rcases pending.notifyAll (expiredWaiters timing now map.waiting) with woken | ⟨unlisted, left⟩
    · exact .inl woken
    · refine .inr ⟨left, insertedAt, ?_⟩
      exact (lookup_retainWaiting found).resolve_right unlisted

/-! ### Store -/

theorem mem_reclaimAuth {other : InFlightKey} (member : other ∈ reclaimAuth timing now key map) :
    other ∈ map.auth := by
  unfold reclaimAuth retainAuth at member
  split at member
  · exact Table.mem_of_mem_retain member
  · exact member

theorem size_reclaimAuth_le :
    Table.size (reclaimAuth timing now key map) ≤ Table.size map.auth := by
  unfold reclaimAuth retainAuth
  split
  · exact Table.size_retain_le _ _
  · exact Nat.le_refl _

/-- Unless the entry is dropped, there is room for it after the reclaim. -/
theorem size_store_auth_le (bounded : Bounded map) (stored : ¬ storeDrops timing now key map)
    (entry : UnderlayAuth × Instant) :
    Table.size ((reclaimAuth timing now key map).insert key entry) ≤
      Consts.maxInFlightUnderlayEntries := by
  have limit := bounded.1
  have shrinks : Table.size (reclaimAuth timing now key map) ≤ Table.size map.auth :=
    size_reclaimAuth_le
  have grows := Table.size_insert_le (reclaimAuth timing now key map) key entry
  by_cases full : key ∉ map.auth ∧ Consts.maxInFlightUnderlayEntries ≤ Table.size map.auth
  · have room : Table.size (reclaimAuth timing now key map) <
        Consts.maxInFlightUnderlayEntries := by
      by_contra noRoom
      exact stored ⟨full.1, full.2, by omega⟩
    omega
  · by_cases present : key ∈ map.auth
    · have unchanged : reclaimAuth timing now key map = map.auth := by
        unfold reclaimAuth
        rw [if_neg full]
      rw [unchanged, Table.size_insert_of_mem present]
      exact limit
    · have notFull : Table.size map.auth < Consts.maxInFlightUnderlayEntries := by
        by_contra noRoom
        exact full ⟨present, by omega⟩
      omega

theorem store_eq_of_stored (stored : ¬ storeDrops timing now key map) :
    (store timing now key auth map notify).1.auth =
      (reclaimAuth timing now key map).insert key (auth, now) := by
  unfold store
  rw [if_neg stored]
  cases map.waiting.lookup key with
  | none => rfl
  | some entry => rfl

theorem store_disjoint (disjoint : KeysDisjoint map) :
    KeysDisjoint (store timing now key auth map notify).1 := by
  unfold store
  split
  · exact fun other member => disjoint other (mem_reclaimAuth member)
  · cases found : map.waiting.lookup key with
    | none =>
        have absent : key ∉ map.waiting := AList.lookup_eq_none.mp found
        intro other member
        rcases (AList.mem_insert _).mp member with same | old
        · rw [same]
          exact absent
        · exact disjoint other (mem_reclaimAuth old)
    | some entry =>
        intro other member awaited
        obtain ⟨different, stillWaiting⟩ := AList.mem_erase.mp awaited
        rcases (AList.mem_insert _).mp member with same | old
        · exact different same
        · exact disjoint other (mem_reclaimAuth old) stillWaiting

theorem store_bounded (bounded : Bounded map) :
    Bounded (store timing now key auth map notify).1 := by
  unfold store
  split
  · exact ⟨Nat.le_trans size_reclaimAuth_le bounded.1, bounded.2⟩
  · rename_i stored
    cases map.waiting.lookup key with
    | none => exact ⟨size_store_auth_le bounded stored _, bounded.2⟩
    | some entry =>
        exact ⟨size_store_auth_le bounded stored _,
          Nat.le_trans (Table.size_erase_le _ _) bounded.2⟩

/-- Removing the waiter of `key` notifies it, and every other waiter stays. -/
theorem store_covered {other : InFlightKey} {wait : Notified}
    (covered : Covered map notify other wait) :
    Covered (store timing now key auth map notify).1 (store timing now key auth map notify).2
      other wait := by
  unfold store
  split
  · exact covered
  · cases found : map.waiting.lookup key with
    | none => exact covered
    | some entry =>
        obtain ⟨waiter, registeredAt⟩ := entry
        refine Registry.covered_notifyWaiters waiter covered ?_
        rintro unsignalled ⟨insertedAt, registered⟩
        have different : other ≠ key := by
          rintro rfl
          rw [found] at registered
          exact unsignalled (congrArg Prod.fst (Option.some.inj registered)).symm
        refine ⟨insertedAt, ?_⟩
        rw [AList.lookup_erase_ne different]
        exact registered

/-- A stored entry notifies the calls suspended on its key. -/
theorem store_wakes (stored : ¬ storeDrops timing now key map) {wait : Notified}
    (covered : Covered map notify key wait) :
    (store timing now key auth map notify).2.Woken wait := by
  unfold store
  rw [if_neg stored]
  rcases covered with woken | ⟨pending, insertedAt, registered⟩
  · cases map.waiting.lookup key with
    | none => exact woken
    | some entry => exact woken.notifyWaiters entry.1
  · rw [registered]
    exact pending.woken_of_notify

/-! ### Cleanup -/

theorem cleanup_disjoint (disjoint : KeysDisjoint map) :
    KeysDisjoint (cleanup timing now map notify).1 := by
  intro key member awaited
  exact disjoint key (Table.mem_of_mem_retain member) (Table.mem_of_mem_retain awaited)

theorem cleanup_bounded (bounded : Bounded map) : Bounded (cleanup timing now map notify).1 :=
  ⟨Nat.le_trans (Table.size_retain_le _ _) bounded.1,
    Nat.le_trans (Table.size_retain_le _ _) bounded.2⟩

/-! ### Register -/

theorem subscribe_covered {other : InFlightKey} {wait : Notified} (absent : key ∉ map.waiting)
    (covered : Covered map notify other wait) :
    Covered { map with waiting := map.waiting.insert key (notify.fresh, now) } notify.alloc
      other wait := by
  rcases covered with woken | ⟨pending, insertedAt, registered⟩
  · exact .inl woken
  · have different : other ≠ key := by
      rintro rfl
      exact absent (Table.mem_of_lookup registered)
    exact .inr ⟨pending, insertedAt, by
      rw [AList.lookup_insert_ne different]
      exact registered⟩

/-- What a registration leaves behind: it keeps the map invariants and the
other waiters, and a call it suspends is covered. -/
structure Registered (map : InFlightState) (notify : Registry) (key : InFlightKey)
    (result : InFlightState × Registry × EvictPc) : Prop where
  disjoint : KeysDisjoint map → KeysDisjoint result.1
  bounded : Bounded map → Bounded result.1
  auth : result.1.auth = map.auth
  others : ∀ other wait, Covered map notify other wait → Covered result.1 result.2.1 other wait
  own : ∀ wait, result.2.2 = .suspended wait → Covered result.1 result.2.1 key wait

theorem subscribe_registered (unauthenticated : key ∉ map.auth)
    (room : key ∉ map.waiting → Table.size map.waiting < Consts.maxInFlightUnderlayEntries) :
    Registered map notify key (subscribe now key map notify) := by
  unfold subscribe
  cases found : map.waiting.lookup key with
  | some entry =>
      refine ⟨id, id, rfl, fun _ _ covered => covered, fun wait suspended => ?_⟩
      obtain rfl := EvictPc.suspended.inj suspended
      exact .inr ⟨Registry.pending_notified _ _, entry.2, found⟩
  | none =>
      have absent : key ∉ map.waiting := AList.lookup_eq_none.mp found
      refine ⟨fun disjoint other member awaited => ?_, fun bounded => ⟨bounded.1, ?_⟩, rfl,
        fun _ _ covered => subscribe_covered absent covered, fun wait suspended => ?_⟩
      · rcases (AList.mem_insert _).mp awaited with same | old
        · exact unauthenticated (same ▸ member)
        · exact disjoint other member old
      · have grows := Table.size_insert_le map.waiting key (notify.fresh, now)
        have below := room absent
        change Table.size (map.waiting.insert key (notify.fresh, now)) ≤ _
        omega
      · obtain rfl := EvictPc.suspended.inj suspended
        exact .inr ⟨Registry.pending_notified _ _, now, AList.lookup_insert _⟩

/-- The table after expired waiters are removed and notified. -/
theorem reclaimed_registered (pc : EvictPc) (settled : ∀ wait, pc ≠ .suspended wait) :
    Registered map notify key
      ({ map with waiting := retainWaiting timing now map.waiting },
        notify.notifyAll (expiredWaiters timing now map.waiting), pc) where
  disjoint := fun disjoint other member awaited =>
    disjoint other member (Table.mem_of_mem_retain awaited)
  bounded := fun bounded => ⟨bounded.1, Nat.le_trans (Table.size_retain_le _ _) bounded.2⟩
  auth := rfl
  others := fun _ _ covered => covered_retainWaiting covered
  own := fun wait suspended => absurd suspended (settled wait)

theorem register_registered : Registered map notify key (register timing now key map notify) := by
  unfold register
  split
  · exact ⟨id, id, rfl, fun _ _ covered => covered, fun _ impossible => nomatch impossible⟩
  · rename_i unauthenticated
    split
    · have reclaimed : Registered map notify key
          ({ map with waiting := retainWaiting timing now map.waiting },
            notify.notifyAll (expiredWaiters timing now map.waiting), .returned .tableFull) :=
        reclaimed_registered _ (fun _ impossible => nomatch impossible)
      dsimp only
      split
      · exact reclaimed
      · rename_i room
        have subscribed : Registered { map with waiting := retainWaiting timing now map.waiting }
            (notify.notifyAll (expiredWaiters timing now map.waiting)) key
            (subscribe now key { map with waiting := retainWaiting timing now map.waiting }
              (notify.notifyAll (expiredWaiters timing now map.waiting))) :=
          subscribe_registered unauthenticated (fun _ => Nat.lt_of_not_le room)
        exact ⟨fun held => subscribed.disjoint (reclaimed.disjoint held),
          fun held => subscribed.bounded (reclaimed.bounded held), subscribed.auth,
          fun other wait covered => subscribed.others other wait
            (reclaimed.others other wait covered),
          subscribed.own⟩
    · rename_i notFull
      exact subscribe_registered unauthenticated (fun absent => by
        by_contra noRoom
        exact notFull ⟨absent, by omega⟩)

end Maps

/-! ## One action -/

section Steps

variable {timing : Timing} {state after : State}

@[simp] theorem setPc_self (state : State) (call : Nat) (pc : EvictPc) :
    (state.setPc call pc).calls call = { state.calls call with pc := pc } := by
  simp [State.setPc]

theorem setPc_other (state : State) {call other : Nat} (pc : EvictPc) (different : other ≠ call) :
    (state.setPc call pc).calls other = state.calls other := by
  simp [State.setPc, different]

theorem Inv.initial : Inv initial where
  disjoint := fun _ member => absurd member (AList.notMem_empty _)
  bounded := ⟨Nat.zero_le _, Nat.zero_le _⟩
  covered := fun _ _ impossible => nomatch impossible

/-- A call may move anywhere, provided it is covered when it is suspended. -/
theorem Inv.setPc (held : Inv state) (call : Nat) {pc : EvictPc}
    (own : ∀ wait, pc = .suspended wait →
      Covered state.map state.notify (state.calls call).key wait) :
    Inv (state.setPc call pc) where
  disjoint := held.disjoint
  bounded := held.bounded
  covered := by
    intro other wait suspended
    by_cases same : other = call
    · subst same
      rw [setPc_self] at suspended ⊢
      exact own wait suspended
    · rw [setPc_other state pc same] at suspended ⊢
      exact held.covered other wait suspended

/-- The table may change, provided its invariants and its waiters survive. -/
theorem Inv.withTable (held : Inv state) {map : InFlightState} {notify : Registry}
    (disjoint : KeysDisjoint map) (bounded : Bounded map)
    (waiters : ∀ key wait, Covered state.map state.notify key wait → Covered map notify key wait) :
    Inv { state with map := map, notify := notify } where
  disjoint := disjoint
  bounded := bounded
  covered := fun call wait suspended => waiters _ wait (held.covered call wait suspended)

theorem consume_inv (held : Inv state) (key : InFlightKey) (auth : UnderlayAuth)
    (insertedAt : Instant) :
    Inv { state with map := (consume key auth insertedAt state.map).1 } ∧
      ∀ wait, (consume key auth insertedAt state.map).2 ≠ .suspended wait := by
  unfold consume
  cases state.map.auth.lookup key with
  | none => exact ⟨held, fun _ impossible => nomatch impossible⟩
  | some entry =>
      dsimp only
      split
      · refine ⟨held.withTable (fun other member => ?_) ⟨?_, held.bounded.2⟩
          (fun _ _ covered => covered), fun _ impossible => nomatch impossible⟩
        · exact held.disjoint other (AList.mem_erase.mp member).2
        · exact Nat.le_trans (Table.size_erase_le _ _) held.bounded.1
      · exact ⟨held, fun _ impossible => nomatch impossible⟩

/-- Every action keeps the invariant. -/
theorem Inv.step {action : Action} (held : Inv state)
    (taken : step timing state action = some after) : Inv after := by
  cases took_of_step taken with
  | tick elapsed => exact ⟨held.disjoint, held.bounded, held.covered⟩
  | store past =>
      exact held.withTable (store_disjoint held.disjoint) (store_bounded held.bounded)
        (fun _ _ covered => store_covered covered)
  | cleanup past =>
      exact held.withTable (cleanup_disjoint held.disjoint) (cleanup_bounded held.bounded)
        (fun _ _ covered => covered_retainWaiting covered)
  | @evict call key idle =>
      refine ⟨held.disjoint, held.bounded, fun other wait suspended => ?_⟩
      by_cases same : other = call
      · subst same
        simp at suspended
      · simp only [Function.update_of_ne same] at suspended ⊢
        exact held.covered other wait suspended
  | @claim call claiming =>
      refine held.setPc call (fun wait suspended => ?_)
      unfold claim at suspended
      split at suspended <;> cases suspended
  | @authenticate call accepts auth insertedAt authenticating =>
      refine held.setPc call (fun wait suspended => ?_)
      split at suspended <;> cases suspended
  | @consume call auth insertedAt consuming =>
      obtain ⟨consumed, settled⟩ := consume_inv held (state.calls call).key auth insertedAt
      exact consumed.setPc call (fun wait suspended => absurd suspended (settled wait))
  | @register call registering =>
      have registered : Registered state.map state.notify (state.calls call).key
          (register timing state.now (state.calls call).key state.map state.notify) :=
        register_registered
      exact (held.withTable (registered.disjoint held.disjoint)
        (registered.bounded held.bounded) registered.others).setPc call registered.own
  | @wake call | @timeout call | @drop call =>
      exact held.setPc call (fun _ impossible => nomatch impossible)

theorem Inv.noneStranded (held : Inv state) : NoneStranded state := by
  intro call wait suspended
  rcases held.covered call wait suspended with woken | ⟨_, registered⟩
  · exact .inr woken
  · exact .inl registered

theorem Inv.of_reachable (reached : Reachable (Inflight.step timing) Inflight.initial state) :
    Inv state :=
  reached.invariant .initial (fun _ _ _ held taken => held.step taken)

end Steps

end Juicity.Server.Inflight
