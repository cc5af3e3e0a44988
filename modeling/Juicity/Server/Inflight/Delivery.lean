import Juicity.Server.Inflight.Waiters

/-!
Owns what a stored entry does for the calls suspended on its key. The call is
notified at once, so no timeout can end it before it looks at the table again;
that look finds an entry unless another call consumed it or a reclaim removed
it as expired in between. Two packets under one salt show that the exception
is real: the first consumes the entry and the second times out.
-/

namespace Juicity.Server.Inflight

open Juicity.Common
open Juicity.Machine

/-- The call's next step on the table is its claim. -/
def AboutToLook (state : State) (call : Nat) : Prop :=
  (∃ wait, (state.calls call).pc = .suspended wait ∧ state.notify.Woken wait) ∨
    (state.calls call).pc = .claiming

/-- The call an action belongs to. -/
def Action.subject : Action → Option Nat
  | .tick _ | .store _ _ _ | .cleanup _ => none
  | .evict call _ | .claim call | .authenticate call _ | .consume call | .register call
  | .wake call | .timeout call | .drop call => some call

/-- The action takes the entry of `key` out of the auth map: a reclaim finds it
expired, or a call consumes it. -/
def Removes (timing : Timing) (key : InFlightKey) (state : State) : Action → Prop
  | .store readAt other _ =>
      (other ∉ state.map.auth ∧
        Consts.maxInFlightUnderlayEntries ≤ Table.size state.map.auth) ∧
        ∃ entry, state.map.auth.lookup key = some entry ∧ young readAt timing.ttl entry.2 = false
  | .cleanup readAt =>
      ∃ entry, state.map.auth.lookup key = some entry ∧ young readAt timing.ttl entry.2 = false
  | .consume call =>
      (state.calls call).key = key ∧ ∃ auth stored insertedAt,
        (state.calls call).pc = .consuming auth insertedAt ∧
          state.map.auth.lookup key = some (stored, insertedAt)
  | _ => False

variable {timing : Timing} {state after : State}

/-! ## Frame facts -/

theorem step_other_call {action : Action} {call : Nat}
    (taken : step timing state action = some after) (different : action.subject ≠ some call) :
    after.calls call = state.calls call := by
  have moved : ∀ {actor : Nat} (middle : State) (pc : EvictPc),
      some actor ≠ some call → (middle.setPc actor pc).calls call = middle.calls call :=
    fun middle pc other => setPc_other middle pc (fun equal => other (congrArg some equal.symm))
  cases took_of_step taken with
  | tick elapsed | store past | cleanup past => rfl
  | evict idle =>
      exact Function.update_of_ne (fun equal => different (congrArg some equal.symm)) _ _
  | claim | authenticate | consume | register | wake | timeout | drop =>
      exact moved _ _ different

theorem subscribe_woken {now : Instant} {key : InFlightKey} {map : InFlightState}
    {notify : Registry} {wait : Notified} (woken : notify.Woken wait) :
    (subscribe now key map notify).2.1.Woken wait := by
  unfold subscribe
  split <;> exact woken

theorem register_woken {now : Instant} {key : InFlightKey} {map : InFlightState}
    {notify : Registry} {wait : Notified} (woken : notify.Woken wait) :
    (register timing now key map notify).2.1.Woken wait := by
  unfold register
  split
  · exact woken
  · split
    · dsimp only
      split
      · exact woken.notifyAll _
      · exact subscribe_woken (woken.notifyAll _)
    · exact subscribe_woken woken

theorem store_woken {now : Instant} {key : InFlightKey} {auth : UnderlayAuth}
    {map : InFlightState} {notify : Registry} {wait : Notified} (woken : notify.Woken wait) :
    (store timing now key auth map notify).2.Woken wait := by
  unfold store
  split
  · exact woken
  · split
    · exact woken.notifyWaiters _
    · exact woken

/-- A notification that completed stays complete. -/
theorem step_woken {action : Action} {wait : Notified}
    (taken : step timing state action = some after) (woken : state.notify.Woken wait) :
    after.notify.Woken wait := by
  cases took_of_step taken with
  | store past => exact store_woken woken
  | cleanup past => exact woken.notifyAll _
  | register registering => exact register_woken woken
  | tick | evict | claim | authenticate | consume | wake | timeout | drop => exact woken

/-! ## A notified call looks -/

/-- Until the call claims or is dropped, nothing takes it away from its look:
in particular it cannot time out. -/
theorem AboutToLook.step {action : Action} {call : Nat} (looks : AboutToLook state call)
    (taken : step timing state action = some after)
    (unclaimed : action ≠ .claim call) (undropped : action ≠ .drop call) :
    AboutToLook after call ∧ (after.calls call).key = (state.calls call).key := by
  by_cases own : action.subject = some call
  · cases took_of_step taken with
    | tick | store | cleanup => cases own
    | claim =>
        obtain rfl := Option.some.inj own
        exact absurd rfl unclaimed
    | drop =>
        obtain rfl := Option.some.inj own
        exact absurd rfl undropped
    | wake suspended woken =>
        obtain rfl := Option.some.inj own
        exact ⟨.inr (by simp), by simp⟩
    | timeout suspended unnotified late =>
        obtain rfl := Option.some.inj own
        rcases looks with ⟨wait, alsoSuspended, woken⟩ | claiming
        · obtain rfl := EvictPc.suspended.inj (suspended.symm.trans alsoSuspended)
          exact absurd woken unnotified
        · cases suspended.symm.trans claiming
    | evict here | authenticate here | consume here | register here =>
        obtain rfl := Option.some.inj own
        rcases looks with ⟨wait, suspended, _⟩ | claiming
        · cases here.symm.trans suspended
        · cases here.symm.trans claiming
  · have same := step_other_call taken own
    rw [AboutToLook, same]
    refine ⟨?_, rfl⟩
    rcases looks with ⟨wait, suspended, woken⟩ | claiming
    · exact .inl ⟨wait, suspended, step_woken taken woken⟩
    · exact .inr claiming

theorem AboutToLook.run {call : Nat} (looks : AboutToLook state call)
    {history : List (State × Action)} {final : State}
    (run : Run (Inflight.step timing) state history final)
    (waits : Allowed (fun _ action => action ≠ .claim call ∧ action ≠ .drop call) history) :
    AboutToLook final call ∧ (final.calls call).key = (state.calls call).key := by
  have every : Everywhere (fun current => AboutToLook current call ∧
      (current.calls call).key = (state.calls call).key) history final := by
    refine run.invariant_of_allowed ⟨looks, rfl⟩ (fun current action next held waiting taken => ?_)
      waits
    obtain ⟨still, sameKey⟩ := held.1.step taken waiting.1 waiting.2
    exact ⟨still, sameKey.trans held.2⟩
  exact every.2

/-- The look of a notified call reads the entry stored under its key. -/
theorem AboutToLook.look {call : Nat} (looks : AboutToLook state call)
    {auth : UnderlayAuth} {insertedAt : Instant}
    (found : state.map.auth.lookup (state.calls call).key = some (auth, insertedAt)) :
    ∃ schedule looked, exec (Inflight.step timing) state (schedule ++ [.claim call]) = some looked ∧
      (schedule = [] ∨ schedule = [.wake call]) ∧
      (looked.calls call).pc = .authenticating auth insertedAt := by
  have claims : ∀ middle : State, (middle.calls call).pc = .claiming →
      (middle.calls call).key = (state.calls call).key → middle.map = state.map →
        ∃ looked, Inflight.step timing middle (.claim call) = some looked ∧
          (looked.calls call).pc = .authenticating auth insertedAt := by
    intro middle claiming sameKey sameMap
    have reads : claim (middle.calls call).key middle.map = .authenticating auth insertedAt := by
      unfold claim
      rw [sameKey, sameMap, found]
    refine ⟨middle.setPc call (claim (middle.calls call).key middle.map), ?_, ?_⟩
    · simp [Inflight.step, claiming]
    · simp [reads]
  rcases looks with ⟨wait, suspended, woken⟩ | claiming
  · obtain ⟨looked, taken, reads⟩ := claims (state.setPc call .claiming) (by simp) (by simp) rfl
    refine ⟨[.wake call], looked, ?_, .inr rfl, reads⟩
    have wakes : Inflight.step timing state (.wake call) = some (state.setPc call .claiming) := by
      simp [Inflight.step, suspended, woken]
    simp [exec, wakes, taken]
  · obtain ⟨looked, taken, reads⟩ := claims state claiming rfl rfl
    exact ⟨[], looked, by simp [exec, taken], .inl rfl, reads⟩

/-! ## Entries stay until they are removed -/

theorem mem_retainAuth {now : Instant} {key : InFlightKey}
    {auths : Table InFlightKey (UnderlayAuth × Instant)} (member : key ∈ auths)
    (unexpired : ¬ ∃ entry, auths.lookup key = some entry ∧ young now timing.ttl entry.2 = false) :
    key ∈ retainAuth timing now auths := by
  obtain ⟨entry, found⟩ := Table.lookup_of_mem member
  have fresh : young now timing.ttl entry.2 = true := by
    by_contra old
    exact unexpired ⟨entry, found, Bool.eq_false_iff.mpr old⟩
  have kept : (retainAuth timing now auths).lookup key = some entry := by
    rw [retainAuth, Table.lookup_retain, found]
    simp [Option.filter, fresh]
  exact Table.mem_of_lookup kept

theorem store_keeps {now : Instant} {key other : InFlightKey} {auth : UnderlayAuth}
    (member : other ∈ state.map.auth)
    (kept : ¬ Removes timing other state (.store now key auth)) :
    other ∈ (store timing now key auth state.map state.notify).1.auth := by
  have reclaimed : other ∈ reclaimAuth timing now key state.map := by
    unfold reclaimAuth
    split
    · rename_i full
      exact mem_retainAuth member (fun expired => kept ⟨full, expired⟩)
    · exact member
  by_cases stored : storeDrops timing now key state.map
  · unfold store
    rw [if_pos stored]
    exact reclaimed
  · rw [store_eq_of_stored stored]
    exact (AList.mem_insert _).mpr (.inr reclaimed)

theorem consume_keeps {call : Nat} {key : InFlightKey} {auth : UnderlayAuth}
    {insertedAt : Instant} (consuming : (state.calls call).pc = .consuming auth insertedAt)
    (member : key ∈ state.map.auth) (kept : ¬ Removes timing key state (.consume call)) :
    key ∈ (consume (state.calls call).key auth insertedAt state.map).1.auth := by
  unfold consume
  split
  · rename_i stored storedAt found
    split
    · rename_i same
      refine AList.mem_erase.mpr ⟨fun equal => kept ?_, member⟩
      refine ⟨equal.symm, auth, stored, insertedAt, consuming, ?_⟩
      rw [equal, found, same]
    · exact member
  · exact member

/-- Only a consuming call or a reclaim of the expired entry removes a key. -/
theorem step_keeps {action : Action} {key : InFlightKey} (member : key ∈ state.map.auth)
    (kept : ¬ Removes timing key state action) (taken : step timing state action = some after) :
    key ∈ after.map.auth := by
  cases took_of_step taken with
  | store past => exact store_keeps member kept
  | cleanup past => exact mem_retainAuth member kept
  | consume consuming => exact consume_keeps consuming member kept
  | register registering =>
      change key ∈ (register timing state.now _ state.map state.notify).1.auth
      rw [register_registered.auth]
      exact member
  | tick | evict | claim | authenticate | wake | timeout | drop => exact member

theorem run_keeps {key : InFlightKey} (member : key ∈ state.map.auth)
    {history : List (State × Action)} {final : State}
    (run : Run (step timing) state history final)
    (kept : Allowed (fun current action => ¬ Removes timing key current action) history) :
    key ∈ final.map.auth := by
  have every : Everywhere (fun current => key ∈ current.map.auth) history final := by
    refine run.invariant_of_allowed ?_ ?_ kept
    · exact member
    · exact fun _ _ _ held stays taken => step_keeps held stays taken
  exact every.2

/-! ## The table as a whole -/

/-- An entry is put under `key` while `call` is suspended on that key. -/
structure StoredFor (timing : Timing) (call : Nat) (key : InFlightKey) (state after : State) :
    Prop where
  reached : Reachable (step timing) initial state
  suspended : ∃ wait, (state.calls call).pc = .suspended wait
  awaits : (state.calls call).key = key
  stored : ∃ readAt auth, ¬ storeDrops timing readAt key state.map ∧
    step timing state (.store readAt key auth) = some after

theorem StoredFor.aboutToLook {call : Nat} {key : InFlightKey}
    (stored : StoredFor timing call key state after) :
    AboutToLook after call ∧ (after.calls call).key = key ∧ key ∈ after.map.auth := by
  obtain ⟨wait, suspended⟩ := stored.suspended
  obtain ⟨readAt, auth, kept, taken⟩ := stored.stored
  have covered := (Inv.of_reachable stored.reached).covered call wait suspended
  rw [stored.awaits] at covered
  cases took_of_step taken with
  | store past =>
      refine ⟨.inl ⟨wait, suspended, store_wakes kept covered⟩, stored.awaits, ?_⟩
      change key ∈ (store timing readAt key auth state.map state.notify).1.auth
      rw [store_eq_of_stored kept]
      exact (AList.mem_insert _).mpr (.inl rfl)

/-- In every reachable state the two maps are disjoint and bounded and no
suspended call is stranded. An entry stored for a suspended call is followed by
that call's look at the table, whatever happens before it, and the look reads
an entry unless one of the steps before it removed the key. -/
theorem inflight_waiters_served (timing : Timing) :
    (∀ state, Reachable (step timing) initial state →
      KeysDisjoint state.map ∧ Bounded state.map ∧ NoneStranded state) ∧
    ∀ call key state after, StoredFor timing call key state after →
      ∀ history final, Run (step timing) after history final →
        Allowed (fun _ action => action ≠ .claim call ∧ action ≠ .drop call) history →
          AboutToLook final call ∧
          (Allowed (fun current action => ¬ Removes timing key current action) history →
            ∃ auth insertedAt schedule looked,
              final.map.auth.lookup key = some (auth, insertedAt) ∧
              exec (step timing) final (schedule ++ [.claim call]) = some looked ∧
              (schedule = [] ∨ schedule = [.wake call]) ∧
              (looked.calls call).pc = .authenticating auth insertedAt) := by
  refine ⟨fun state reached => ?_, fun call key state after stored history final run waits => ?_⟩
  · have held := Inv.of_reachable reached
    exact ⟨held.disjoint, held.bounded, held.noneStranded⟩
  · obtain ⟨looks, awaits, member⟩ := stored.aboutToLook
    obtain ⟨stillLooks, sameKey⟩ := looks.run run waits
    refine ⟨stillLooks, fun kept => ?_⟩
    obtain ⟨⟨auth, insertedAt⟩, found⟩ := Table.lookup_of_mem (run_keeps member run kept)
    have own : final.map.auth.lookup (final.calls call).key = some (auth, insertedAt) := by
      rw [sameKey, awaits]
      exact found
    obtain ⟨schedule, looked, executed, short, reads⟩ := stillLooks.look own
    exact ⟨auth, insertedAt, schedule, looked, found, executed, short, reads⟩

/-! ## Two packets under one salt -/

/-- An entry stored before the deadline of a suspended call keeps the call from
timing out. -/
def StoredAuthAlwaysSeen (timing : Timing) : Prop :=
  ∀ call key state after, StoredFor timing call key state after →
    state.now < (state.calls call).deadline →
      ∀ final, Reachable (step timing) after final →
        (final.calls call).pc ≠ .returned .timedOut

def sampleKey : InFlightKey := .replicate 32 0

def sampleAuth : UnderlayAuth where
  iv := sampleKey
  psk := List.replicate 32 0x42
  metadata := ⟨.udp, "127.0.0.1", 53, .replicate 16 0⟩
  uuid := .replicate 16 0

def sampleTiming : Timing := ⟨Consts.inFlightUnderlayTtl, Consts.inFlightUnderlayEvictTimeout⟩

/-- Calls 0 and 1 wait for the same key. -/
def bothSuspended : List Action :=
  [.evict 0 sampleKey, .claim 0, .register 0, .evict 1 sampleKey, .claim 1, .register 1]

/-- Call 0 consumes the entry; call 1 finds nothing, waits again and times out. -/
def firstConsumes : List Action :=
  [.wake 0, .claim 0, .authenticate 0 true, .consume 0,
    .wake 1, .claim 1, .register 1, .tick 100000000, .timeout 1]

/-- The entry is stored while both calls wait, before either deadline, and the
second call times out in the end. -/
theorem sample_stored : ∃ state after, StoredFor sampleTiming 1 sampleKey state after ∧
    state.now < (state.calls 1).deadline ∧
      ∃ final, Reachable (step sampleTiming) after final ∧
        (final.calls 1).pc = .returned .timedOut := by
  have checked : (exec (step sampleTiming) initial bothSuspended).any (fun state =>
      decide ((state.calls 1).pc = .suspended ⟨0, 0⟩ ∧ (state.calls 1).key = sampleKey ∧
        ¬ storeDrops sampleTiming 0 sampleKey state.map ∧
        state.now < (state.calls 1).deadline) &&
      (step sampleTiming state (.store 0 sampleKey sampleAuth)).any fun after =>
        (exec (step sampleTiming) after firstConsumes).any fun final =>
          decide ((final.calls 1).pc = .returned .timedOut)) = true := by
    decide
  obtain ⟨state, waiting, facts⟩ := (Option.any_eq_true _ _).mp checked
  obtain ⟨atState, later⟩ := Bool.and_eq_true_iff.mp facts
  obtain ⟨suspended, awaits, kept, early⟩ := of_decide_eq_true atState
  obtain ⟨after, stores, rest⟩ := (Option.any_eq_true _ _).mp later
  obtain ⟨final, finishes, timedOut⟩ := (Option.any_eq_true _ _).mp rest
  exact ⟨state, after,
    ⟨reachable_of_exec waiting, ⟨_, suspended⟩, awaits, 0, sampleAuth, kept, stores⟩, early,
    final, reachable_of_exec finishes, of_decide_eq_true timedOut⟩

theorem storedAuth_not_always_seen : ¬ StoredAuthAlwaysSeen sampleTiming := by
  intro seen
  obtain ⟨state, after, stored, early, final, reached, timedOut⟩ := sample_stored
  exact seen 1 sampleKey state after stored early final reached timedOut

theorem inflight_waiters_served_sample : ∃ state after,
    StoredFor sampleTiming 1 sampleKey state after ∧ KeysDisjoint state.map ∧
      AboutToLook after 1 ∧ ∃ entry, after.map.auth.lookup sampleKey = some entry := by
  obtain ⟨state, after, stored, -⟩ := sample_stored
  obtain ⟨invariants, served⟩ := inflight_waiters_served sampleTiming
  obtain ⟨looks, reads⟩ := served 1 sampleKey state after stored [] after .start allowed_nil
  obtain ⟨auth, insertedAt, schedule, looked, found, -⟩ := reads allowed_nil
  exact ⟨state, after, stored, (invariants state stored.reached).1, looks, _, found⟩

end Juicity.Server.Inflight
