import Juicity.Server.Inflight.Delivery

/-!
Owns who takes an entry out of the auth map. An `evict` call clones the entry,
verifies the packet outside the lock and then knows the entry again only by the
instant it was stored at. Every entry that leaves the map was returned by a
call whose callback accepted it, was replaced, or had expired, as long as no
call re-locks a table whose entry has the instant of the one it cloned but
holds another auth.
-/

namespace Juicity.Server.Inflight

open Juicity.Common
open Juicity.Machine

/-- The `authenticate` callback of the call was run on `auth` and accepted it. -/
def Accepted (history : List (State × Action)) (call : Nat) (auth : UnderlayAuth) : Prop :=
  ∃ state insertedAt, (state, .authenticate call true) ∈ history ∧
    (state.calls call).pc = .authenticating auth insertedAt

/-- The next step of the call returns `auth`. -/
def Returns (timing : Timing) (state : State) (call : Nat) (auth : UnderlayAuth) : Prop :=
  ∃ after, step timing state (.consume call) = some after ∧
    (after.calls call).pc = .returned (.verified auth)

/-- Why a step removed the entry `(auth, insertedAt)` of `key`. -/
inductive Justified (timing : Timing) (earlier : List (State × Action)) (state after : State)
    (key : InFlightKey) (auth : UnderlayAuth) (insertedAt : Instant) : Action → Prop where
  | returned {call : Nat} (own : (state.calls call).key = key)
      (accepted : Accepted earlier call auth)
      (verified : (after.calls call).pc = .returned (.verified auth)) :
      Justified timing earlier state after key auth insertedAt (.consume call)
  | replaced {readAt : Instant} {newer : UnderlayAuth}
      (stored : after.map.auth.lookup key = some (newer, readAt)) :
      Justified timing earlier state after key auth insertedAt (.store readAt key newer)
  | expiredAtStore {readAt : Instant} {other : InFlightKey} {newer : UnderlayAuth}
      (old : timing.ttl < Instant.durationSince readAt insertedAt) :
      Justified timing earlier state after key auth insertedAt (.store readAt other newer)
  | expiredAtCleanup {readAt : Instant}
      (old : timing.ttl < Instant.durationSince readAt insertedAt) :
      Justified timing earlier state after key auth insertedAt (.cleanup readAt)

/-- Each stored auth is consumed at most once, by a call that proved it. -/
structure ConsumedOnce (timing : Timing) (history : List (State × Action)) : Prop where
  removed : ∀ earlier state action later after key auth insertedAt,
    history = earlier ++ (state, action) :: later →
    step timing state action = some after →
    state.map.auth.lookup key = some (auth, insertedAt) →
    after.map.auth.lookup key ≠ some (auth, insertedAt) →
    Justified timing earlier state after key auth insertedAt action
  /-- A returned auth was stored under the call's key. -/
  stored : ∀ earlier state call later auth,
    history = earlier ++ (state, .consume call) :: later → Returns timing state call auth →
    ∃ storing readAt, (storing, .store readAt (state.calls call).key auth) ∈ earlier
  /-- Between two calls that return one auth it was stored again. -/
  once : ∀ earlier first firstCall middle second secondCall later auth,
    history = earlier ++ (first, .consume firstCall) :: (middle ++
      (second, .consume secondCall) :: later) →
    (first.calls firstCall).key = (second.calls secondCall).key →
    Returns timing first firstCall auth → Returns timing second secondCall auth →
    ∃ storing readAt, (storing, .store readAt (first.calls firstCall).key auth) ∈ middle
  /-- The rejecting callback changes neither map, and the whole call takes no
  entry out of the auth map. -/
  rejected : ∀ call rejecting, (rejecting, .authenticate call false) ∈ history →
    (∀ after, step timing rejecting (.authenticate call false) = some after →
      after.map = rejecting.map) ∧
    ∀ state action after, (state, action) ∈ history → action.subject = some call →
      step timing state action = some after → after.map.auth = state.map.auth

/-- A call whose callback accepted one auth re-locks the table while its key
holds another auth that was stored at the same instant. -/
def Swapped (state : State) : Action → Prop
  | .consume call => ∃ auth insertedAt stored,
      (state.calls call).pc = .consuming auth insertedAt ∧
        state.map.auth.lookup (state.calls call).key = some (stored, insertedAt) ∧ stored ≠ auth
  | _ => False

instance (state : State) (action : Action) : Decidable (Swapped state action) :=
  match action with
  | .consume call =>
      match consuming : (state.calls call).pc with
      | .consuming auth insertedAt =>
          match found : state.map.auth.lookup (state.calls call).key with
          | some (stored, storedAt) =>
              decidable_of_iff (storedAt = insertedAt ∧ stored ≠ auth) (by
                simp [Swapped, consuming, found])
          | none => .isFalse (by simp [Swapped, found])
      | .idle | .claiming | .authenticating _ _ | .registering | .suspended _ | .returned _
      | .dropped => .isFalse (by simp [Swapped, consuming])
  | .tick _ | .store _ _ _ | .cleanup _ | .evict _ _ | .claim _ | .authenticate _ _
  | .register _ | .wake _ | .timeout _ | .drop _ => .isFalse id

variable {timing : Timing} {state after : State}

/-! ## What one step does to the auth map -/

theorem young_eq_false {now insertedAt : Instant} {limit : Duration}
    (old : young now limit insertedAt = false) :
    limit < Instant.durationSince now insertedAt :=
  Nat.lt_of_not_le (of_decide_eq_false old)

/-- A reclaim removes an entry only when it has expired. -/
theorem lookup_retainAuth {now : Instant} {auths : Table InFlightKey (UnderlayAuth × Instant)}
    {key : InFlightKey} {auth : UnderlayAuth} {insertedAt : Instant}
    (found : auths.lookup key = some (auth, insertedAt))
    (unexpired : ¬ timing.ttl < Instant.durationSince now insertedAt) :
    (retainAuth timing now auths).lookup key = some (auth, insertedAt) := by
  have fresh : young now timing.ttl insertedAt = true := by
    by_contra old
    exact unexpired (young_eq_false (Bool.eq_false_iff.mpr old))
  rw [retainAuth, Table.lookup_retain, found]
  simp [Option.filter, fresh]

theorem lookup_of_lookup_reclaimAuth {now : Instant} {key other : InFlightKey}
    {map : InFlightState} {entry : UnderlayAuth × Instant}
    (found : (reclaimAuth timing now key map).lookup other = some entry) :
    map.auth.lookup other = some entry := by
  unfold reclaimAuth at found
  split at found
  · exact Table.lookup_of_lookup_retain found
  · exact found

theorem store_auth_of_dropped {now : Instant} {key : InFlightKey} {auth : UnderlayAuth}
    {map : InFlightState} {notify : Registry} (dropped : storeDrops timing now key map) :
    (store timing now key auth map notify).1.auth = reclaimAuth timing now key map := by
  unfold store
  rw [if_pos dropped]

/-- The two ways a consuming call leaves the table. -/
theorem consume_cases (key : InFlightKey) (auth : UnderlayAuth) (insertedAt : Instant)
    (map : InFlightState) :
    (∃ stored, map.auth.lookup key = some (stored, insertedAt) ∧
      consume key auth insertedAt map =
        ({ map with auth := map.auth.erase key }, .returned (.verified auth))) ∨
    ((∀ stored, map.auth.lookup key ≠ some (stored, insertedAt)) ∧
      consume key auth insertedAt map = (map, .returned .lost)) := by
  unfold consume
  cases found : map.auth.lookup key with
  | none =>
      right
      exact ⟨fun _ impossible => Option.some_ne_none _ impossible.symm, rfl⟩
  | some entry =>
      by_cases same : entry.2 = insertedAt
      · left
        refine ⟨entry.1, ?_, if_pos same⟩
        rw [← same]
      · right
        refine ⟨fun stored equal => same ?_, if_neg same⟩
        rw [Option.some.inj equal]

/-- An entry that a step removes was consumed, replaced or had expired. -/
theorem justified_of_removed {earlier : List (State × Action)} {action : Action}
    {key : InFlightKey} {auth : UnderlayAuth} {insertedAt : Instant}
    (accepts : ∀ call auth insertedAt, (state.calls call).pc = .consuming auth insertedAt →
      Accepted earlier call auth)
    (unswapped : ¬ Swapped state action)
    (taken : step timing state action = some after)
    (found : state.map.auth.lookup key = some (auth, insertedAt))
    (gone : after.map.auth.lookup key ≠ some (auth, insertedAt)) :
    Justified timing earlier state after key auth insertedAt action := by
  cases took_of_step taken with
  | @store readAt other newer past =>
      by_cases old : timing.ttl < Instant.durationSince readAt insertedAt
      · exact .expiredAtStore old
      · have kept : (reclaimAuth timing readAt other state.map).lookup key =
            some (auth, insertedAt) := by
          unfold reclaimAuth
          split
          · exact lookup_retainAuth found old
          · exact found
        by_cases dropped : storeDrops timing readAt other state.map
        · refine absurd ?_ gone
          show (store timing readAt other newer state.map state.notify).1.auth.lookup key = _
          rw [store_auth_of_dropped dropped]
          exact kept
        · have stored : (store timing readAt other newer state.map state.notify).1.auth =
              (reclaimAuth timing readAt other state.map).insert other (newer, readAt) :=
            store_eq_of_stored dropped
          by_cases same : key = other
          · subst same
            apply Justified.replaced
            show (store timing readAt key newer state.map state.notify).1.auth.lookup key = _
            rw [stored, AList.lookup_insert]
          · refine absurd ?_ gone
            show (store timing readAt other newer state.map state.notify).1.auth.lookup key = _
            rw [stored, AList.lookup_insert_ne same]
            exact kept
  | @cleanup readAt past =>
      apply Justified.expiredAtCleanup
      by_contra young
      exact gone (lookup_retainAuth found young)
  | @consume call cloned clonedAt consuming =>
      rcases consume_cases (state.calls call).key cloned clonedAt state.map with
        ⟨stored, present, result⟩ | ⟨-, result⟩
      · by_cases own : (state.calls call).key = key
        · have entry : (stored, clonedAt) = (auth, insertedAt) := by
            rw [own, found] at present
            exact (Option.some.inj present).symm
          have same : cloned = auth := by
            by_contra different
            refine unswapped ⟨cloned, clonedAt, stored, consuming, present, ?_⟩
            rw [(Prod.mk.inj entry).1]
            exact fun equal => different equal.symm
          subst same
          refine .returned own (accepts call cloned clonedAt consuming) ?_
          rw [setPc_self, result]
        · refine absurd ?_ gone
          show (consume _ cloned clonedAt state.map).1.auth.lookup key = _
          rw [result, AList.lookup_erase_ne (fun equal => own equal.symm)]
          exact found
      · refine absurd ?_ gone
        show (consume _ cloned clonedAt state.map).1.auth.lookup key = _
        rw [result]
        exact found
  | register registering =>
      refine absurd ?_ gone
      show (register timing state.now _ state.map state.notify).1.auth.lookup key = _
      rw [register_registered.auth]
      exact found
  | tick | evict | claim | authenticate | wake | timeout | drop => exact absurd found gone

/-- A new entry was put there by a store. -/
theorem stored_of_found {action : Action} {key : InFlightKey} {auth : UnderlayAuth}
    {insertedAt : Instant} (taken : step timing state action = some after)
    (found : after.map.auth.lookup key = some (auth, insertedAt)) :
    state.map.auth.lookup key = some (auth, insertedAt) ∨ action = .store insertedAt key auth := by
  cases took_of_step taken with
  | @store readAt other newer past =>
      change (store timing readAt other newer state.map state.notify).1.auth.lookup key = _ at found
      by_cases dropped : storeDrops timing readAt other state.map
      · rw [store_auth_of_dropped dropped] at found
        exact .inl (lookup_of_lookup_reclaimAuth found)
      · rw [store_eq_of_stored dropped] at found
        by_cases same : key = other
        · subst same
          rw [AList.lookup_insert] at found
          obtain ⟨rfl, rfl⟩ := Prod.mk.inj (Option.some.inj found)
          exact .inr rfl
        · rw [AList.lookup_insert_ne same] at found
          exact .inl (lookup_of_lookup_reclaimAuth found)
  | cleanup past => exact .inl (Table.lookup_of_lookup_retain found)
  | @consume call cloned clonedAt consuming =>
      change (consume _ cloned clonedAt state.map).1.auth.lookup key = _ at found
      rcases consume_cases (state.calls call).key cloned clonedAt state.map with
        ⟨stored, present, result⟩ | ⟨-, result⟩
      · rw [result] at found
        by_cases same : key = (state.calls call).key
        · subst same
          rw [AList.lookup_erase] at found
          cases found
        · rw [AList.lookup_erase_ne same] at found
          exact .inl found
      · rw [result] at found
        exact .inl found
  | register registering =>
      change (register timing state.now _ state.map state.notify).1.auth.lookup key = _ at found
      rw [register_registered.auth] at found
      exact .inl found
  | tick | evict | claim | authenticate | wake | timeout | drop => exact .inl found

/-! ## Where a call stands -/

theorem register_ne_consuming {now : Instant} {key : InFlightKey} {map : InFlightState}
    {notify : Registry} {auth : UnderlayAuth} {insertedAt : Instant} :
    (register timing now key map notify).2.2 ≠ .consuming auth insertedAt := by
  have subscribed : ∀ (map : InFlightState) (notify : Registry),
      (subscribe now key map notify).2.2 ≠ .consuming auth insertedAt := by
    intro map notify
    unfold subscribe
    split <;> simp
  unfold register
  split
  · simp
  · split
    · dsimp only
      split
      · simp
      · exact subscribed _ _
    · exact subscribed _ _

/-- A call comes to consume by an accepting callback only. -/
theorem consuming_before {action : Action} {call : Nat} {auth : UnderlayAuth}
    {insertedAt : Instant} (taken : step timing state action = some after)
    (consuming : (after.calls call).pc = .consuming auth insertedAt) :
    (state.calls call).pc = .consuming auth insertedAt ∨
      action = .authenticate call true ∧
        (state.calls call).pc = .authenticating auth insertedAt := by
  by_cases own : action.subject = some call
  · cases took_of_step taken with
    | tick | store | cleanup => cases own
    | evict idle =>
        obtain rfl := Option.some.inj own
        simp at consuming
    | claim claiming =>
        obtain rfl := Option.some.inj own
        rw [setPc_self] at consuming
        unfold claim at consuming
        split at consuming <;> cases consuming
    | @authenticate _ accepts auth insertedAt authenticating =>
        obtain rfl := Option.some.inj own
        rw [setPc_self] at consuming
        cases accepts with
        | false => cases consuming
        | true =>
            obtain ⟨rfl, rfl⟩ := EvictPc.consuming.inj consuming
            exact .inr ⟨rfl, authenticating⟩
    | @consume _ cloned clonedAt here =>
        obtain rfl := Option.some.inj own
        exact .inl (by
          rw [setPc_self] at consuming
          rcases consume_cases (state.calls _).key cloned clonedAt state.map with
            ⟨stored, -, result⟩ | ⟨-, result⟩
          all_goals
            rw [result] at consuming
            cases consuming)
    | register registering =>
        obtain rfl := Option.some.inj own
        rw [setPc_self] at consuming
        exact absurd consuming register_ne_consuming
    | wake | timeout | drop =>
        obtain rfl := Option.some.inj own
        rw [setPc_self] at consuming
        cases consuming
  · rw [step_other_call taken own] at consuming
    exact .inl consuming

/-- A call that returned takes no further step. -/
theorem subject_ne_of_returned {action : Action} {call : Nat} {outcome : EvictOutcome}
    (returned : (state.calls call).pc = .returned outcome)
    (taken : step timing state action = some after) : action.subject ≠ some call := by
  intro own
  cases took_of_step taken with
  | tick | store | cleanup => cases own
  | evict here | claim here | authenticate here | consume here | register here | wake here
  | timeout here | drop here =>
      obtain rfl := Option.some.inj own
      cases here.symm.trans returned

/-- The step ends the call with the verdict of its callback. -/
def Ends (call : Nat) (action : Action) : Prop :=
  action = .consume call ∨ action = .authenticate call false

theorem Ends.subject {call : Nat} {action : Action} (ends : Ends call action) :
    action.subject = some call := by
  rcases ends with rfl | rfl <;> rfl

theorem Ends.returned {call : Nat} {action : Action} (ends : Ends call action)
    (taken : step timing state action = some after) :
    ∃ outcome, (after.calls call).pc = .returned outcome := by
  cases took_of_step taken with
  | @consume actor cloned clonedAt consuming =>
      obtain rfl := Option.some.inj ends.subject
      rw [setPc_self]
      rcases consume_cases (state.calls actor).key cloned clonedAt state.map with
        ⟨stored, -, result⟩ | ⟨-, result⟩
      · exact ⟨_, congrArg Prod.snd result⟩
      · exact ⟨_, congrArg Prod.snd result⟩
  | @authenticate actor accepts auth insertedAt authenticating =>
      obtain rfl := Option.some.inj ends.subject
      rcases ends with impossible | rejects
      · cases impossible
      · obtain rfl := (Action.authenticate.inj rejects).2
        exact ⟨.rejected, by simp⟩
  | tick | store | cleanup | evict | claim | register | wake | timeout | drop =>
      rcases ends with impossible | impossible <;> cases impossible

theorem Returns.found {call : Nat} {auth : UnderlayAuth} (returns : Returns timing state call auth)
    (unswapped : ¬ Swapped state (.consume call)) :
    ∃ insertedAt,
      state.map.auth.lookup (state.calls call).key = some (auth, insertedAt) := by
  obtain ⟨after, taken, verified⟩ := returns
  cases took_of_step taken with
  | @consume _ cloned clonedAt consuming =>
      rw [setPc_self] at verified
      rcases consume_cases (state.calls call).key cloned clonedAt state.map with
        ⟨stored, present, result⟩ | ⟨-, result⟩
      · rw [result] at verified
        obtain rfl := EvictOutcome.verified.inj (EvictPc.returned.inj verified)
        have same : stored = cloned := by
          by_contra different
          exact unswapped ⟨cloned, clonedAt, stored, consuming, present, different⟩
        rw [same] at present
        exact ⟨clonedAt, present⟩
      · rw [result] at verified
        cases EvictPc.returned.inj verified

/-- A call that returns an auth leaves no entry under its key. -/
theorem Returns.erased {call : Nat} {auth : UnderlayAuth}
    (taken : step timing state (.consume call) = some after)
    (returns : Returns timing state call auth) :
    after.map.auth.lookup (state.calls call).key = none := by
  obtain ⟨other, alsoTaken, verified⟩ := returns
  obtain rfl := Option.some.inj (taken.symm.trans alsoTaken)
  cases took_of_step taken with
  | @consume _ cloned clonedAt consuming =>
      rw [setPc_self] at verified
      rcases consume_cases (state.calls call).key cloned clonedAt state.map with
        ⟨stored, -, result⟩ | ⟨-, result⟩
      · show (consume _ cloned clonedAt state.map).1.auth.lookup _ = none
        rw [result]
        exact AList.lookup_erase _ _
      · rw [result] at verified
        cases EvictPc.returned.inj verified

/-! ## Whole runs -/

variable {history : List (State × Action)} {origin final : State}

theorem Accepted.snoc {call : Nat} {auth : UnderlayAuth} {entry : State × Action}
    (accepted : Accepted history call auth) : Accepted (history ++ [entry]) call auth := by
  obtain ⟨accepting, insertedAt, member, authenticating⟩ := accepted
  exact ⟨accepting, insertedAt, List.mem_append_left _ member, authenticating⟩

theorem accepted_of_consuming (run : Run (step timing) initial history final) :
    ∀ call auth insertedAt, (final.calls call).pc = .consuming auth insertedAt →
      Accepted history call auth := by
  induction run with
  | start =>
      intro call auth insertedAt consuming
      cases consuming
  | @next history state after action before taken inductionHypothesis =>
      intro call auth insertedAt consuming
      rcases consuming_before taken consuming with earlier | ⟨accepts, authenticating⟩
      · exact (inductionHypothesis call auth insertedAt earlier).snoc
      · exact ⟨state, insertedAt, by simp [accepts], authenticating⟩

/-- A call whose callback gave a verdict has returned. -/
theorem returned_of_ended (run : Run (step timing) origin history final) {call : Nat}
    {ending : State} {action : Action} (member : (ending, action) ∈ history)
    (ends : Ends call action) : ∃ outcome, (final.calls call).pc = .returned outcome := by
  induction run with
  | start => cases member
  | @next history state after last before taken inductionHypothesis =>
      rcases List.mem_append.mp member with old | new
      · obtain ⟨outcome, returned⟩ := inductionHypothesis old
        rw [step_other_call taken (subject_ne_of_returned returned taken)]
        exact ⟨outcome, returned⟩
      · obtain ⟨rfl, rfl⟩ := Prod.mk.inj (List.mem_singleton.mp new)
        exact ends.returned taken

/-- The verdict is given once. -/
theorem ended_once (run : Run (step timing) origin history final) {call : Nat}
    {one another : State} {first second : Action} (oneMember : (one, first) ∈ history)
    (anotherMember : (another, second) ∈ history) (firstEnds : Ends call first)
    (secondEnds : Ends call second) : first = second := by
  induction run with
  | start => cases oneMember
  | @next history state after last before taken inductionHypothesis =>
      have notAgain : ∀ {ending : State} {action : Action}, (ending, action) ∈ history →
          Ends call action → Ends call last → False := by
        intro ending action member ends again
        obtain ⟨outcome, returned⟩ := returned_of_ended before member ends
        exact subject_ne_of_returned returned taken again.subject
      rcases List.mem_append.mp oneMember with oneOld | oneNew
      · rcases List.mem_append.mp anotherMember with anotherOld | anotherNew
        · exact inductionHypothesis oneOld anotherOld
        · obtain ⟨rfl, rfl⟩ := Prod.mk.inj (List.mem_singleton.mp anotherNew)
          exact absurd secondEnds (notAgain oneOld firstEnds)
      · obtain ⟨rfl, rfl⟩ := Prod.mk.inj (List.mem_singleton.mp oneNew)
        rcases List.mem_append.mp anotherMember with anotherOld | anotherNew
        · exact absurd firstEnds (notAgain anotherOld secondEnds)
        · obtain ⟨rfl, rfl⟩ := Prod.mk.inj (List.mem_singleton.mp anotherNew)
          rfl

/-- A run that comes to an entry it did not start with stored it. -/
theorem stored_between (run : Run (step timing) origin history final) {key : InFlightKey}
    {auth : UnderlayAuth}
    (absent : ∀ insertedAt, origin.map.auth.lookup key ≠ some (auth, insertedAt)) :
    ∀ insertedAt, final.map.auth.lookup key = some (auth, insertedAt) →
      ∃ storing readAt, (storing, .store readAt key auth) ∈ history := by
  induction run with
  | start => exact fun insertedAt found => absurd found (absent insertedAt)
  | @next history state after action before taken inductionHypothesis =>
      intro insertedAt found
      rcases stored_of_found taken found with earlier | stores
      · obtain ⟨storing, readAt, member⟩ := inductionHypothesis insertedAt earlier
        exact ⟨storing, readAt, List.mem_append_left _ member⟩
      · exact ⟨state, insertedAt, by simp [stores]⟩

theorem auth_unchanged {action : Action} {call : Nat} (own : action.subject = some call)
    (notConsume : action ≠ .consume call) (taken : step timing state action = some after) :
    after.map.auth = state.map.auth := by
  cases took_of_step taken with
  | tick | store | cleanup => cases own
  | consume =>
      obtain rfl := Option.some.inj own
      exact absurd rfl notConsume
  | register => exact register_registered.auth
  | evict | claim | authenticate | wake | timeout | drop => rfl

theorem rejected_keeps (run : Run (step timing) origin history final) {call : Nat}
    {rejecting : State} (member : (rejecting, .authenticate call false) ∈ history) :
    (∀ after, step timing rejecting (.authenticate call false) = some after →
      after.map = rejecting.map) ∧
    ∀ state action after, (state, action) ∈ history → action.subject = some call →
      step timing state action = some after → after.map.auth = state.map.auth := by
  constructor
  · intro after taken
    cases took_of_step taken with
    | authenticate => rfl
  · intro state action after alsoMember own taken
    apply auth_unchanged own ?_ taken
    intro consumes
    subst consumes
    cases ended_once run member alsoMember (.inr rfl) (.inl rfl)

/-- Every run in which no call meets a swapped entry consumes each auth once. -/
theorem consumedOnce_of_allowed (run : Run (step timing) initial history final)
    (fine : Allowed (fun state action => ¬ Swapped state action) history) :
    ConsumedOnce timing history where
  removed := by
    intro earlier state action later after key auth insertedAt shape taken found gone
    subst shape
    have before := run.split.1
    exact justified_of_removed (accepted_of_consuming before)
      (fine (state, action) (by simp)) taken found gone
  stored := by
    intro earlier state call later auth shape returns
    subst shape
    obtain ⟨insertedAt, found⟩ := returns.found (fine (state, .consume call) (by simp))
    exact stored_between run.split.1 (fun _ impossible => nomatch impossible) insertedAt found
  once := by
    intro earlier first firstCall middle second secondCall later auth shape sameKey firstReturns
      secondReturns
    subst shape
    obtain ⟨-, after, taken, rest⟩ := run.split
    obtain ⟨insertedAt, found⟩ :=
      secondReturns.found (fine (second, .consume secondCall) (by simp))
    rw [← sameKey] at found
    have erased := firstReturns.erased taken
    refine stored_between rest.split.1 (fun otherAt present => ?_) insertedAt found
    rw [erased] at present
    cases present
  rejected := fun _ _ member => rejected_keeps run member

/-- A call that meets a swapped entry removes an auth it never verified. -/
theorem not_justified_of_swapped {earlier : List (State × Action)} {action : Action}
    (swapped : Swapped state action) (taken : step timing state action = some after) :
    ∃ key auth insertedAt, state.map.auth.lookup key = some (auth, insertedAt) ∧
      after.map.auth.lookup key ≠ some (auth, insertedAt) ∧
      ¬ Justified timing earlier state after key auth insertedAt action := by
  cases took_of_step taken with
  | @consume call auth insertedAt consuming =>
      obtain ⟨cloned, clonedAt, stored, alsoConsuming, present, different⟩ := swapped
      obtain ⟨rfl, rfl⟩ := EvictPc.consuming.inj (consuming.symm.trans alsoConsuming)
      rcases consume_cases (state.calls call).key auth insertedAt state.map with
        ⟨-, -, result⟩ | ⟨missing, -⟩
      · refine ⟨_, stored, insertedAt, present, ?_, ?_⟩
        · show (consume _ auth insertedAt state.map).1.auth.lookup _ ≠ _
          rw [result, AList.lookup_erase]
          exact fun impossible => nomatch impossible
        · intro justified
          cases justified with
          | returned own accepted verified =>
              rw [setPc_self, result] at verified
              exact different (EvictOutcome.verified.inj (EvictPc.returned.inj verified)).symm
      · exact absurd present (missing stored)
  | tick | store | cleanup | evict | claim | authenticate | register | wake | timeout | drop =>
      cases swapped

theorem not_consumedOnce_of_swapped (run : Run (step timing) origin history final)
    {action : Action} (member : (state, action) ∈ history) (swapped : Swapped state action) :
    ¬ ConsumedOnce timing history := by
  intro consumed
  obtain ⟨earlier, later, shape⟩ := List.append_of_mem member
  subst shape
  obtain ⟨-, after, taken, -⟩ := run.split
  obtain ⟨key, auth, insertedAt, found, gone, unjustified⟩ :=
    not_justified_of_swapped swapped taken
  exact unjustified (consumed.removed earlier state action later after key auth insertedAt rfl
    taken found gone)

/-- A run consumes each stored auth once, by a call that proved it, exactly if
no call re-locks the table to find another auth stored at the same instant. -/
theorem auth_consumedOnce_iff (timing : Timing) :
    ∀ history final, Run (step timing) initial history final →
      (ConsumedOnce timing history ↔
        Allowed (fun state action => ¬ Swapped state action) history) := by
  intro history final run
  constructor
  · intro consumed entry member swapped
    exact not_consumedOnce_of_swapped run member swapped consumed
  · exact consumedOnce_of_allowed run

/-! ## Two auths under one salt at one instant -/

/-- The client's second auth for the same salt, for another target. -/
def laterAuth : UnderlayAuth :=
  { sampleAuth with metadata := { sampleAuth.metadata with port := 443 } }

/-- A packet proves the first auth while the second one replaces it. -/
def swappedSchedule : List Action :=
  [.store 0 sampleKey sampleAuth, .evict 0 sampleKey, .claim 0, .authenticate 0 true,
    .store 0 sampleKey laterAuth, .consume 0]

theorem swapped_auth_not_consumedOnce :
    ∃ history final, Run (step sampleTiming) initial history final ∧
      (final.calls 0).pc = .returned (.verified sampleAuth) ∧ final.map.auth = ∅ ∧
      ¬ ConsumedOnce sampleTiming history := by
  have checked : (exec (step sampleTiming) initial swappedSchedule).any (fun final =>
      decide ((final.calls 0).pc = .returned (.verified sampleAuth) ∧
        final.map.auth.entries = [])) = true := by
    decide +kernel
  obtain ⟨final, executed, facts⟩ := (Option.any_eq_true _ _).mp checked
  obtain ⟨verified, empty⟩ := of_decide_eq_true facts
  have run := run_trace executed
  refine ⟨_, final, run, verified, AList.ext empty, ?_⟩
  have replaced : (trace (step sampleTiming) initial swappedSchedule).any (fun entry =>
      decide (Swapped entry.1 entry.2)) = true := by
    decide +kernel
  obtain ⟨⟨state, action⟩, member, swapped⟩ := List.any_eq_true.mp replaced
  exact not_consumedOnce_of_swapped run member (of_decide_eq_true swapped)

/-- The second auth is stored one nanosecond later: the first call loses and a
second packet consumes the newer auth. -/
def spacedSchedule : List Action :=
  [.store 0 sampleKey sampleAuth, .evict 0 sampleKey, .claim 0, .authenticate 0 true, .tick 1,
    .store 1 sampleKey laterAuth, .consume 0, .evict 1 sampleKey, .claim 1,
    .authenticate 1 true, .consume 1]

theorem auth_consumedOnce_iff_spaced :
    ∃ history final, Run (step sampleTiming) initial history final ∧
      (final.calls 0).pc = .returned .lost ∧
      (final.calls 1).pc = .returned (.verified laterAuth) ∧
      ConsumedOnce sampleTiming history := by
  have checked : (exec (step sampleTiming) initial spacedSchedule).any (fun final =>
      decide ((final.calls 0).pc = .returned .lost ∧
        (final.calls 1).pc = .returned (.verified laterAuth))) = true := by
    decide +kernel
  obtain ⟨final, executed, facts⟩ := (Option.any_eq_true _ _).mp checked
  obtain ⟨lost, verified⟩ := of_decide_eq_true facts
  have run := run_trace executed
  have fine : (trace (step sampleTiming) initial spacedSchedule).all (fun entry =>
      decide (¬ Swapped entry.1 entry.2)) = true := by
    decide +kernel
  refine ⟨_, final, run, lost, verified, (auth_consumedOnce_iff sampleTiming _ _ run).mpr ?_⟩
  exact fun entry member => of_decide_eq_true (List.all_eq_true.mp fine entry member)

end Juicity.Server.Inflight
