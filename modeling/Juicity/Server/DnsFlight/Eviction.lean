import Juicity.Server.DnsFlight.Flight

/-!
Owns the bound of the DNS cache and the order in which it evicts. New entries go
to the end, so the first entry is the earliest as long as every removal keeps
the others in order. `swap_remove` does so only where the entries behind the
removed one are of one age; an eviction moves the newest entry to the front.
-/

namespace Juicity.Server.DnsFlight

open Juicity.Common
open Juicity.Machine
open Juicity.Server.UdpRelay (Name)

abbrev Entry := Name × (SocketAddr × Instant)

def resolvedAt (entry : Entry) : Instant := entry.2.2

/-- The entries stand in the order of their resolutions. -/
def Ordered (cache : IndexMap Name (SocketAddr × Instant)) : Prop :=
  cache.entries.Pairwise fun left right => resolvedAt left ≤ resolvedAt right

/-- An insertion evicts this entry. -/
def Evicts (state : State) (entry : Entry) : Prop :=
  entry ∈ state.dnsCache.entries ∧ entry ∉ state.madeRoom.entries

/-- The entries behind the key were all resolved at one time. -/
def EvenBehind (cache : IndexMap Name (SocketAddr × Instant)) (key : Name) : Prop :=
  ∀ left ∈ IndexMap.behind key cache.entries, ∀ right ∈ IndexMap.behind key cache.entries,
    resolvedAt left ≤ resolvedAt right

/-- An expired or evicted entry has only entries of one age behind it. -/
def KeepsOrder (state : State) : Action → Prop
  | .enter call => ∀ mapped timestamp,
      state.dnsCache.get (state.calls call).key = some (mapped, timestamp) →
      Consts.udpDnsCacheTtl ≤ state.now.durationSince timestamp →
      EvenBehind state.dnsCache (state.calls call).key
  | .store _ => ∀ oldest rest, state.dnsCache.entries = oldest :: rest →
      Consts.maxUdpDnsCache ≤ state.dnsCache.size → EvenBehind state.dnsCache oldest.1
  | _ => True

/-- The key a call is fetching the address of. -/
def Call.fetching (call : Call) : Option Name :=
  match call.pc with
  | .looking _ | .storing _ _ => some call.key
  | _ => none

/-! ## What an action does to the cache -/

inductive Cached (state : State) : Action → State → Prop
  | kept {action : Action} {after : State} (cache : after.dnsCache = state.dnsCache)
      (now : state.now ≤ after.now)
      (fetching : ∀ call key, (after.calls call).fetching = some key →
        (state.calls call).fetching = some key)
      (keeps : KeepsOrder state action) : Cached state action after
  | entered {call : Nat} {after : State} (entering : (state.calls call).pc = .entering)
      (cache : after.dnsCache = state.dnsCache ∧
          state.dnsCache.get (state.calls call).key = none ∨
        after.dnsCache = state.dnsCache.swapRemove (state.calls call).key ∧
          ∃ mapped timestamp,
            state.dnsCache.get (state.calls call).key = some (mapped, timestamp) ∧
            Consts.udpDnsCacheTtl ≤ state.now.durationSince timestamp)
      (now : after.now = state.now)
      (fetching : ∀ other key, (after.calls other).fetching = some key →
        (state.calls other).fetching = some key ∨ key = (state.calls call).key) :
      Cached state (.enter call) after
  | stored {call notify : Nat} {target : SocketAddr} {after : State}
      (storing : (state.calls call).pc = .storing notify target)
      (cache : after.dnsCache =
        state.madeRoom.insert (state.calls call).key (target, state.now))
      (now : after.now = state.now)
      (fetching : ∀ other key, (after.calls other).fetching = some key →
        other ≠ call ∧ (state.calls other).fetching = some key) : Cached state (.store call) after

section Steps

variable {state after : State} {action : Action} {call notify : Nat} {key : Name}

theorem fetching_cases {moved : Call} (moves : Moves state.calls after.calls call moved)
    {other : Nat} (fetches : (after.calls other).fetching = some key) :
    other = call ∧ moved.fetching = some key ∨
      other ≠ call ∧ (state.calls other).fetching = some key := by
  by_cases same : other = call
  · rw [same, moves.self] at fetches
    exact .inl ⟨same, fetches⟩
  · rw [moves.of_ne same] at fetches
    exact .inr ⟨same, fetches⟩

/-- A call moves to a place where it fetches what it fetched before, or nothing. -/
theorem cached_of_moves {moved : Call} (moves : Moves state.calls after.calls call moved)
    (cache : after.dnsCache = state.dnsCache) (now : after.now = state.now)
    (fetching : ∀ key, moved.fetching = some key → (state.calls call).fetching = some key)
    (keeps : KeepsOrder state action) : Cached state action after := by
  refine .kept cache now.ge (fun other key fetches => ?_) keeps
  rcases fetching_cases moves fetches with ⟨rfl, mine⟩ | ⟨_, before⟩
  · exact fetching key mine
  · exact before

/-- The call stops fetching, or does not fetch yet. -/
theorem cached_of_idle {moved : Call} (moves : Moves state.calls after.calls call moved)
    (cache : after.dnsCache = state.dnsCache) (now : after.now = state.now)
    (idle : moved.fetching = none) (keeps : KeepsOrder state action) :
    Cached state action after := by
  refine cached_of_moves moves cache now (fun key fetches => ?_) keeps
  rw [idle] at fetches
  cases fetches

/-- The registration does not read the cache. -/
theorem register_cases (cache : IndexMap Name (SocketAddr × Instant)) (call : Nat) :
    ∃ moved, Moves state.calls ({ state with dnsCache := cache }.register call).calls call moved ∧
      ({ state with dnsCache := cache }.register call).dnsCache = cache ∧
      ({ state with dnsCache := cache }.register call).now = state.now ∧
      ∀ key, moved.fetching = some key → key = (state.calls call).key := by
  unfold State.register
  dsimp only
  split
  · exact ⟨_, rfl, rfl, rfl, fun key fetches => by cases fetches⟩
  · exact ⟨_, rfl, rfl, rfl, fun key fetches => (Option.some.inj fetches).symm⟩

theorem cached_register (cache : IndexMap Name (SocketAddr × Instant))
    (entering : (state.calls call).pc = .entering)
    (read : cache = state.dnsCache ∧ state.dnsCache.get (state.calls call).key = none ∨
      cache = state.dnsCache.swapRemove (state.calls call).key ∧ ∃ mapped timestamp,
        state.dnsCache.get (state.calls call).key = some (mapped, timestamp) ∧
        Consts.udpDnsCacheTtl ≤ state.now.durationSince timestamp) :
    Cached state (.enter call) ({ state with dnsCache := cache }.register call) := by
  obtain ⟨moved, moves, left, now, fetching⟩ := @register_cases state cache call
  refine .entered entering (by rwa [left]) now fun other key fetches => ?_
  rcases fetching_cases moves fetches with ⟨_, mine⟩ | ⟨_, before⟩
  · exact .inr (fetching key mine)
  · exact .inl before

theorem cached_enter (entering : (state.calls call).pc = .entering) :
    Cached state (.enter call) (state.enter call) := by
  unfold State.enter
  dsimp only
  split
  · rename_i mapped timestamp found
    split
    · rename_i young
      refine cached_of_idle rfl rfl rfl rfl fun other stored again expired => ?_
      obtain ⟨rfl, rfl⟩ := Prod.mk.inj (Option.some.inj (found.symm.trans again))
      exact absurd young (Nat.not_lt_of_le expired)
    · rename_i expired
      exact cached_register _ entering
        (.inr ⟨rfl, mapped, timestamp, found, Nat.le_of_not_lt expired⟩)
  · rename_i missing
    exact cached_register state.dnsCache entering (.inl ⟨rfl, missing⟩)

theorem cached_store {target : SocketAddr}
    (storing : (state.calls call).pc = .storing notify target) :
    Cached state (.store call) (state.store call notify target) := by
  have moves : Moves state.calls (state.store call notify target).calls call
      { state.calls call with pc := .releasing notify (.resolved target) } := rfl
  refine .stored storing rfl rfl fun other key fetches => ?_
  rcases fetching_cases moves fetches with ⟨_, mine⟩ | before
  · cases mine
  · exact before

theorem cached_of_step (taken : step state action = some after) : Cached state action after := by
  cases action with
  | tick elapsed =>
      obtain rfl := Option.some.inj taken
      exact .kept rfl (Nat.le_add_right _ _) (fun call key fetches => fetches) trivial
  | begin call key =>
      simp only [step] at taken
      split at taken
      · obtain rfl := Option.some.inj taken
        unfold State.begin
        split
        · exact cached_of_idle rfl rfl rfl rfl trivial
        · exact cached_of_idle rfl rfl rfl rfl trivial
      · cases taken
  | enter call =>
      simp only [step] at taken
      split at taken
      · obtain rfl := Option.some.inj taken
        exact cached_enter ‹_›
      · cases taken
  | wake call =>
      simp only [step] at taken
      split at taken
      · split at taken
        · obtain rfl := Option.some.inj taken
          exact cached_of_idle rfl rfl rfl rfl trivial
        · cases taken
      · cases taken
  | answer call found =>
      simp only [step] at taken
      split at taken
      · rename_i notify looking
        obtain rfl := Option.some.inj taken
        unfold State.answer
        split
        · refine cached_of_moves rfl rfl rfl (fun key fetches => ?_) trivial
          rw [Call.fetching, looking]
          exact fetches
        · exact cached_of_idle rfl rfl rfl rfl trivial
        · exact cached_of_idle rfl rfl rfl rfl trivial
      · cases taken
  | store call =>
      simp only [step] at taken
      split at taken
      · obtain rfl := Option.some.inj taken
        exact cached_store ‹_›
      · cases taken
  | timeout call =>
      simp only [step] at taken
      split at taken
      · split at taken
        · split at taken
          · cases taken
          · obtain rfl := Option.some.inj taken
            exact cached_of_idle rfl rfl rfl rfl trivial
        · obtain rfl := Option.some.inj taken
          exact cached_of_idle rfl rfl rfl rfl trivial
        · cases taken
      · cases taken
  | drop call =>
      simp only [step] at taken
      split at taken
      · obtain rfl := Option.some.inj taken
        exact cached_of_idle rfl rfl rfl rfl trivial
      · obtain rfl := Option.some.inj taken
        exact cached_of_idle rfl rfl rfl rfl trivial
      · cases taken
  | release call =>
      simp only [step] at taken
      split at taken
      · obtain rfl := Option.some.inj taken
        exact cached_of_idle rfl rfl rfl rfl trivial
      · cases taken
  | wakeAll call =>
      simp only [step] at taken
      split at taken
      · obtain rfl := Option.some.inj taken
        exact cached_of_idle rfl rfl rfl rfl trivial
      · cases taken

end Steps

/-! ## Room for an entry -/

section Room

variable {state : State} {entry : Entry}

theorem madeRoom_cases (state : State) :
    state.madeRoom = state.dnsCache ∧ state.dnsCache.size < Consts.maxUdpDnsCache ∨
      ∃ oldest rest, state.dnsCache.entries = oldest :: rest ∧
        Consts.maxUdpDnsCache ≤ state.dnsCache.size ∧
        state.madeRoom = state.dnsCache.swapRemove oldest.1 := by
  unfold State.madeRoom
  cases listed : state.dnsCache.entries with
  | nil =>
      have empty : state.dnsCache.size = 0 := by rw [IndexMap.size, listed]; rfl
      exact .inl ⟨rfl, by rw [empty]; decide⟩
  | cons oldest rest =>
      by_cases full : Consts.maxUdpDnsCache ≤ state.dnsCache.size
      · exact .inr ⟨oldest, rest, rfl, full, if_pos full⟩
      · exact .inl ⟨if_neg full, Nat.lt_of_not_le full⟩

theorem mem_madeRoom (member : entry ∈ state.madeRoom.entries) :
    entry ∈ state.dnsCache.entries := by
  rcases madeRoom_cases state with ⟨same, _⟩ | ⟨oldest, rest, _, _, removed⟩
  · rwa [same] at member
  · rw [removed] at member
    exact IndexMap.mem_swapRemove member

theorem get_madeRoom {key : Name} (missing : state.dnsCache.get key = none) :
    state.madeRoom.get key = none :=
  IndexMap.get_eq_none_iff.mpr fun entry member =>
    IndexMap.get_eq_none_iff.mp missing entry (mem_madeRoom member)

/-- Only a full cache evicts, and only its first entry. -/
theorem first_of_evicts (evicts : Evicts state entry) :
    Consts.maxUdpDnsCache ≤ state.dnsCache.size ∧
      ∃ rest, state.dnsCache.entries = entry :: rest := by
  obtain ⟨member, gone⟩ := evicts
  rcases madeRoom_cases state with ⟨same, _⟩ | ⟨oldest, rest, listed, full, removed⟩
  · rw [same] at gone
    exact absurd member gone
  · rw [listed] at member
    rcases List.mem_cons.mp member with rfl | later
    · exact ⟨full, rest, listed⟩
    · have left : state.madeRoom.entries = IndexMap.closeGap rest := by
        rw [removed]
        show IndexMap.withoutKey oldest.1 state.dnsCache.entries = _
        rw [listed, IndexMap.withoutKey, if_pos rfl]
      rw [left] at gone
      exact absurd ((IndexMap.closeGap_perm rest).mem_iff.mpr later) gone

/-- In order, the evicted entry is an earliest one. -/
theorem earliest_of_evicts (ordered : Ordered state.dnsCache) (evicts : Evicts state entry) :
    ∀ other ∈ state.dnsCache.entries, resolvedAt entry ≤ resolvedAt other := by
  obtain ⟨_, rest, listed⟩ := first_of_evicts evicts
  unfold Ordered at ordered
  rw [listed] at ordered ⊢
  intro other member
  rcases List.mem_cons.mp member with rfl | later
  · exact le_rfl
  · exact List.rel_of_pairwise_cons ordered later

theorem size_madeRoom (bounded : state.dnsCache.size ≤ Consts.maxUdpDnsCache) :
    state.madeRoom.size < Consts.maxUdpDnsCache := by
  rcases madeRoom_cases state with ⟨same, room⟩ | ⟨oldest, rest, listed, _, removed⟩
  · rwa [same]
  · rw [removed, IndexMap.size_swapRemove_first listed]
    rw [IndexMap.size, listed] at bounded
    exact bounded

end Room

/-! ## Runs -/

/-- What every run keeps. -/
structure Bounded (state : State) : Prop where
  core : Core state
  size : state.dnsCache.size ≤ Consts.maxUdpDnsCache
  past : ∀ entry ∈ state.dnsCache.entries, resolvedAt entry ≤ state.now
  absent : ∀ call key, (state.calls call).fetching = some key → state.dnsCache.get key = none

/-- What a run keeps whose removals keep the order. -/
structure Aged (state : State) : Prop extends Bounded state where
  ordered : Ordered state.dnsCache

theorem aged_initial : Aged initial where
  core := core_initial
  size := Nat.zero_le _
  past := by intro entry member; cases member
  absent := by intro call key fetches; cases fetches
  ordered := .nil

section Preservation

variable {state after : State} {action : Action} {call : Nat}

theorem role_of_fetching {key : Name} (fetches : (state.calls call).fetching = some key) :
    ∃ notify, (state.calls call).role = some (.holding key notify) := by
  unfold Call.fetching at fetches
  unfold Call.role
  split at fetches
  · rename_i notify looking
    rw [looking, ← Option.some.inj fetches]
    exact ⟨notify, rfl⟩
  · rename_i notify target storing
    rw [storing, ← Option.some.inj fetches]
    exact ⟨notify, rfl⟩
  · cases fetches

/-- No two calls fetch the same key. -/
theorem Core.fetching_injective (core : Core state) {other : Nat} {key : Name}
    (here : (state.calls call).fetching = some key)
    (there : (state.calls other).fetching = some key) : call = other := by
  obtain ⟨notify, mine⟩ := role_of_fetching here
  obtain ⟨rival, others⟩ := role_of_fetching there
  have found := (core.registered key notify).mpr ⟨call, mine⟩
  rw [(core.registered key rival).mpr ⟨other, others⟩] at found
  exact core.owner call other _ _ mine others (Option.some.inj found).symm

theorem Bounded.preserved (bounded : Bounded state) (taken : step state action = some after) :
    Bounded after := by
  have core := bounded.core.preserved taken
  cases cached_of_step taken with
  | kept cache now fetching keeps =>
      refine ⟨core, by rw [cache]; exact bounded.size, ?_, ?_⟩
      · rw [cache]
        exact fun entry member => (bounded.past entry member).trans now
      · rw [cache]
        exact fun call key fetches => bounded.absent call key (fetching call key fetches)
  | @entered call _ entering cache now fetching =>
      rcases cache with ⟨same, missing⟩ | ⟨removed, _⟩
      · refine ⟨core, by rw [same]; exact bounded.size, by rw [same, now]; exact bounded.past, ?_⟩
        rw [same]
        intro other key fetches
        rcases fetching other key fetches with before | rfl
        · exact bounded.absent other key before
        · exact missing
      · refine ⟨core, ?_, ?_, ?_⟩
        · rw [removed]
          exact (IndexMap.withoutKey_subperm _ _).length_le.trans bounded.size
        · rw [removed, now]
          exact fun entry member => bounded.past entry (IndexMap.mem_swapRemove member)
        · rw [removed]
          intro other key fetches
          rcases fetching other key fetches with before | rfl
          · exact IndexMap.get_swapRemove_of_missing (bounded.absent other key before)
          · exact IndexMap.get_swapRemove _ _
  | @stored call notify target _ storing cache now fetching =>
      have mine : (state.calls call).fetching = some (state.calls call).key := by
        rw [Call.fetching, storing]
      refine ⟨core, ?_, ?_, ?_⟩
      · rw [cache]
        exact (IndexMap.size_insert_le _ _ _).trans (size_madeRoom bounded.size)
      · rw [cache, now]
        intro entry member
        rcases IndexMap.mem_insert member with rfl | old
        · exact le_rfl
        · exact bounded.past entry (mem_madeRoom old)
      · rw [cache]
        intro other key fetches
        obtain ⟨different, before⟩ := fetching other key fetches
        apply IndexMap.get_insert_of_ne
        · rintro rfl
          exact different (bounded.core.fetching_injective before mine)
        · exact get_madeRoom (bounded.absent other key before)

/-- A stored address goes behind all others. -/
theorem Bounded.ordered_store (bounded : Bounded state) {notify : Nat} {target : SocketAddr}
    (storing : (state.calls call).pc = .storing notify target) :
    Ordered (state.madeRoom.insert (state.calls call).key (target, state.now)) ↔
      Ordered state.madeRoom := by
  have mine : (state.calls call).fetching = some (state.calls call).key := by
    rw [Call.fetching, storing]
  unfold Ordered
  rw [IndexMap.entries_insert_of_missing (get_madeRoom (bounded.absent call _ mine)),
    List.pairwise_append]
  constructor
  · exact And.left
  · intro ordered
    refine ⟨ordered, List.pairwise_singleton _ _, fun entry member last final => ?_⟩
    rw [List.mem_singleton.mp final]
    exact bounded.past entry (mem_madeRoom member)

/-- A removal keeps the order exactly if the entries behind are of one age. -/
theorem ordered_swapRemove {cache : IndexMap Name (SocketAddr × Instant)}
    (ordered : Ordered cache) (key : Name) :
    Ordered (cache.swapRemove key) ↔ EvenBehind cache key :=
  ⟨IndexMap.related_of_pairwise_withoutKey (fun _ => le_rfl) le_trans ordered,
    IndexMap.pairwise_withoutKey ordered⟩

theorem Aged.ordered_step (aged : Aged state) (taken : step state action = some after) :
    Ordered after.dnsCache ↔ KeepsOrder state action := by
  cases cached_of_step taken with
  | kept cache now fetching keeps =>
      rw [cache]
      exact iff_of_true aged.ordered keeps
  | @entered call _ entering cache now fetching =>
      rcases cache with ⟨same, missing⟩ | ⟨removed, mapped, timestamp, found, expired⟩
      · rw [same]
        refine iff_of_true aged.ordered fun mapped timestamp found => ?_
        rw [missing] at found
        cases found
      · rw [removed, ordered_swapRemove aged.ordered]
        constructor
        · exact fun even _ _ _ _ => even
        · exact fun keeps => keeps mapped timestamp found expired
  | @stored call notify target _ storing cache now fetching =>
      rw [cache, aged.toBounded.ordered_store storing]
      rcases madeRoom_cases state with ⟨same, room⟩ | ⟨oldest, rest, listed, full, removed⟩
      · rw [same]
        exact iff_of_true aged.ordered fun _ _ _ full => absurd full (Nat.not_le_of_lt room)
      · rw [removed, ordered_swapRemove aged.ordered]
        constructor
        · intro even first others again _
          rw [listed] at again
          obtain ⟨rfl, _⟩ := List.cons.inj again
          exact even
        · exact fun keeps => keeps oldest rest listed full

end Preservation

/-- The cache stays in order exactly as long as every removal keeps it in order. -/
theorem ordered_iff_keepsOrder {history : List (State × Action)} {final : State}
    (run : Run step initial history final) :
    Everywhere (fun state => Ordered state.dnsCache) history final ↔
      Allowed KeepsOrder history :=
  run.everywhere_iff_allowed aged_initial
    (fun _ _ _ aged keeps taken =>
      ⟨aged.toBounded.preserved taken, (aged.ordered_step taken).mpr keeps⟩)
    (fun _ aged => aged.ordered)
    (fun _ _ _ aged loses taken ordered => loses ((aged.ordered_step taken).mp ordered))

/-- The cache is bounded in every run; while every removal has kept the order, what an
insertion evicts is an earliest entry. -/
theorem bounded_and_evicts_earliest {history : List (State × Action)} {final : State}
    (run : Run step initial history final) :
    Everywhere (fun state => state.dnsCache.size ≤ Consts.maxUdpDnsCache) history final ∧
      (Allowed KeepsOrder history →
        Everywhere (fun state => ∀ entry, Evicts state entry →
          ∀ other ∈ state.dnsCache.entries, resolvedAt entry ≤ resolvedAt other)
          history final) := by
  constructor
  · have free : Allowed (fun (_ : State) (_ : Action) => True) history := fun _ _ => trivial
    have every : Everywhere Bounded history final :=
      run.invariant_of_allowed aged_initial.toBounded
        (fun _ _ _ bounded _ taken => bounded.preserved taken) free
    exact every.mono fun _ bounded => bounded.size
  · intro kept
    exact ((ordered_iff_keepsOrder run).mpr kept).mono
      fun _ ordered _ evicts => earliest_of_evicts ordered evicts

/-! ## A full cache -/

/-- One call that finds its target without another call in between. -/
def lookupSchedule (call : Nat) (key : Name) (target : SocketAddr) : List Action :=
  [.tick 1, .begin call key, .enter call, .answer call (.ok [target]), .store call,
    .release call, .wakeAll call]

theorem step_enter_free {state : State} {call : Nat} (entering : (state.calls call).pc = .entering)
    (missing : state.dnsCache.get (state.calls call).key = none)
    (free : state.dnsResolving.lookup (state.calls call).key = none) :
    step state (.enter call) = some { state.setPc call (.looking state.notify.fresh) with
      dnsResolving := state.dnsResolving.insert (state.calls call).key state.notify.fresh
      notify := state.notify.alloc } := by
  simp only [step, entering, State.enter, missing, State.register, free]

theorem exec_lookup {state : State} {call : Nat} {key : Name} (target : SocketAddr)
    (idle : (state.calls call).pc = .idle) (named : IpText.parseIp key.host = none)
    (missing : state.dnsCache.get key = none) (free : state.dnsResolving.lookup key = none) :
    ∃ after, exec step state (lookupSchedule call key target) = some after ∧
      after.now = state.now + 1 ∧
      after.dnsCache = state.madeRoom.insert key (target, state.now + 1) ∧
      (∀ other, other ≠ call → after.calls other = state.calls other) ∧
      after.dnsResolving = (state.dnsResolving.insert key state.notify.fresh).erase key := by
  let begun : State := { state with
    now := state.now + 1
    calls := Function.update state.calls call
      ⟨key, state.now + 1 + Consts.dnsQueryTimeout, .entering⟩ }
  have begin : step { state with now := state.now + 1 } (.begin call key) = some begun := by
    simp only [step, idle, State.begin, named]
    rfl
  have record : begun.calls call = ⟨key, state.now + 1 + Consts.dnsQueryTimeout, .entering⟩ :=
    Function.update_self ..
  have enter := @step_enter_free begun call (by rw [record])
    (by rw [record]; exact missing) (by rw [record]; exact free)
  have tick : step state (.tick 1) = some { state with now := state.now + 1 } := rfl
  simp only [lookupSchedule, exec, tick, Option.bind_some, begin, enter]
  simp [step, State.setPc, State.setCall, State.answer, State.store, State.release,
    State.wakeAll, begun, State.madeRoom]
  exact fun other different => Function.update_of_ne different _ _

def hostKey (port : Nat) : Name := ⟨"host", UInt16.ofNat port⟩

def hostTarget : SocketAddr := ⟨.v4 (.replicate 4 0), 53⟩

/-- What the call with this number leaves in the cache, one second after the one before. -/
def hostEntry (call : Nat) : Entry := (hostKey call, (hostTarget, call + 1))

/-- So many calls have run, one after the other, each for a name of its own. -/
structure Filled (count : Nat) (state : State) : Prop where
  reached : Reachable step initial state
  now : state.now = count
  cache : state.dnsCache.entries = (List.range count).map hostEntry
  idle : ∀ call, count ≤ call → (state.calls call).pc = .idle
  free : ∀ key, state.dnsResolving.lookup key = none

theorem Filled.missing {count : Nat} {state : State} (filled : Filled count state)
    (below : count < 65536) : state.dnsCache.get (hostKey count) = none := by
  rw [IndexMap.get_eq_none_iff, filled.cache]
  intro entry member same
  obtain ⟨call, early, rfl⟩ := List.mem_map.mp member
  have ports : (UInt16.ofNat call).toNat = (UInt16.ofNat count).toNat :=
    congrArg (fun name : Name => name.port.toNat) same
  rw [UInt16.toNat_ofNat', UInt16.toNat_ofNat'] at ports
  have earlier := List.mem_range.mp early
  omega

/-- The next call goes through. -/
theorem Filled.lookup {count : Nat} {state : State} (filled : Filled count state)
    (below : count < 65536) :
    ∃ after, Reachable step initial after ∧ after.now = count + 1 ∧
      after.dnsCache = state.madeRoom.insert (hostKey count) (hostTarget, count + 1) ∧
      (∀ call, count + 1 ≤ call → (after.calls call).pc = .idle) ∧
      ∀ key, after.dnsResolving.lookup key = none := by
  have named : IpText.parseIp (hostKey count).host = none := by
    show IpText.parseIp "host" = none
    decide +kernel
  obtain ⟨after, executed, now, cache, calls, resolving⟩ := exec_lookup hostTarget
    (filled.idle count le_rfl) named (filled.missing below) (filled.free _)
  rw [filled.now] at now cache
  refine ⟨after, filled.reached.exec executed, now, cache, ?_, ?_⟩
  · intro call later
    rw [calls call (by omega)]
    exact filled.idle call (by omega)
  · intro key
    rw [resolving]
    by_cases same : key = hostKey count
    · rw [same]
      exact AList.lookup_erase _ _
    · rw [AList.lookup_erase_ne same, AList.lookup_insert_ne same]
      exact filled.free key

theorem filled (count : Nat) (room : count ≤ Consts.maxUdpDnsCache) :
    ∃ state, Filled count state := by
  induction count with
  | zero =>
      exact ⟨initial, ⟨[], .start⟩, rfl, rfl, fun _ _ => rfl, fun _ => rfl⟩
  | succ count inductionHypothesis =>
      obtain ⟨state, before⟩ := inductionHypothesis (Nat.le_of_succ_le room)
      have below : count < 65536 := room.trans (by decide)
      obtain ⟨after, reached, now, cache, idle, free⟩ := before.lookup below
      have spare : state.madeRoom = state.dnsCache := by
        rcases madeRoom_cases state with ⟨same, _⟩ | ⟨_, _, _, full, _⟩
        · exact same
        · rw [IndexMap.size, before.cache, List.length_map, List.length_range] at full
          omega
      refine ⟨after, reached, now, ?_, idle, free⟩
      rw [cache, spare, IndexMap.entries_insert_of_missing (before.missing below), before.cache,
        List.range_succ, List.map_append]
      rfl

theorem bounded_and_evicts_earliest_filled :
    ∃ history final, Run step initial history final ∧
      final.dnsCache.size = Consts.maxUdpDnsCache ∧
      Everywhere (fun state => state.dnsCache.size ≤ Consts.maxUdpDnsCache) history final := by
  obtain ⟨final, full⟩ := filled Consts.maxUdpDnsCache le_rfl
  obtain ⟨history, run⟩ := full.reached
  refine ⟨history, final, run, ?_, (bounded_and_evicts_earliest run).1⟩
  rw [IndexMap.size, full.cache, List.length_map, List.length_range]

theorem evicts_first {state : State} {entry : Entry} {rest : List Entry}
    (listed : state.dnsCache.entries = entry :: rest)
    (full : Consts.maxUdpDnsCache ≤ state.dnsCache.size) : Evicts state entry := by
  rcases madeRoom_cases state with ⟨_, room⟩ | ⟨oldest, others, again, _, removed⟩
  · exact absurd full (Nat.not_le_of_lt room)
  · obtain ⟨rfl, rfl⟩ := List.cons.inj (listed.symm.trans again)
    refine ⟨by rw [listed]; exact List.mem_cons_self, fun member => ?_⟩
    rw [removed] at member
    exact IndexMap.ne_of_mem_withoutKey state.dnsCache.distinct member rfl

/-- The eviction for a 257th name moves the newest entry to the front, so that the next
eviction takes it. -/
theorem filled_overflow : ∃ final, Reachable step initial final ∧
    final.dnsCache.size = Consts.maxUdpDnsCache ∧
    ∃ rest, final.dnsCache.entries = hostEntry 255 :: hostEntry 1 :: rest := by
  obtain ⟨state, full⟩ := filled Consts.maxUdpDnsCache le_rfl
  obtain ⟨final, reached, _, cache, _⟩ := full.lookup (by decide)
  have listed : state.dnsCache.entries =
      hostEntry 0 :: (List.range' 1 255).map hostEntry := by
    rw [full.cache, List.range_eq_range', Consts.maxUdpDnsCache, List.range'_succ, List.map_cons]
  have closed : IndexMap.closeGap ((List.range' 1 255).map hostEntry) =
      hostEntry 255 :: (List.range' 1 254).map hostEntry := by
    decide +kernel
  have left : state.madeRoom.entries = hostEntry 255 :: (List.range' 1 254).map hostEntry := by
    rcases madeRoom_cases state with ⟨_, room⟩ | ⟨oldest, rest, again, _, removed⟩
    · rw [IndexMap.size, full.cache, List.length_map, List.length_range] at room
      exact absurd room (lt_irrefl _)
    · obtain ⟨rfl, rfl⟩ := List.cons.inj (listed.symm.trans again)
      rw [removed, ← closed]
      show IndexMap.withoutKey (hostEntry 0).1 state.dnsCache.entries = _
      rw [listed, IndexMap.withoutKey, if_pos rfl]
  have entries : final.dnsCache.entries =
      hostEntry 255 :: ((List.range' 1 254).map hostEntry ++ [hostEntry 256]) := by
    rw [cache, IndexMap.entries_insert_of_missing (get_madeRoom (full.missing (by decide))), left]
    rfl
  refine ⟨final, reached, ?_, _, entries⟩
  rw [IndexMap.size, entries]
  simp [Consts.maxUdpDnsCache]

theorem second_eviction_not_earliest :
    ¬ ∀ history final, Run step initial history final → ∀ entry, Evicts final entry →
      ∀ other ∈ final.dnsCache.entries, resolvedAt entry ≤ resolvedAt other := by
  intro always
  obtain ⟨final, ⟨history, run⟩, full, rest, listed⟩ := filled_overflow
  have earliest := always history final run (hostEntry 255) (evicts_first listed full.ge)
    (hostEntry 1) (by rw [listed]; simp)
  exact absurd earliest (by decide)

end Juicity.Server.DnsFlight
