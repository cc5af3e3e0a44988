import Juicity.Server.UdpRelay.Lookups
import Juicity.Common.IpText

/-!
Contract: how old the addresses are that the relay sends to, and how many it
keeps. The shared cache checks the age of an entry at every hit and makes room
for a new one, so what it returns is young and its size stays below the cap.
`local_resolved` does neither: an entry is used as long as the stream lives and
every new target adds one. A run is timely exactly when no stream hits a local
entry that has become too old and none adds an entry to a full local table.
-/

namespace Juicity.Server.UdpRelay.Lookups

open Juicity.Common
open Juicity.Machine

/-- What a client may rely on: a datagram with a domain name goes to the address
of a lookup of this name that completed less than the TTL before the datagram's
address was read, and the tables have at most their caps of entries. -/
structure Timely (setting : Setting) (limit : Nat) (state : State) : Prop where
  fresh : ∀ use ∈ state.uses, setting.text.parseIp use.sent.name.host = none →
    ∃ lookup ∈ state.lookups, lookup.name = use.sent.name ∧ lookup.target = use.sent.target ∧
      use.origin = .lookup lookup.completed ∧
      use.readAt < lookup.completed + Consts.udpDnsCacheTtl
  cache : state.relay.dnsCache.size ≤ Consts.maxUdpDnsCache
  locals : ∀ id, (state.relay.streams id).localResolved.size ≤ limit

/-- The step uses no local entry that is too old, and adds none to a local table
that holds `limit` entries. -/
structure Within (setting : Setting) (limit : Nat) (state : State) (action : UdpRelay.Action) :
    Prop where
  young : ∀ use, localHit setting state action = some use → use.Young
  room : ∀ got, obtained setting state.relay action = some got → got.datagram ≠ .first →
    (state.relay.streams got.stream).localResolved.size < limit

def WithinStep (setting : Setting) (limit : Nat) (state : State) : Action → Prop
  | .address _ => True
  | .relay action => Within setting limit state action

variable {setting : Setting}

/-! ## Size of the shared cache -/

/-- A full cache makes room first. -/
theorem size_remember_le {relay : UdpRelay.State} {name : Name} {target : SocketAddr}
    (capped : relay.dnsCache.size ≤ Consts.maxUdpDnsCache) :
    (relay.remember name target).dnsCache.size ≤ Consts.maxUdpDnsCache := by
  refine Nat.le_trans (IndexMap.size_insert_le _ name (target, relay.now)) ?_
  cases listed : relay.dnsCache.entries with
  | nil =>
      have empty : relay.dnsCache.size = 0 := by rw [IndexMap.size, listed]; rfl
      rw [empty]
      decide
  | cons oldest rest =>
      have count : relay.dnsCache.size = rest.length + 1 := by rw [IndexMap.size, listed]; rfl
      dsimp only
      split
      · rw [IndexMap.size_swapRemove_first listed]
        omega
      · omega

/-! ## The invariant -/

/-- The address was parsed from the name, or comes from this lookup of it. -/
def Known (setting : Setting) (lookups : List Lookup) (name : Name) (target : SocketAddr) :
    Origin → Prop
  | .literal => ∃ ip, setting.text.parseIp name.host = some ip
  | .lookup completed =>
      setting.text.parseIp name.host = none ∧ ⟨name, target, completed⟩ ∈ lookups

theorem Known.mono {lookups more : List Lookup} {name : Name} {target : SocketAddr}
    {origin : Origin} (known : Known setting lookups name target origin) :
    Known setting (lookups ++ more) name target origin := by
  cases origin with
  | literal => exact known
  | lookup completed => exact ⟨known.1, List.mem_append_left _ known.2⟩

/-- The name of the later datagram a stream resolves. -/
def later? : Pc → Option Name
  | .resolving name (.later _) | .lookingUp name (.later _) => some name
  | _ => none

/-- A stream and what is known of its ages. -/
structure Tracked (setting : Setting) (limit : Nat) (lookups : List Lookup) (now : Instant)
    (stream : Stream) (ages : Ages) : Prop where
  locals : ∀ name target, stream.localResolved.lookup name = some target →
    Known setting lookups name target (ages.locals name)
  pending : ∀ name target, stream.pc.name? = some name → stream.pc.target? = some target →
    Known setting lookups name target ages.pending ∧ ages.pending.Young ages.readAt
  parsed : ∀ name datagram, stream.pc = .lookingUp name datagram →
    setting.text.parseIp name.host = none
  absent : ∀ name, later? stream.pc = some name → stream.localResolved.lookup name = none
  clock : ages.readAt ≤ now
  bounded : stream.localResolved.size ≤ limit

structure Sourced (setting : Setting) (limit : Nat) (state : State) : Prop where
  cache : ∀ entry ∈ state.relay.dnsCache.entries,
    setting.text.parseIp entry.1.host = none ∧ ⟨entry.1, entry.2.1, entry.2.2⟩ ∈ state.lookups
  capped : state.relay.dnsCache.size ≤ Consts.maxUdpDnsCache
  streams : ∀ id, Tracked setting limit state.lookups state.relay.now (state.relay.streams id)
    (state.ages id)
  uses : ∀ use ∈ state.uses,
    Known setting state.lookups use.sent.name use.sent.target use.origin ∧ use.Young
  sends : state.uses.map Use.sent = state.relay.sends

theorem sourced_initial {limit : Nat} : Sourced setting limit initial where
  cache := by simp [initial, UdpRelay.initial, IndexMap.empty]
  capped := by simp [initial, UdpRelay.initial, IndexMap.empty, IndexMap.size]
  streams := by
    intro id
    constructor
    case bounded => exact Nat.zero_le _
    all_goals simp [initial, UdpRelay.initial, Pc.name?, later?]
  uses := by simp [initial]
  sends := rfl

/-- An address of known origin that is young is fresh. -/
theorem Sourced.timely {limit : Nat} {state : State} (sourced : Sourced setting limit state) :
    Timely setting limit state where
  fresh := by
    intro use member unparsed
    obtain ⟨known, young⟩ := sourced.uses use member
    unfold Use.Young at young
    cases origin : use.origin with
    | literal =>
        rw [origin] at known
        obtain ⟨ip, parsed⟩ := known
        rw [unparsed] at parsed
        cases parsed
    | lookup completed =>
        rw [origin] at known young
        exact ⟨_, known.2, rfl, rfl, rfl, young⟩
  cache := sourced.capped
  locals := fun id => (sourced.streams id).bounded

section Preservation

variable {limit : Nat} {state : State} {id : Nat} {name : Name} {target : SocketAddr}
  {datagram : Datagram}

theorem Tracked.mono {lookups : List Lookup} (more : List Lookup) {now later : Instant} {stream : Stream}
    {ages : Ages} (tracked : Tracked setting limit lookups now stream ages) (passed : now ≤ later) :
    Tracked setting limit (lookups ++ more) later stream ages where
  locals := fun name target found => (tracked.locals name target found).mono
  pending := fun name target named resolved =>
    ⟨(tracked.pending name target named resolved).1.mono,
      (tracked.pending name target named resolved).2⟩
  parsed := tracked.parsed
  absent := tracked.absent
  clock := Nat.le_trans tracked.clock passed
  bounded := tracked.bounded

/-- A stream whose place and table are replaced. -/
theorem Sourced.moved (sourced : Sourced setting limit state) {after : State} (id : Nat)
    (stream : Stream) (ages : Ages)
    (streams : after.relay.streams = Function.update state.relay.streams id stream)
    (aged : after.ages = Function.update state.ages id ages)
    (lookups : after.lookups = state.lookups) (now : after.relay.now = state.relay.now)
    (cache : ∀ entry ∈ after.relay.dnsCache.entries, entry ∈ state.relay.dnsCache.entries)
    (capped : after.relay.dnsCache.size ≤ state.relay.dnsCache.size)
    (tracked : Tracked setting limit state.lookups state.relay.now stream ages)
    (uses : ∀ use ∈ after.uses, use ∈ state.uses ∨
      (Known setting state.lookups use.sent.name use.sent.target use.origin ∧ use.Young))
    (sends : after.uses.map Use.sent = after.relay.sends) : Sourced setting limit after where
  cache := by
    rw [lookups]
    exact fun entry member => sourced.cache entry (cache entry member)
  capped := Nat.le_trans capped sourced.capped
  streams := by
    rw [streams, aged, lookups, now]
    intro other
    by_cases same : other = id
    · subst same
      rw [Function.update_self, Function.update_self]
      exact tracked
    · rw [Function.update_of_ne same, Function.update_of_ne same]
      exact sourced.streams other
  uses := by
    rw [lookups]
    intro use member
    rcases uses use member with old | new
    · exact sourced.uses use old
    · exact new
  sends := sends

/-- A stream goes on with its table; it holds no address but the one it held. -/
theorem Tracked.goesOn {lookups : List Lookup} {now : Instant} {stream : Stream} {ages : Ages}
    (tracked : Tracked setting limit lookups now stream ages) {input : Bytes} {pc : Pc}
    (address : pc.target? = none ∨
      (pc.name? = stream.pc.name? ∧ pc.target? = stream.pc.target?))
    (parsed : ∀ name datagram, pc = .lookingUp name datagram →
      setting.text.parseIp name.host = none)
    (absent : ∀ name, later? pc = some name → stream.localResolved.lookup name = none) :
    Tracked setting limit lookups now { stream with input := input, pc := pc } ages where
  locals := tracked.locals
  pending := by
    intro name target named resolved
    rcases address with none_ | ⟨sameName, sameTarget⟩
    · rw [none_] at resolved
      cases resolved
    · exact tracked.pending name target (sameName ▸ named) (sameTarget ▸ resolved)
  parsed := parsed
  absent := absent
  clock := tracked.clock
  bounded := tracked.bounded

/-- A stream goes on and sends nothing. -/
theorem Sourced.goesOn (sourced : Sourced setting limit state) {relay : UdpRelay.State}
    (id : Nat) (input : Bytes) (pc : Pc)
    (streams : relay.streams = Function.update state.relay.streams id
      { state.relay.streams id with input := input, pc := pc })
    (cache : ∀ entry ∈ relay.dnsCache.entries, entry ∈ state.relay.dnsCache.entries)
    (capped : relay.dnsCache.size ≤ state.relay.dnsCache.size)
    (now : relay.now = state.relay.now) (sends : relay.sends = state.relay.sends)
    (address : pc.target? = none ∨ (pc.name? = (state.relay.streams id).pc.name? ∧
      pc.target? = (state.relay.streams id).pc.target?))
    (parsed : ∀ name datagram, pc = .lookingUp name datagram →
      setting.text.parseIp name.host = none)
    (absent : ∀ name, later? pc = some name →
      (state.relay.streams id).localResolved.lookup name = none) :
    Sourced setting limit { state with relay := relay } := by
  refine sourced.moved id _ (state.ages id) streams (Function.update_eq_self id _).symm rfl now
    cache capped ((sourced.streams id).goesOn address parsed absent) (fun use member => .inl member) ?_
  exact sourced.sends.trans sends.symm

/-- A place without a name and an address. -/
theorem Sourced.setPc (sourced : Sourced setting limit state) {pc : Pc} (nameless : pc.name? = none)
    (unresolved : pc.target? = none) :
    Sourced setting limit { state with relay := state.relay.setPc id pc } := by
  refine sourced.goesOn id (state.relay.streams id).input pc rfl
    (fun _ member => member) (Nat.le_refl _) rfl rfl (.inl unresolved) ?_ ?_
  · rintro name datagram rfl
    cases nameless
  · intro name named
    cases pc with
    | resolving => cases nameless
    | lookingUp => cases nameless
    | _ => cases named

theorem Sourced.fail (sourced : Sourced setting limit state) {error : String} :
    Sourced setting limit { state with relay := state.relay.fail id datagram error } := by
  cases datagram with
  | first => exact sourced.setPc rfl rfl
  | later payload => exact sourced.setPc rfl rfl

/-- Names in progress are not seen by the invariant. -/
theorem Sourced.setResolving (sourced : Sourced setting limit state) {resolving : Name → Bool} :
    Sourced setting limit { state with
      relay := { state.relay with dnsResolving := resolving } } :=
  ⟨sourced.cache, sourced.capped, sourced.streams, sourced.uses, sourced.sends⟩

/-- A completed lookup enters the shared cache with its time. -/
theorem Sourced.remember (sourced : Sourced setting limit state)
    (unparsed : setting.text.parseIp name.host = none) :
    Sourced setting limit { state with
      relay := state.relay.remember name target
      lookups := state.lookups ++ [⟨name, target, state.relay.now⟩] } where
  cache := by
    intro entry member
    rcases IndexMap.mem_insert member with rfl | old
    · exact ⟨unparsed, List.mem_append_right _ List.mem_cons_self⟩
    · have listed : entry ∈ state.relay.dnsCache.entries := by
        split at old
        · split at old
          · exact IndexMap.mem_swapRemove old
          · exact old
        · exact old
      obtain ⟨domain, looked⟩ := sourced.cache entry listed
      exact ⟨domain, List.mem_append_left _ looked⟩
  capped := size_remember_le sourced.capped
  streams := fun id => (sourced.streams id).mono _ (Nat.le_refl _)
  uses := fun use member => ⟨(sourced.uses use member).1.mono, (sourced.uses use member).2⟩
  sends := sourced.sends

/-- What a stream given an address sends at once. -/
def Obtained.use (got : Obtained) (readAt : Instant) : Option Use :=
  match got.datagram with
  | .first => none
  | .later payload => some ⟨⟨got.stream, got.name, got.target, payload⟩, readAt, got.origin⟩

/-- A stream is given an address of known origin that is young. -/
theorem Sourced.obtain (sourced : Sourced setting limit state) (got : Obtained)
    (known : Known setting state.lookups got.name got.target got.origin)
    (young : got.origin.Young (state.ages got.stream).readAt)
    (absent : got.datagram ≠ .first →
      (state.relay.streams got.stream).localResolved.lookup got.name = none)
    (room : got.datagram ≠ .first →
      (state.relay.streams got.stream).localResolved.size < limit) :
    Sourced setting limit { state with
      relay := state.relay.resolved got.stream got.name got.datagram got.target
      ages := Function.update state.ages got.stream ((state.ages got.stream).obtain got)
      uses := state.uses ++ (got.use (state.ages got.stream).readAt).toList } := by
  obtain ⟨id, name, datagram, target, origin⟩ := got
  have tracked := sourced.streams id
  cases datagram with
  | first =>
      refine sourced.moved id _ _ rfl rfl rfl rfl (fun _ member => member) (Nat.le_refl _) ?_
        (fun use member => .inl (by simpa [Obtained.use] using member)) ?_
      · refine ⟨tracked.locals, ?_, by simp, by simp [later?], tracked.clock, tracked.bounded⟩
        intro other otherTarget named resolved
        obtain rfl : name = other := Option.some.inj named
        obtain rfl : target = otherTarget := Option.some.inj resolved
        exact ⟨known, young⟩
      · show (state.uses ++ []).map Use.sent = state.relay.sends
        rw [List.append_nil]
        exact sourced.sends
  | later payload =>
      have missing := absent (by simp)
      have fresh := room (by simp)
      refine sourced.moved id { state.relay.streams id with
          localResolved := (state.relay.streams id).localResolved.insert name target
          pc := .sending } _ ?_ rfl rfl rfl (fun _ member => member) (Nat.le_refl _) ?_ ?_ ?_
      · simp only [UdpRelay.State.resolved, UdpRelay.State.sendLater, UdpRelay.State.setPc,
          UdpRelay.State.setStream, Function.update_self, Function.update_idem]
      · refine ⟨?_, by simp [Pc.name?], by simp, by simp [later?], tracked.clock, ?_⟩
        · intro other otherTarget found
          by_cases same : other = name
          · subst same
            rw [AList.lookup_insert] at found
            obtain rfl := Option.some.inj found
            simpa only [Ages.obtain, Function.update_self] using known
          · rw [AList.lookup_insert_ne same] at found
            simpa only [Ages.obtain, ne_eq, same, not_false_eq_true, Function.update_of_ne] using
              tracked.locals other otherTarget found
        · exact Nat.le_trans (Table.size_insert_le _ name target) fresh
      · intro use member
        rcases List.mem_append.mp member with old | new
        · exact .inl old
        · obtain rfl : use = _ := List.mem_singleton.mp new
          exact .inr ⟨known, young⟩
      · show (state.uses ++ [_]).map Use.sent = state.relay.sends ++ [_]
        rw [List.map_append, sourced.sends]
        rfl

/-- A stream sends to an address of known origin that is young. -/
theorem Sourced.send (sourced : Sourced setting limit state) {relay : UdpRelay.State}
    (id : Nat) (input : Bytes) (pc : Pc) (use : Use)
    (streams : relay.streams = Function.update state.relay.streams id
      { state.relay.streams id with input := input, pc := pc })
    (cache : relay.dnsCache = state.relay.dnsCache) (now : relay.now = state.relay.now)
    (sends : relay.sends = state.relay.sends ++ [use.sent]) (nameless : pc.name? = none)
    (unresolved : pc.target? = none)
    (known : Known setting state.lookups use.sent.name use.sent.target use.origin)
    (young : use.Young) :
    Sourced setting limit { state with relay := relay, uses := state.uses ++ [use] } := by
  refine sourced.moved id _ (state.ages id) streams (Function.update_eq_self id _).symm rfl now
    (by rw [cache]; exact fun _ member => member) (by rw [cache]) ?_ ?_ ?_
  · refine (sourced.streams id).goesOn (.inl unresolved) ?_ ?_
    · rintro name datagram rfl
      cases nameless
    · intro name named
      cases pc with
      | resolving => cases nameless
      | lookingUp => cases nameless
      | _ => cases named
  · intro other member
    rcases List.mem_append.mp member with old | new
    · exact .inl old
    · obtain rfl := List.mem_singleton.mp new
      exact .inr ⟨known, young⟩
  · rw [List.map_append, sourced.sends, sends]
    rfl

/-- The address of a datagram is read now. -/
theorem Sourced.readAddress (sourced : Sourced setting limit state) {ages : Ages}
    (unresolved : (state.relay.streams id).pc.target? = none)
    (locals : ages.locals = (state.ages id).locals) (readAt : ages.readAt = state.relay.now) :
    Sourced setting limit { state with ages := Function.update state.ages id ages } := by
  have tracked := sourced.streams id
  refine sourced.moved id (state.relay.streams id) _ (Function.update_eq_self id _).symm rfl
    rfl rfl (fun _ member => member) (Nat.le_refl _) ?_ (fun _ member => .inl member) sourced.sends
  refine ⟨?_, ?_, tracked.parsed, tracked.absent, Nat.le_of_eq readAt, tracked.bounded⟩
  · rw [locals]
    exact tracked.locals
  · rw [unresolved]
    exact fun _ _ _ impossible => nomatch impossible

/-- What the shared cache or the parser gives is of known origin and young. -/
theorem Sourced.found (sourced : Sourced setting limit state) {origin : Origin}
    (found : finds setting state.relay name = some (target, origin)) :
    Known setting state.lookups name target origin ∧
      ∀ readAt, readAt ≤ state.relay.now → origin.Young readAt := by
  unfold finds at found
  split at found
  · rename_i ip parsed
    obtain ⟨rfl, rfl⟩ := Prod.mk.inj (Option.some.inj found)
    exact ⟨⟨ip, parsed⟩, fun _ _ => trivial⟩
  · rename_i unparsed
    split at found
    · rename_i mapped timestamp held
      split at found
      · rename_i young
        obtain ⟨rfl, rfl⟩ := Prod.mk.inj (Option.some.inj found)
        refine ⟨⟨unparsed, (sourced.cache _ (IndexMap.mem_of_get held)).2⟩, ?_⟩
        intro readAt before
        have age : state.relay.now < timestamp + Consts.udpDnsCacheTtl :=
          Instant.lt_add_of_durationSince_lt young
        exact Nat.lt_of_le_of_lt before age
      · cases found
    · cases found

/-- The shared cache, with the time of the lookup left out. -/
theorem cached_eq_finds {relay : UdpRelay.State}
    (unparsed : setting.text.parseIp name.host = none) :
    relay.cached name = (finds setting relay name).map Prod.fst := by
  simp only [UdpRelay.State.cached, finds, unparsed]
  cases relay.dnsCache.get name with
  | none => rfl
  | some entry =>
      obtain ⟨mapped, timestamp⟩ := entry
      by_cases young : relay.now.durationSince timestamp < Consts.udpDnsCacheTtl
      · simp only [if_pos young, Option.map_some]
      · simp only [if_neg young, Option.map_none]

theorem resolve_of_finds {relay : UdpRelay.State} {origin : Origin}
    (found : finds setting relay name = some (target, origin)) :
    relay.resolve setting id name datagram = relay.resolved id name datagram target := by
  unfold UdpRelay.State.resolve
  cases parsed : setting.text.parseIp name.host with
  | some ip =>
      simp only [finds, parsed, Option.some.injEq, Prod.mk.injEq] at found
      obtain ⟨rfl, -⟩ := found
      rfl
  | none =>
      rw [cached_eq_finds parsed, found]
      rfl

/-- Without an address the stream waits for another lookup or begins its own. -/
theorem resolve_of_not_finds (id : Nat) (datagram : Datagram) {relay : UdpRelay.State}
    (missed : finds setting relay name = none) :
    setting.text.parseIp name.host = none ∧
      (relay.resolve setting id name datagram =
          { relay with dnsCache := relay.dnsCache.swapRemove name } ∨
        relay.resolve setting id name datagram =
          { UdpRelay.State.setPc { relay with dnsCache := relay.dnsCache.swapRemove name } id
              (.lookingUp name datagram) with
            dnsResolving := Function.update relay.dnsResolving name true }) := by
  unfold UdpRelay.State.resolve
  cases parsed : setting.text.parseIp name.host with
  | some ip => simp [finds, parsed] at missed
  | none =>
      refine ⟨rfl, ?_⟩
      rw [cached_eq_finds parsed, missed]
      dsimp only [Option.map_none]
      split
      · exact .inl rfl
      · exact .inr rfl

theorem size_swapRemove_le {relay : UdpRelay.State} :
    (relay.dnsCache.swapRemove name).size ≤ relay.dnsCache.size :=
  (IndexMap.withoutKey_subperm name relay.dnsCache.entries).length_le

/-! ### One step of the relay -/

/-- A step that obtains nothing, completes no lookup and sends nothing leaves
only the relay and the ages to look at. -/
theorem sourced_of_quiet {action : UdpRelay.Action} {relay : UdpRelay.State} (ages : Nat → Ages)
    (nothing : obtained setting state.relay action = none)
    (unsent : (localHit setting state action).or (firstUse state action) = none)
    (unlooked : completed state.relay action = none)
    (aged : agesAfter setting state action = ages)
    (moved : Sourced setting limit { state with relay := relay, ages := ages }) :
    Sourced setting limit
      { relay := relay
        ages := agesAfter setting state action
        lookups := state.lookups ++ (completed state.relay action).toList
        uses := state.uses ++ (used setting state action).toList } := by
  have unused : used setting state action = none := by
    unfold used
    rw [nothing]
    exact unsent
  simpa only [aged, unused, unlooked, Option.toList_none, List.append_nil] using moved

/-- A stream with a later datagram in hand has no local entry for it. -/
theorem Sourced.absent (sourced : Sourced setting limit state) {pc : Pc}
    (here : (state.relay.streams id).pc = pc) (later : datagram ≠ .first)
    (resolves : pc = .resolving name datagram ∨ pc = .lookingUp name datagram) :
    (state.relay.streams id).localResolved.lookup name = none := by
  apply (sourced.streams id).absent
  rw [here]
  cases datagram with
  | first => exact absurd rfl later
  | later payload => rcases resolves with rfl | rfl <;> rfl

theorem Sourced.runOpening (sourced : Sourced setting limit state)
    (here : (state.relay.streams id).pc = .opening) :
    Sourced setting limit
      { relay := state.relay.openFirst setting id
        ages := agesAfter setting state (.run id)
        lookups := state.lookups ++ (completed state.relay (.run id)).toList
        uses := state.uses ++ (used setting state (.run id)).toList } := by
  have nothing : obtained setting state.relay (.run id) = none := by simp only [obtained, here]
  apply sourced_of_quiet
    (Function.update state.ages id { state.ages id with readAt := state.relay.now }) nothing
    (by simp only [localHit, firstUse, here]; rfl) rfl
  · simp only [agesAfter, nothing, here, if_true]
  · have read : Sourced setting limit { state with
        ages := Function.update state.ages id { state.ages id with
          readAt := state.relay.now } } :=
      sourced.readAddress (by rw [here]; rfl) rfl rfl
    unfold UdpRelay.State.openFirst
    split
    · split
      · exact read.setPc rfl rfl
      · rename_i host port rest _ _
        exact read.goesOn id rest (.resolving ⟨host, port⟩ .first) rfl
          (fun _ member => member) (Nat.le_refl _) rfl rfl (.inl rfl) (by simp) (by simp [later?])
    · exact read.setPc rfl rfl

theorem Sourced.runResolving (sourced : Sourced setting limit state)
    (here : (state.relay.streams id).pc = .resolving name datagram)
    (within : Within setting limit state (.run id)) :
    Sourced setting limit
      { relay := state.relay.resolve setting id name datagram
        ages := agesAfter setting state (.run id)
        lookups := state.lookups ++ (completed state.relay (.run id)).toList
        uses := state.uses ++ (used setting state (.run id)).toList } := by
  cases found : finds setting state.relay name with
  | some pair =>
      obtain ⟨target, origin⟩ := pair
      have got : obtained setting state.relay (.run id) =
          some ⟨id, name, datagram, target, origin⟩ := by
        simp only [obtained, here, found, Option.map_some]
      obtain ⟨known, young⟩ := sourced.found found
      have stepped := sourced.obtain ⟨id, name, datagram, target, origin⟩ known
        (young _ (sourced.streams id).clock)
        (fun later => sourced.absent here later (.inl rfl)) (within.room _ got)
      have sends : used setting state (.run id) =
          Obtained.use ⟨id, name, datagram, target, origin⟩ (state.ages id).readAt := by
        cases datagram with
        | first => simp only [used, got, Obtained.use]
        | later payload => simp only [used, got, Obtained.use]
      rw [resolve_of_finds found, sends]
      simpa only [agesAfter, got, completed, Option.toList_none, List.append_nil] using stepped
  | none =>
      have nothing : obtained setting state.relay (.run id) = none := by
        simp only [obtained, here, found, Option.map_none]
      apply sourced_of_quiet state.ages nothing (by simp only [localHit, firstUse, here]; rfl) rfl
      · simp [agesAfter, nothing, here]
      · obtain ⟨unparsed, waits | begins⟩ := resolve_of_not_finds id datagram found
        · rw [waits]
          have cleared : Sourced setting limit { state with relay := { state.relay with
              dnsCache := state.relay.dnsCache.swapRemove name } } :=
            ⟨fun entry member => sourced.cache entry (IndexMap.mem_swapRemove member),
              Nat.le_trans size_swapRemove_le sourced.capped, sourced.streams, sourced.uses,
              sourced.sends⟩
          exact cleared
        · rw [begins]
          let relay : UdpRelay.State := { UdpRelay.State.setPc { state.relay with
            dnsCache := state.relay.dnsCache.swapRemove name } id (.lookingUp name datagram) with
              dnsResolving := Function.update state.relay.dnsResolving name true }
          have streams : relay.streams = Function.update state.relay.streams id
              { state.relay.streams id with pc := .lookingUp name datagram } := rfl
          apply sourced.goesOn id (state.relay.streams id).input (.lookingUp name datagram) streams
            (fun entry member => IndexMap.mem_swapRemove member)
            size_swapRemove_le rfl rfl (.inl rfl)
          · rintro other otherDatagram same
            obtain ⟨rfl, rfl⟩ := Pc.lookingUp.inj same
            exact unparsed
          · intro other named
            apply (sourced.streams id).absent
            rw [here]
            cases datagram with
            | first => cases named
            | later payload => exact named

theorem Sourced.runFilling (sourced : Sourced setting limit state)
    (here : (state.relay.streams id).pc = .filling name target) :
    Sourced setting limit
      { relay := state.relay.fillFirst id name target
        ages := agesAfter setting state (.run id)
        lookups := state.lookups ++ (completed state.relay (.run id)).toList
        uses := state.uses ++ (used setting state (.run id)).toList } := by
  have nothing : obtained setting state.relay (.run id) = none := by simp only [obtained, here]
  have missed : localHit setting state (.run id) = none := by simp only [localHit, here]
  have aged : agesAfter setting state (.run id) = state.ages := by
    simp [agesAfter, nothing, here]
  unfold UdpRelay.State.fillFirst
  split
  · rename_i payload rest read
    have sends : used setting state (.run id) =
        some ⟨⟨id, name, target, payload⟩, (state.ages id).readAt, (state.ages id).pending⟩ := by
      simp only [used, nothing, missed, firstUse, here, read, Option.none_or]
    obtain ⟨known, young⟩ := (sourced.streams id).pending name target (by rw [here]; rfl)
      (by rw [here]; rfl)
    let relay : UdpRelay.State := { state.relay.setStream id { state.relay.streams id with
        input := rest
        pc := .sendingFirst } with
      sends := state.relay.sends ++ [⟨id, name, target, payload⟩] }
    have streams : relay.streams = Function.update state.relay.streams id
        { state.relay.streams id with input := rest, pc := .sendingFirst } := rfl
    have stepped := sourced.send id rest .sendingFirst
      ⟨⟨id, name, target, payload⟩, (state.ages id).readAt, (state.ages id).pending⟩
      streams rfl rfl rfl rfl rfl known young
    rw [sends, aged]
    simpa only [completed, Option.toList_none, List.append_nil, Option.toList_some] using stepped
  · rename_i error read
    exact sourced_of_quiet _ nothing
      (by simp only [missed, firstUse, here, read, Option.none_or]) rfl aged
      (sourced.setPc rfl rfl)

theorem Sourced.runReading (sourced : Sourced setting limit state)
    (here : (state.relay.streams id).pc = .reading)
    (within : Within setting limit state (.run id)) :
    Sourced setting limit
      { relay := state.relay.readLater setting id
        ages := agesAfter setting state (.run id)
        lookups := state.lookups ++ (completed state.relay (.run id)).toList
        uses := state.uses ++ (used setting state (.run id)).toList } := by
  have nothing : obtained setting state.relay (.run id) = none := by simp only [obtained, here]
  have notFirst : firstUse state (.run id) = none := by simp only [firstUse, here]
  have aged : agesAfter setting state (.run id) = state.ages := by
    simp [agesAfter, nothing, here]
  unfold UdpRelay.State.readLater
  split
  · rename_i name payload rest read
    simp only [UdpRelay.State.setStream, Function.update_self]
    split
    · rename_i target found
      have hit : localHit setting state (.run id) = some ⟨⟨id, name, target, payload⟩,
          (state.ages id).readAt, (state.ages id).locals name⟩ := by
        simp only [localHit, here, read, found, Option.map_some]
      have sends : used setting state (.run id) = some ⟨⟨id, name, target, payload⟩,
          (state.ages id).readAt, (state.ages id).locals name⟩ := by
        simp only [used, nothing, hit, Option.some_or]
      have streams : ((state.relay.setStream id { state.relay.streams id with
          input := rest }).sendLater id name target payload).streams =
            Function.update state.relay.streams id { state.relay.streams id with
              input := rest
              pc := .sending } := by
        simp only [UdpRelay.State.sendLater, UdpRelay.State.setPc, UdpRelay.State.setStream,
          Function.update_self, Function.update_idem]
      have stepped := sourced.send id rest .sending
        ⟨⟨id, name, target, payload⟩, (state.ages id).readAt, (state.ages id).locals name⟩
        streams rfl rfl rfl rfl rfl ((sourced.streams id).locals name target found) (within.young _ hit)
      rw [sends, aged]
      simp only [completed, Option.toList_none, List.append_nil, Option.toList_some]
      exact stepped
    · rename_i missing
      have unsent : (localHit setting state (.run id)).or (firstUse state (.run id)) = none := by
        simp only [localHit, here, read, missing, Option.map_none, notFirst, Option.none_or]
      have streams : ((state.relay.setStream id { state.relay.streams id with
          input := rest }).setPc id (.resolving name (.later payload))).streams =
            Function.update state.relay.streams id { state.relay.streams id with
              input := rest
              pc := .resolving name (.later payload) } := by
        simp only [UdpRelay.State.setPc, UdpRelay.State.setStream, Function.update_self,
          Function.update_idem]
      refine sourced_of_quiet _ nothing unsent rfl aged ?_
      refine sourced.goesOn id rest (.resolving name (.later payload)) streams
        (fun _ member => member) (Nat.le_refl _) rfl rfl (.inl rfl)
        (by simp) ?_
      intro other named
      obtain rfl := Option.some.inj named
      exact missing
  · rename_i error read
    exact sourced_of_quiet _ nothing
      (by simp only [localHit, here, read, notFirst, Option.none_or]) rfl aged
      (sourced.setPc rfl rfl)

theorem Sourced.lookedUp (sourced : Sourced setting limit state)
    (here : (state.relay.streams id).pc = .lookingUp name datagram)
    {answer : Except String (List IpAddr)}
    (within : Within setting limit state (.lookedUp id answer)) :
    Sourced setting limit
      { relay := state.relay.lookedUp id name datagram answer
        ages := agesAfter setting state (.lookedUp id answer)
        lookups := state.lookups ++ (completed state.relay (.lookedUp id answer)).toList
        uses := state.uses ++ (used setting state (.lookedUp id answer)).toList } := by
  have unparsed := (sourced.streams id).parsed name datagram here
  unfold UdpRelay.State.lookedUp
  split
  · rename_i ip rest
    have got : obtained setting state.relay (.lookedUp id (.ok (ip :: rest))) =
        some ⟨id, name, datagram, ⟨ip, name.port⟩, .lookup state.relay.now⟩ := by
      simp only [obtained, here]
    have looked : completed state.relay (.lookedUp id (.ok (ip :: rest))) =
        some ⟨name, ⟨ip, name.port⟩, state.relay.now⟩ := by
      simp only [completed, here]
    have sends : used setting state (.lookedUp id (.ok (ip :: rest))) =
        Obtained.use ⟨id, name, datagram, ⟨ip, name.port⟩, .lookup state.relay.now⟩
          (state.ages id).readAt := by
      cases datagram with
      | first => simp only [used, got, Obtained.use]
      | later payload => simp only [used, got, Obtained.use]
    have remembered : Sourced setting limit { state with
        relay := (state.relay.remember name ⟨ip, name.port⟩).release name
        lookups := state.lookups ++ [⟨name, ⟨ip, name.port⟩, state.relay.now⟩] } :=
      (sourced.remember unparsed).setResolving
    have young : state.relay.now < state.relay.now + Consts.udpDnsCacheTtl :=
      Nat.lt_add_of_pos_right (by decide)
    have stepped := remembered.obtain
      ⟨id, name, datagram, ⟨ip, name.port⟩, .lookup state.relay.now⟩
      ⟨unparsed, List.mem_append_right _ List.mem_cons_self⟩
      (Nat.lt_of_le_of_lt (sourced.streams id).clock young)
      (fun later => sourced.absent here later (.inr rfl)) (within.room _ got)
    rw [sends, looked]
    simp only [agesAfter, got, Option.toList_some]
    exact stepped
  · have nothing : obtained setting state.relay (.lookedUp id (.ok [])) = none := rfl
    exact sourced_of_quiet _ nothing rfl rfl rfl sourced.setResolving.fail
  · rename_i error
    have nothing : obtained setting state.relay (.lookedUp id (.error error)) = none := rfl
    exact sourced_of_quiet _ nothing rfl rfl rfl sourced.setResolving.fail

/-- Every step of the relay that stays within the limits keeps the invariant. -/
theorem Sourced.relayed (sourced : Sourced setting limit state) {action : UdpRelay.Action}
    {relay : UdpRelay.State} (within : Within setting limit state action)
    (stepped : UdpRelay.step setting state.relay action = some relay) :
    Sourced setting limit
      { relay := relay
        ages := agesAfter setting state action
        lookups := state.lookups ++ (completed state.relay action).toList
        uses := state.uses ++ (used setting state action).toList } := by
  cases action with
  | openStream id input =>
      simp only [UdpRelay.step] at stepped
      split at stepped
      · obtain rfl := Option.some.inj stepped
        refine sourced_of_quiet (Function.update state.ages id (initial.ages id)) rfl rfl rfl rfl ?_
        refine sourced.moved id _ _ rfl rfl rfl rfl (fun _ member => member) (Nat.le_refl _) ?_
          (fun _ member => .inl member) sourced.sends
        constructor
        case bounded => exact Nat.zero_le _
        all_goals simp [initial, Pc.name?, later?]
      · cases stepped
  | run id =>
      simp only [UdpRelay.step, UdpRelay.State.advance] at stepped
      split at stepped
      · rename_i here
        obtain rfl := Option.some.inj stepped
        exact sourced.runOpening here
      · rename_i name datagram here
        obtain rfl := Option.some.inj stepped
        exact sourced.runResolving here within
      · rename_i name target here
        obtain rfl := Option.some.inj stepped
        exact sourced.runFilling here
      · rename_i here
        obtain rfl := Option.some.inj stepped
        exact sourced.runReading here within
      · cases stepped
  | tick duration =>
      obtain rfl := Option.some.inj stepped
      refine sourced_of_quiet state.ages rfl rfl rfl rfl ?_
      exact ⟨sourced.cache, sourced.capped, fun id => by
        have passed : state.relay.now ≤ state.relay.now + duration := Nat.le_add_right _ _
        simpa only [List.append_nil] using (sourced.streams id).mono [] passed,
        sourced.uses, sourced.sends⟩
  | timeout id =>
      simp only [UdpRelay.step] at stepped
      split at stepped
      · obtain rfl := Option.some.inj stepped
        exact sourced_of_quiet _ rfl rfl rfl rfl sourced.fail
      · cases stepped
  | lookedUp id answer =>
      simp only [UdpRelay.step] at stepped
      split at stepped
      · rename_i name datagram here
        obtain rfl := Option.some.inj stepped
        exact sourced.lookedUp here within
      · cases stepped
  | dialed id error =>
      simp only [UdpRelay.step] at stepped
      split at stepped
      · rename_i name target here
        obtain rfl := Option.some.inj stepped
        refine sourced_of_quiet _ rfl rfl rfl rfl ?_
        exact sourced.goesOn id (state.relay.streams id).input (.filling name target) rfl
          (fun _ member => member) (Nat.le_refl _) rfl rfl
          (.inr (by rw [here]; exact ⟨rfl, rfl⟩)) (by simp) (by simp [later?])
      · obtain rfl := Option.some.inj stepped
        exact sourced_of_quiet _ rfl rfl rfl rfl (sourced.setPc rfl rfl)
      · cases stepped
  | sent id error =>
      have aged : Sourced setting limit { state with
          ages := Function.update state.ages id { state.ages id with addressRead := false } } := by
        refine sourced.moved id (state.relay.streams id) _
          (Function.update_eq_self id _).symm rfl rfl rfl (fun _ member => member) (Nat.le_refl _) ?_
          (fun _ member => .inl member) sourced.sends
        have tracked := sourced.streams id
        exact ⟨tracked.locals, tracked.pending, tracked.parsed, tracked.absent, tracked.clock,
          tracked.bounded⟩
      simp only [UdpRelay.step] at stepped
      split at stepped
      case h_5 => cases stepped
      all_goals
        obtain rfl := Option.some.inj stepped
        exact sourced_of_quiet _ rfl rfl rfl rfl (aged.setPc rfl rfl)
  | abort id =>
      simp only [UdpRelay.step] at stepped
      split at stepped
      · cases stepped
      · cases stepped
      · obtain rfl := Option.some.inj stepped
        exact sourced_of_quiet _ rfl rfl rfl rfl (sourced.setResolving.setPc rfl rfl)
      · obtain rfl := Option.some.inj stepped
        exact sourced_of_quiet _ rfl rfl rfl rfl (sourced.setPc rfl rfl)

/-- Every step within the limits keeps the invariant. -/
theorem Sourced.preserved (sourced : Sourced setting limit state) {after : State} {action : Action}
    (within : WithinStep setting limit state action)
    (taken : step setting state action = some after) : Sourced setting limit after := by
  cases action with
  | address id =>
      simp only [step] at taken
      split at taken
      · rename_i waits
        obtain rfl := Option.some.inj taken
        exact sourced.readAddress (by rw [waits.1]; rfl) rfl rfl
      · cases taken
  | relay action =>
      simp only [step] at taken
      split at taken
      · cases taken
      · obtain ⟨relay, stepped, rfl⟩ := Option.map_eq_some_iff.mp taken
        exact sourced.relayed within stepped

/-! ## Steps outside the limits -/

/-- A local entry that is too old is used at once. -/
theorem Sourced.not_timely_of_old (sourced : Sourced setting limit state) {after : State}
    {action : UdpRelay.Action} {use : Use} (hit : localHit setting state action = some use)
    (old : ¬ use.Young) (taken : step setting state (.relay action) = some after) :
    ¬ Timely setting limit after := by
  intro timely
  simp only [step] at taken
  split at taken
  · cases taken
  · obtain ⟨relay, stepped, rfl⟩ := Option.map_eq_some_iff.mp taken
    have facts : obtained setting state.relay action = none ∧
        Known setting state.lookups use.sent.name use.sent.target use.origin := by
      cases action with
      | run id =>
          cases here : (state.relay.streams id).pc with
          | reading =>
              simp only [localHit, here] at hit
              split at hit
              · obtain ⟨target, found, rfl⟩ := Option.map_eq_some_iff.mp hit
                exact ⟨by simp only [obtained, here], (sourced.streams id).locals _ _ found⟩
              · cases hit
          | _ => simp [localHit, here] at hit
      | _ => cases hit
    obtain ⟨nothing, known⟩ := facts
    have sent : used setting state action = some use := by
      simp only [used, nothing, hit, Option.some_or]
    cases origin : use.origin with
    | literal =>
        apply old
        unfold Use.Young
        rw [origin]
        trivial
    | lookup completed =>
        rw [origin] at known
        obtain ⟨lookup, -, -, -, same, young⟩ := timely.fresh use
          (List.mem_append_right _ (by rw [sent]; exact List.mem_cons_self)) known.1
        apply old
        unfold Use.Young
        rw [same]
        exact young

theorem resolved_local (relay : UdpRelay.State) {payload : Bytes} :
    ((relay.resolved id name (.later payload) target).streams id).localResolved =
      (relay.streams id).localResolved.insert name target := by
  simp [UdpRelay.State.resolved, UdpRelay.State.sendLater, UdpRelay.State.setPc,
    UdpRelay.State.setStream]

/-- The tables of a stream that is given the address of a later datagram. -/
theorem Sourced.local_of_obtained (sourced : Sourced setting limit state)
    {action : UdpRelay.Action} {relay : UdpRelay.State} {got : Obtained}
    (obtains : obtained setting state.relay action = some got) (later : got.datagram ≠ .first)
    (stepped : UdpRelay.step setting state.relay action = some relay) :
    (state.relay.streams got.stream).localResolved.lookup got.name = none ∧
      (relay.streams got.stream).localResolved =
        (state.relay.streams got.stream).localResolved.insert got.name got.target := by
  cases action with
  | run id =>
      cases here : (state.relay.streams id).pc with
      | resolving name datagram =>
          simp only [obtained, here] at obtains
          obtain ⟨pair, found, rfl⟩ := Option.map_eq_some_iff.mp obtains
          simp only [UdpRelay.step, UdpRelay.State.advance, here, Option.some.injEq] at stepped
          subst stepped
          refine ⟨sourced.absent here later (.inl rfl), ?_⟩
          rw [resolve_of_finds found]
          cases datagram with
          | first => exact absurd rfl later
          | later payload => exact resolved_local _
      | _ => simp [obtained, here] at obtains
  | lookedUp id answer =>
      cases answer with
      | error error => cases obtains
      | ok addresses =>
          cases addresses with
          | nil => cases obtains
          | cons ip rest =>
              cases here : (state.relay.streams id).pc with
              | lookingUp name datagram =>
                  simp only [obtained, here, Option.some.injEq] at obtains
                  subst obtains
                  simp only [UdpRelay.step, here, Option.some.injEq] at stepped
                  subst stepped
                  refine ⟨sourced.absent here later (.inr rfl), ?_⟩
                  cases datagram with
                  | first => exact absurd rfl later
                  | later payload =>
                      exact resolved_local ((state.relay.remember name ⟨ip, name.port⟩).release
                        name)
              | _ => simp [obtained, here] at obtains
  | _ => cases obtains

/-- A full local table grows. -/
theorem Sourced.not_timely_of_full (sourced : Sourced setting limit state) {after : State}
    {action : UdpRelay.Action} {got : Obtained}
    (obtains : obtained setting state.relay action = some got) (later : got.datagram ≠ .first)
    (full : limit ≤ (state.relay.streams got.stream).localResolved.size)
    (taken : step setting state (.relay action) = some after) : ¬ Timely setting limit after := by
  intro timely
  simp only [step] at taken
  split at taken
  · cases taken
  · obtain ⟨relay, stepped, rfl⟩ := Option.map_eq_some_iff.mp taken
    obtain ⟨missing, grown⟩ := sourced.local_of_obtained obtains later stepped
    have size : (relay.streams got.stream).localResolved.size =
        (state.relay.streams got.stream).localResolved.size + 1 := by
      have absent : got.name ∉ (state.relay.streams got.stream).localResolved :=
        AList.lookup_eq_none.mp missing
      rw [grown, Table.size, AList.entries_insert_of_notMem absent]
      rfl
    have bounded := timely.locals got.stream
    dsimp only at bounded
    omega

end Preservation

/-- For every bound on the local tables, a run sends only to addresses younger
than the TTL and keeps its tables bounded exactly when every step is within the
limits. -/
theorem timely_iff_within (setting : Setting) (limit : Nat) :
    ∀ history final, Run (step setting) initial history final →
      (Everywhere (Timely setting limit) history final ↔
        Allowed (WithinStep setting limit) history) := by
  intro history final run
  refine run.everywhere_iff_allowed sourced_initial
    (fun _ _ _ sourced within taken => sourced.preserved within taken)
    (fun _ sourced => sourced.timely) ?_
  intro state action after sourced outside taken
  cases action with
  | address id => exact absurd trivial outside
  | relay action =>
      by_cases young : ∀ use, localHit setting state action = some use → use.Young
      · have crowded : ¬ ∀ got, obtained setting state.relay action = some got →
            got.datagram ≠ .first →
              (state.relay.streams got.stream).localResolved.size < limit :=
          fun room => outside ⟨young, room⟩
        simp only [not_forall] at crowded
        obtain ⟨got, obtains, later, full⟩ := crowded
        exact sourced.not_timely_of_full obtains later (Nat.le_of_not_lt full) taken
      · simp only [not_forall] at young
        obtain ⟨use, hit, old⟩ := young
        exact sourced.not_timely_of_old hit old taken

instance (limit : Nat) (state : State) (action : UdpRelay.Action) :
    Decidable (Within setting limit state action) :=
  decidable_of_iff
    ((∀ use ∈ localHit setting state action, use.origin.Young use.readAt) ∧
      ∀ got ∈ obtained setting state.relay action, got.datagram ≠ .first →
        (state.relay.streams got.stream).localResolved.size < limit)
    ⟨fun both => ⟨both.1, both.2⟩, fun within => ⟨within.young, within.room⟩⟩

instance (limit : Nat) (state : State) (action : Action) :
    Decidable (WithinStep setting limit state action) := by
  cases action <;> unfold WithinStep <;> infer_instance

/-! ## A name that moves -/

/-- A datagram of one byte for `ns:53`. -/
def query (payload : UInt8) : Bytes :=
  [Protocol.addrTypeDomain, 2, 110, 115, 0, 53, 0, 1, payload]

/-- Stream 0 resolves and sends its first datagram, looks the name of the second
one up again, finds it in the shared cache and keeps it. -/
def twoQueries : List Action :=
  [.relay (.openStream 0 (query 1 ++ query 2 ++ query 3)), .relay (.run 0), .relay (.run 0),
    .relay (.lookedUp 0 (.ok [.v4 (.replicate 4 10)])), .relay (.dialed 0 none), .relay (.run 0),
    .relay (.sent 0 none), .address 0, .relay (.run 0), .relay (.run 0)]

/-- The third datagram comes when the lookup is five minutes old. -/
def lateQuery : List Action :=
  twoQueries ++ [.relay (.sent 0 none), .relay (.tick Consts.udpDnsCacheTtl), .address 0,
    .relay (.run 0)]

/-- The relay with the standard address texts. -/
def plain : Setting := ⟨false, IpText.std⟩

/-- The third datagram goes to the address of a lookup that is no longer young. -/
theorem late_query_uses_old_address :
    ∃ state, Reachable (step plain) initial state ∧ ∀ limit, ¬ Timely plain limit state := by
  have executed : (exec (step plain) initial lateQuery).any (fun state =>
      state.uses.any fun use => (plain.text.parseIp use.sent.name.host).isNone &&
        use.origin = .lookup 0 && use.readAt = Consts.udpDnsCacheTtl) = true := by
    decide +kernel
  obtain ⟨state, ended, facts⟩ := (Option.any_eq_true _ _).mp executed
  obtain ⟨use, member, facts⟩ := List.any_eq_true.mp facts
  simp only [Bool.and_eq_true, Option.isNone_iff_eq_none, decide_eq_true_eq] at facts
  refine ⟨state, reachable_of_exec ended, fun limit timely => ?_⟩
  obtain ⟨lookup, -, -, -, origin, young⟩ := timely.fresh use member facts.1.1
  rw [facts.1.2] at origin
  rw [facts.2, ← Origin.lookup.inj origin] at young
  exact absurd young (by decide)

/-- As long as the third datagram has not come, the run is within the limits. -/
theorem timely_iff_within_queries :
    ∃ history final, Run (step plain) initial history final ∧ final.uses.length = 2 ∧
      Everywhere (Timely plain 1) history final := by
  have executed : (exec (step plain) initial twoQueries).any (fun state =>
      state.uses.length = 2) = true := by
    decide +kernel
  obtain ⟨final, ended, facts⟩ := (Option.any_eq_true _ _).mp executed
  have run := run_trace ended
  refine ⟨_, final, run, by simpa using facts, ?_⟩
  have within : (trace (step plain) initial twoQueries).all (fun entry =>
      decide (WithinStep plain 1 entry.1 entry.2)) = true := by
    decide +kernel
  apply (timely_iff_within plain 1 _ _ run).mpr
  intro entry member
  exact of_decide_eq_true (List.all_eq_true.mp within entry member)

end Juicity.Server.UdpRelay.Lookups
