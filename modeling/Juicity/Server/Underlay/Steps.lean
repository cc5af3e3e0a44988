import Juicity.Machine.Tasks
import Juicity.Server.Underlay.Model

/-!
Contract: what one action can do. A packet moves on with keys and endpoints it
already had, found in a cache, was authorised for or created; a session or an
endpoint is inserted only by its own step; a relay-back task changes its place
or seals one datagram. `took_of_step` is the only place that looks inside
`step`.
-/

namespace Juicity.Server.Underlay

open Juicity.Common
open Juicity.Machine

variable {crypto : Crypto} {setting : Setting}

/-! ## Roles of a packet -/

/-- The key a packet was, or will be, opened with. -/
def Pc.key? : Pc crypto → Option (SessionKey crypto)
  | .fast session | .existing session _ => some session.key
  | .pooling purpose _ | .claiming purpose _ | .rechecking purpose _ | .creating purpose _ =>
      some purpose.key
  | .spawning key _ _ _ | .inserting key _ _ _ | .sending key _ _ => some key
  | _ => none

/-- The endpoint a packet will be sent through. -/
def Pc.endpoint? : Pc crypto → Option PooledUdpEndpoint
  | .spawning _ endpoint _ _ | .inserting _ endpoint _ _ | .sending _ endpoint _ => some endpoint
  | _ => none

/-- The key of a packet that looks for a pooled endpoint to be sent through; the
loop does so before it opens the packet. -/
def Pc.takes (payload : Bytes) : Pc crypto → Option (SessionKey crypto)
  | .fast session =>
      match session.key.cipher.decryptInPlace crypto payload with
      | .ok _ => some session.key
      | .error _ => none
  | .existing session _ => some session.key
  | .pooling purpose _ | .rechecking purpose _ => some purpose.key
  | _ => none

/-- The port filter let the auth of this key pass. -/
def Unblocked (setting : Setting) (key : SessionKey crypto) : Prop :=
  setting.disableUdp443 = true → key.auth.metadata.port ≠ 443

/-- Where the data of the place a packet moves to comes from. -/
structure Flow (setting : Setting) (state : State crypto) (task : Nat) (pc : Pc crypto) :
    Prop where
  key : ∀ key, pc.key? = some key → (state.tasks task).pc.key? = some key ∨
    (∃ session, state.sessions (state.sourceOf task) = some session ∧ session.key = key) ∨
      Unblocked setting key
  endpoint : ∀ endpoint, pc.endpoint? = some endpoint →
    pc.key? = (state.tasks task).pc.key? ∧
      ((state.tasks task).pc.endpoint? = some endpoint ∨
        ((state.tasks task).pc.takes (state.tasks task).payload = pc.key? ∧
          state.getSocket (state.sourceOf task) = some endpoint))

/-! ## Caches and relays that only lose -/

/-- A running relay-back task stays, or the session of its source is gone;
sessions and endpoints are only removed. -/
structure Weakens (state after : State crypto) : Prop where
  sessions : ∀ source session, after.sessions source = some session →
    state.sessions source = some session
  pool : ∀ source endpoint, after.pool source = some endpoint →
    state.pool source = some endpoint
  relays : ∀ relay ∈ state.relays, relay.pc.running = true →
    (∃ kept ∈ after.relays, kept.pc.running = true ∧ kept.source = relay.source ∧
      kept.socket = relay.socket ∧ kept.key = relay.key) ∨
    after.sessions relay.source = none

/-- The logs and the owner of the relay-back tasks are those of before. -/
def SameRelays (state after : State crypto) : Prop :=
  ∀ kept ∈ after.relays, ∃ relay ∈ state.relays, kept.source = relay.source ∧
    kept.socket = relay.socket ∧ kept.key = relay.key ∧ kept.relayed = relay.relayed ∧
      kept.sealed = relay.sealed

section Caches

variable {state middle after : State crypto} {source : SocketAddr}

theorem Weakens.of_eq (sessions : after.sessions = state.sessions) (pool : after.pool = state.pool)
    (relays : ∀ relay ∈ state.relays, relay ∈ after.relays) : Weakens state after where
  sessions := by simp [sessions]
  pool := by simp [pool]
  relays := fun relay member running => .inl ⟨relay, relays relay member, running, rfl, rfl, rfl⟩

theorem Weakens.trans (first : Weakens state middle) (second : Weakens middle after) :
    Weakens state after where
  sessions := fun source session cached =>
    first.sessions _ _ (second.sessions source session cached)
  pool := fun source endpoint pooled =>
    first.pool _ _ (second.pool source endpoint pooled)
  relays := by
    intro relay member running
    rcases first.relays relay member running with
      ⟨kept, keptMember, keptRunning, source, socket, key⟩ | gone
    · rw [← source, ← socket, ← key]
      exact second.relays kept keptMember keptRunning
    · right
      cases cached : after.sessions relay.source with
      | none => rfl
      | some session =>
          rw [second.sessions _ _ cached] at gone
          cases gone

theorem SameRelays.of_eq (relays : after.relays = state.relays) : SameRelays state after := by
  intro kept member
  rw [relays] at member
  exact ⟨kept, member, rfl, rfl, rfl, rfl, rfl⟩

theorem weakens_setPc {task : Nat} {pc : Pc crypto} : Weakens state (state.setPc task pc) :=
  .of_eq rfl rfl fun _ member => member

theorem weakens_invalidate (state : State crypto) (source : SocketAddr) :
    Weakens state (state.invalidate source) where
  sessions := by
    intro other session cached
    by_cases same : other = source
    · subst same
      simp [State.invalidate] at cached
    · simpa [State.invalidate, same] using cached
  pool := fun _ _ pooled => pooled
  relays := fun relay member running => .inl ⟨relay, member, running, rfl, rfl, rfl⟩

theorem weakens_removeEndpoint (state : State crypto) (source : SocketAddr) :
    Weakens state (state.removeEndpoint source) where
  sessions := fun _ _ cached => cached
  pool := by
    intro other endpoint pooled
    by_cases same : other = source
    · subst same
      simp [State.removeEndpoint] at pooled
    · simpa [State.removeEndpoint, same] using pooled
  relays := fun relay member running => .inl ⟨relay, member, running, rfl, rfl, rfl⟩

theorem weakens_abort (state : State crypto) (relay : Option Nat) :
    Weakens state (state.abort relay) := by
  cases relay with
  | none => exact .of_eq rfl rfl fun _ member => member
  | some id =>
      constructor
      case sessions => exact fun _ _ cached => cached
      case pool => exact fun _ _ pooled => pooled
      case relays =>
        intro relay member running
        left
        obtain ⟨index, found⟩ := List.mem_iff_getElem?.mp member
        by_cases same : id = index
        · refine ⟨{ relay with aborted := true }, ?_, running, rfl, rfl, rfl⟩
          apply List.mem_iff_getElem?.mpr
          exact ⟨index, by simp [State.abort, same, found]⟩
        · refine ⟨relay, ?_, running, rfl, rfl, rfl⟩
          apply List.mem_iff_getElem?.mpr
          exact ⟨index, by simp [State.abort, same, found]⟩

theorem sameRelays_abort (state : State crypto) (relay : Option Nat) :
    SameRelays state (state.abort relay) := by
  cases relay with
  | none => exact .of_eq rfl
  | some id =>
      intro kept member
      obtain ⟨index, found⟩ := List.mem_iff_getElem?.mp member
      simp only [State.abort, List.getElem?_modify, Option.map_eq_map,
        Option.map_eq_some_iff] at found
      obtain ⟨relay, here, rfl⟩ := found
      refine ⟨relay, List.mem_iff_getElem?.mpr ⟨index, here⟩, ?_⟩
      split <;> exact ⟨rfl, rfl, rfl, rfl, rfl⟩

/-- A relay-back task changes its place and its salts only. -/
structure SameTask (kept relay : Relay crypto) : Prop where
  source : kept.source = relay.source
  socket : kept.socket = relay.socket
  key : kept.key = relay.key
  relayed : kept.relayed = relay.relayed
  sealed : kept.sealed = relay.sealed

/-- The other relay-back tasks stay in place. -/
theorem mem_setRelay {id : Nat} {relay kept other : Relay crypto}
    (found : state.relays[id]? = some relay) (member : other ∈ state.relays) :
    other ∈ state.relays.set id kept ∨ other = relay := by
  obtain ⟨index, here⟩ := List.mem_iff_getElem?.mp member
  by_cases same : id = index
  · subst same
    rw [found] at here
    exact .inr (Option.some.inj here).symm
  · left
    apply List.mem_iff_getElem?.mpr
    exact ⟨index, by rw [List.getElem?_set_ne same]; exact here⟩

theorem mem_set_self {id : Nat} {relay kept : Relay crypto}
    (found : state.relays[id]? = some relay) : kept ∈ state.relays.set id kept := by
  have bound : id < state.relays.length := (List.getElem?_eq_some_iff.mp found).1
  exact List.mem_iff_getElem?.mpr ⟨id, by simp [bound]⟩

theorem weakens_setRelay {id : Nat} {relay kept : Relay crypto}
    (found : state.relays[id]? = some relay) (running : kept.pc.running = true)
    (source : kept.source = relay.source) (socket : kept.socket = relay.socket)
    (key : kept.key = relay.key) : Weakens state (state.setRelay id kept) where
  sessions := fun _ _ cached => cached
  pool := fun _ _ pooled => pooled
  relays := by
    intro other member otherRunning
    left
    rcases mem_setRelay found member with stays | rfl
    · exact ⟨other, stays, otherRunning, rfl, rfl, rfl⟩
    · exact ⟨kept, mem_set_self found, running, source, socket, key⟩

theorem weakens_leave {id : Nat} {relay kept : Relay crypto} {pc : RelayPc}
    (found : state.relays[id]? = some relay) (source : kept.source = relay.source) :
    Weakens state (state.leave id kept pc) where
  sessions := by
    intro other session cached
    exact (weakens_invalidate (state.setRelay id { kept with pc := pc }) kept.source).sessions
      other session cached
  pool := fun _ _ pooled => pooled
  relays := by
    intro other member running
    rcases mem_setRelay found member with stays | rfl
    · exact .inl ⟨other, stays, running, rfl, rfl, rfl⟩
    · right
      rw [← source]
      simp [State.leave, State.invalidate]

theorem sameRelays_set {id : Nat} {relay kept : Relay crypto}
    (found : state.relays[id]? = some relay) (sameTask : SameTask kept relay)
    (relays : after.relays = state.relays.set id kept) : SameRelays state after := by
  intro other member
  rw [relays] at member
  rcases List.mem_or_eq_of_mem_set member with stays | rfl
  · exact ⟨other, stays, rfl, rfl, rfl, rfl, rfl⟩
  · exact ⟨relay, List.mem_iff_getElem?.mpr ⟨id, found⟩, sameTask.source, sameTask.socket,
      sameTask.key, sameTask.relayed, sameTask.sealed⟩

end Caches

/-! ## Inversion -/

/-- What an action can do to a state. -/
inductive Took (setting : Setting) (state : State crypto) : Action → State crypto → Prop where
  | environment {action : Action} {after : State crypto} (weakens : Weakens state after)
      (same : SameRelays state after) (tasks : after.tasks = state.tasks)
      (sends : after.sends = state.sends) (sockets : after.freshSocket = state.freshSocket) :
      Took setting state action after
  | arrived (task : Nat) (source : SocketAddr) (payload : Bytes) :
      Took setting state (.arrive task source payload) { state with
        tasks := Function.update state.tasks task ⟨source, payload, .arrived⟩ }
  | moved {action : Action} {after : State crypto} (task : Nat) (pc : Pc crypto)
      (weakens : Weakens state after) (same : SameRelays state after)
      (moves : Moves state.tasks after.tasks task { state.tasks task with pc := pc })
      (sends : after.sends = state.sends) (sockets : state.freshSocket ≤ after.freshSocket)
      (ran : pc.endpoint? ≠ none → action = .run task)
      (flow : Flow setting state task pc) : Took setting state action after
  | forwarded (task : Nat) (session : UnderlaySession crypto) (endpoint : PooledUdpEndpoint)
      (opened : Bytes) (here : (state.tasks task).pc = .fast session)
      (pooled : state.getSocket (state.sourceOf task) = some endpoint)
      (opens : session.key.cipher.decryptInPlace crypto (state.tasks task).payload = .ok opened) :
      Took setting state (.run task) { state.setPc task .fastSending with
        sends := state.sends ++
          [.outbound session.key endpoint.target (opened.drop JuicityUnderlay.saltLen)] }
  | spawned {action : Action} (task : Nat) (key : SessionKey crypto)
      (endpoint : PooledUdpEndpoint) (plaintext : Bytes)
      (here : (state.tasks task).pc = .spawning key endpoint true plaintext) :
      Took setting state action (state.spawnRelay task key endpoint true plaintext)
  | established (task : Nat) (key : SessionKey crypto) (endpoint : PooledUdpEndpoint)
      (relayAbort : Option Nat) (plaintext : Bytes)
      (here : (state.tasks task).pc = .inserting key endpoint relayAbort plaintext) :
      Took setting state (.run task) (state.establish task key endpoint relayAbort plaintext)
  | sent {action : Action} (task : Nat) (key : SessionKey crypto) (endpoint : PooledUdpEndpoint)
      (plaintext : Bytes) (here : (state.tasks task).pc = .sending key endpoint plaintext) :
      Took setting state action { state.setPc task (.awaiting endpoint.target) with
        sends := state.sends ++ [.outbound key endpoint.target plaintext] }
  | created (task : Nat) (purpose : Purpose crypto) (plaintext : Bytes) (isIpv6 : Bool)
      (target : SocketAddr) (rest : List SocketAddr)
      (here : (state.tasks task).pc = .creating purpose plaintext)
      (resolved : setting.resolves purpose.dialTarget target = true) :
      Took setting state (.create task (.ok isIpv6) (.ok (target :: rest)))
        (state.created task purpose plaintext
          (.ok ⟨state.freshSocket, target, isIpv6, purpose.dialTarget⟩))
  | replied {action : Action} {after : State crypto} (id : Nat) (relay kept : Relay crypto)
      (salt : Salt) (datagram packet : Bytes) (found : state.relays[id]? = some relay)
      (weakens : Weakens state after) (relays : after.relays = state.relays.set id kept)
      (tasks : after.tasks = state.tasks) (sockets : after.freshSocket = state.freshSocket)
      (source : kept.source = relay.source) (socket : kept.socket = relay.socket)
      (key : kept.key = relay.key) (relayed : kept.relayed = relay.relayed ++ [datagram])
      (sealed : kept.sealed = relay.sealed ++
        [(relay.key.cipher.subkey, JuicityUnderlay.zeroNonce, datagram)])
      (sends : after.sends = state.sends ++
        [.reply relay.key salt datagram relay.source packet])
      (written : relay.key.cipher.encryptInPlace crypto
        (List.replicate JuicityUnderlay.saltLen 0 ++ datagram) salt = .ok packet) :
      Took setting state action after

section Inversion

variable {state after : State crypto} {task id : Nat} {action : Action}

/-- A packet moves on without touching anything else. -/
theorem took_setPc {pc : Pc crypto} (ran : pc.endpoint? ≠ none → action = .run task)
    (flow : Flow setting state task pc) : Took setting state action (state.setPc task pc) :=
  .moved task pc (.of_eq rfl rfl fun _ member => member) (.of_eq rfl) rfl rfl (Nat.le_refl _)
    ran flow

/-- Places without a key need no source for it. -/
theorem flow_keyless {pc : Pc crypto} (key : pc.key? = none) (endpoint : pc.endpoint? = none) :
    Flow setting state task pc where
  key := by simp [key]
  endpoint := by simp [endpoint]

theorem took_keyless {pc : Pc crypto} (key : pc.key? = none) (endpoint : pc.endpoint? = none) :
    Took setting state action (state.setPc task pc) :=
  took_setPc (fun some => absurd endpoint some) (flow_keyless key endpoint)

/-- The key of the session of the source. -/
theorem flow_cached {pc : Pc crypto} {session : UnderlaySession crypto}
    (cached : state.sessions (state.sourceOf task) = some session)
    (key : pc.key? = some session.key) (endpoint : pc.endpoint? = none) :
    Flow setting state task pc where
  key := fun _ same => .inr (.inl ⟨session, cached, Option.some.inj (key.symm.trans same)⟩)
  endpoint := by simp [endpoint]

/-- Places that keep their key and have no endpoint. -/
theorem flow_kept {pc : Pc crypto} (key : pc.key? = (state.tasks task).pc.key?)
    (endpoint : pc.endpoint? = none) : Flow setting state task pc where
  key := fun _ same => .inl (by rw [← key]; exact same)
  endpoint := by simp [endpoint]

theorem took_receive : Took setting state action (state.receive task) := by
  unfold State.receive
  split
  · exact took_keyless rfl rfl
  · split
    · rename_i session cached
      exact took_setPc (by simp [Pc.endpoint?]) (flow_cached cached rfl rfl)
    · exact took_keyless rfl rfl

theorem took_fastPath {session : UnderlaySession crypto}
    (here : (state.tasks task).pc = .fast session) :
    Took setting state (.run task) (state.fastPath task session) := by
  unfold State.fastPath
  cases pooled : state.getSocket (state.sourceOf task) with
  | none => exact took_keyless rfl rfl
  | some endpoint =>
      cases opens : session.key.cipher.decryptInPlace crypto (state.tasks task).payload with
      | ok opened => exact .forwarded task session endpoint opened here pooled opens
      | error error =>
          simp only
          exact took_keyless rfl rfl

theorem took_handle : Took setting state action (state.handle task) := by
  unfold State.handle
  split
  · rename_i session cached
    split
    · exact took_setPc (by simp [Pc.endpoint?]) (flow_cached cached rfl rfl)
    · exact took_keyless rfl rfl
  · exact took_keyless rfl rfl

theorem took_authorise {auth : UnderlayAuth}
    (taken : state.authorise setting task auth = some after) :
    Took setting state action after := by
  unfold State.authorise at taken
  simp only at taken
  split at taken
  · split at taken
    · split at taken
      · rename_i key made
        split at taken
        · split at taken
          · obtain rfl := Option.some.inj taken
            exact took_keyless rfl rfl
          · rename_i passes
            obtain rfl := Option.some.inj taken
            apply took_setPc (by simp [Pc.endpoint?])
            constructor
            case key =>
              intro other same
              obtain rfl := Option.some.inj same
              right
              right
              intro disabled blocked
              apply passes
              have port : key.auth.metadata.port = 443 := blocked
              rw [SessionKey.auth_of_ofFirst made] at port
              rw [disabled, port]
              rfl
            case endpoint => simp [Pc.endpoint?]
        · obtain rfl := Option.some.inj taken
          exact took_keyless rfl rfl
      · obtain rfl := Option.some.inj taken
        exact took_keyless rfl rfl
    · cases taken
  · cases taken

/-- An endpoint found in the pool goes to the packet that looked for it. -/
theorem flow_found {pc : Pc crypto} {key : SessionKey crypto} {endpoint : PooledUdpEndpoint}
    (pooled : state.getSocket (state.sourceOf task) = some endpoint)
    (had : (state.tasks task).pc.key? = some key)
    (takes : (state.tasks task).pc.takes (state.tasks task).payload = some key)
    (key? : pc.key? = some key) (endpoint? : pc.endpoint? = some endpoint) :
    Flow setting state task pc where
  key := fun _ same => .inl (by rw [had, ← key?]; exact same)
  endpoint := by
    intro other same
    rw [endpoint?] at same
    obtain rfl := Option.some.inj same
    exact ⟨key?.trans had.symm, .inr ⟨takes.trans key?.symm, pooled⟩⟩

/-- A pool hit of `get_or_create`, whatever happens to the `creating` set. -/
theorem took_obtained {purpose : Purpose crypto} {endpoint : PooledUdpEndpoint}
    {plaintext : Bytes} (creating : SocketAddr → Bool)
    (pooled : state.getSocket (state.sourceOf task) = some endpoint)
    (had : (state.tasks task).pc.key? = some purpose.key)
    (takes : (state.tasks task).pc.takes (state.tasks task).payload = some purpose.key) :
    Took setting state (.run task)
      { state.obtained task purpose endpoint false plaintext with creating := creating } := by
  cases purpose with
  | recover session =>
      exact .moved task (.sending session.key endpoint plaintext)
        (.of_eq rfl rfl fun _ member => member) (.of_eq rfl) rfl rfl (Nat.le_refl _)
        (fun _ => rfl) (flow_found pooled had takes rfl rfl)
  | establish key =>
      exact .moved task (.spawning key endpoint false plaintext)
        (.of_eq rfl rfl fun _ member => member) (.of_eq rfl) rfl rfl (Nat.le_refl _)
        (fun _ => rfl) (flow_found pooled had takes rfl rfl)

/-- Places that keep key and endpoint. -/
theorem flow_same {pc : Pc crypto} (key : pc.key? = (state.tasks task).pc.key?)
    (endpoint : pc.endpoint? = (state.tasks task).pc.endpoint?) : Flow setting state task pc where
  key := fun _ same => .inl (by rw [← key]; exact same)
  endpoint := fun _ same => ⟨key, .inl (by rw [← endpoint]; exact same)⟩

theorem took_advance (taken : state.advance task = some after) :
    Took setting state (.run task) after := by
  unfold State.advance at taken
  cases here : (state.tasks task).pc with
  | idle | fastSending | evicting | creating | awaiting | finished => simp [here] at taken
  | arrived =>
      simp only [here, Option.some.injEq] at taken
      subst taken
      exact took_receive
  | fast session =>
      simp only [here, Option.some.injEq] at taken
      subst taken
      exact took_fastPath here
  | fastFailed =>
      simp only [here, Option.some.injEq] at taken
      subst taken
      exact .moved task (.finished none) (weakens_setPc.trans (weakens_invalidate _ _))
        (.of_eq rfl) rfl rfl (Nat.le_refl _) (by simp [Pc.endpoint?]) (flow_keyless rfl rfl)
  | dispatching =>
      simp only [here, Option.some.injEq] at taken
      subst taken
      exact took_keyless rfl rfl
  | handling =>
      simp only [here, Option.some.injEq] at taken
      subst taken
      exact took_handle
  | existing session plaintext =>
      simp only [here] at taken
      cases pooled : state.getSocket (state.sourceOf task) with
      | some endpoint =>
          simp only [pooled, Option.some.injEq] at taken
          subst taken
          exact took_setPc (fun _ => rfl)
            (flow_found pooled (by rw [here]; rfl) (by rw [here]; rfl) rfl rfl)
      | none =>
          simp only [pooled, Option.some.injEq] at taken
          subst taken
          exact took_setPc (by simp [Pc.endpoint?]) (flow_kept (by rw [here]; rfl) rfl)
  | pooling purpose plaintext =>
      simp only [here] at taken
      cases pooled : state.getSocket (state.sourceOf task) with
      | some endpoint =>
          simp only [pooled, Option.some.injEq] at taken
          subst taken
          have hit : Took setting state (.run task)
              { state.obtained task purpose endpoint false plaintext with
                creating := state.creating } :=
            took_obtained state.creating pooled (by rw [here]; rfl) (by rw [here]; rfl)
          cases purpose with
          | recover session => exact hit
          | establish key => exact hit
      | none =>
          simp only [pooled, Option.some.injEq] at taken
          subst taken
          exact took_setPc (by simp [Pc.endpoint?]) (flow_kept (by rw [here]; rfl) rfl)
  | claiming purpose plaintext =>
      simp only [here] at taken
      split at taken
      · obtain rfl := Option.some.inj taken
        exact took_setPc (by simp [Pc.endpoint?]) (flow_kept (by rw [here]; rfl) rfl)
      · obtain rfl := Option.some.inj taken
        exact .moved task (.rechecking purpose plaintext)
          (.of_eq rfl rfl fun _ member => member) (.of_eq rfl) rfl rfl (Nat.le_refl _)
          (by simp [Pc.endpoint?]) (flow_kept (by rw [here]; rfl) rfl)
  | rechecking purpose plaintext =>
      simp only [here] at taken
      cases pooled : state.getSocket (state.sourceOf task) with
      | some endpoint =>
          simp only [pooled, Option.some.injEq] at taken
          subst taken
          exact took_obtained _ pooled (by rw [here]; rfl) (by rw [here]; rfl)
      | none =>
          simp only [pooled, Option.some.injEq] at taken
          subst taken
          exact took_setPc (by simp [Pc.endpoint?]) (flow_kept (by rw [here]; rfl) rfl)
  | spawning key endpoint isNew plaintext =>
      simp only [here, Option.some.injEq] at taken
      subst taken
      cases isNew with
      | true => exact .spawned task key endpoint plaintext here
      | false =>
          exact took_setPc (fun _ => rfl) (flow_same (by rw [here]; rfl) (by rw [here]; rfl))
  | inserting key endpoint relayAbort plaintext =>
      simp only [here, Option.some.injEq] at taken
      subst taken
      exact .established task key endpoint relayAbort plaintext here
  | sending key endpoint plaintext =>
      simp only [here, Option.some.injEq] at taken
      subst taken
      exact .sent task key endpoint plaintext here
  | removing error =>
      simp only [here, Option.some.injEq] at taken
      subst taken
      exact .moved task (.aborting error)
        (weakens_setPc.trans (weakens_removeEndpoint _ _))
        (.of_eq rfl) rfl rfl (Nat.le_refl _) (by simp [Pc.endpoint?]) (flow_keyless rfl rfl)
  | aborting error =>
      simp only [here, Option.some.injEq] at taken
      subst taken
      have unmoved : ∀ relay, ((state.setPc task (.invalidating error)).abort relay).tasks =
          (state.setPc task (.invalidating error)).tasks ∧
          ((state.setPc task (.invalidating error)).abort relay).sends = state.sends ∧
          ((state.setPc task (.invalidating error)).abort relay).freshSocket =
            state.freshSocket := by
        intro relay
        cases relay <;> exact ⟨rfl, rfl, rfl⟩
      obtain ⟨tasks, sends, sockets⟩ := unmoved
        ((state.sessions (state.sourceOf task)).bind UnderlaySession.relayAbort)
      exact .moved task (.invalidating error)
        (weakens_setPc.trans (weakens_abort _ _))
        (sameRelays_abort (state.setPc task (.invalidating error)) _)
        tasks sends (Nat.le_of_eq sockets.symm) (by simp [Pc.endpoint?]) (flow_keyless rfl rfl)
  | invalidating error =>
      simp only [here, Option.some.injEq] at taken
      subst taken
      exact .moved task (.finished (some error))
        (weakens_setPc.trans (weakens_invalidate _ _))
        (.of_eq rfl) rfl rfl (Nat.le_refl _) (by simp [Pc.endpoint?]) (flow_keyless rfl rfl)

theorem took_created {purpose : Purpose crypto} {plaintext : Bytes}
    {socketIsIpv6 : Except String Bool} {lookup : Except String (List SocketAddr)}
    (here : (state.tasks task).pc = .creating purpose plaintext)
    (resolved : setting.answers purpose.dialTarget lookup = true) :
    Took setting state (.create task socketIsIpv6 lookup)
      (state.created task purpose plaintext (UdpEndpoint.new purpose.dialTarget
        (socketIsIpv6.map fun isIpv6 => (state.freshSocket, isIpv6)) lookup)) := by
  have failed : ∀ error, Took setting state (.create task socketIsIpv6 lookup)
      (state.created task purpose plaintext (.error error)) := fun error =>
    .moved task (.finished (some (.endpoint error))) (.of_eq rfl rfl fun _ member => member)
      (.of_eq rfl) rfl rfl (Nat.le_succ _) (by simp [Pc.endpoint?]) (flow_keyless rfl rfl)
  match socketIsIpv6, lookup with
  | .error error, _ => exact failed error
  | .ok isIpv6, .error error => exact failed error
  | .ok isIpv6, .ok [] => exact failed _
  | .ok isIpv6, .ok (target :: rest) =>
      rw [Setting.answers, List.all_cons, Bool.and_eq_true] at resolved
      exact .created task purpose plaintext isIpv6 target rest here resolved.1

theorem took_sent {error : Option String} (taken : state.sent task error = some after) :
    Took setting state action after := by
  unfold State.sent at taken
  split at taken
  · obtain rfl := Option.some.inj taken
    exact took_keyless rfl rfl
  · obtain rfl := Option.some.inj taken
    exact took_keyless rfl rfl
  · obtain rfl := Option.some.inj taken
    exact took_keyless rfl rfl
  · obtain rfl := Option.some.inj taken
    exact took_keyless rfl rfl
  · cases taken

/-! ## Relay-back tasks -/

theorem took_setRelay {relay kept : Relay crypto} (found : state.relays[id]? = some relay)
    (running : kept.pc.running = true) (sameTask : SameTask kept relay) :
    Took setting state action (state.setRelay id kept) :=
  .environment (weakens_setRelay found running sameTask.source sameTask.socket sameTask.key)
    (sameRelays_set found sameTask rfl) rfl rfl rfl

theorem took_leave {relay kept : Relay crypto} {pc : RelayPc}
    (found : state.relays[id]? = some relay) (sameTask : SameTask kept relay) :
    Took setting state action (state.leave id kept pc) := by
  have stored : (state.leave id kept pc).relays = state.relays.set id { kept with pc := pc } := rfl
  have sameStored : SameTask { kept with pc := pc } relay :=
    ⟨sameTask.source, sameTask.socket, sameTask.key, sameTask.relayed, sameTask.sealed⟩
  exact .environment (weakens_leave found sameTask.source)
    (sameRelays_set found sameStored stored) rfl rfl rfl

theorem took_reply {relay kept : Relay crypto} {datagram : Bytes}
    (found : state.relays[id]? = some relay) (sameTask : SameTask kept relay) :
    Took setting state action (state.reply id kept datagram) := by
  unfold State.reply
  split
  · exact took_leave found sameTask
  · rename_i salt popped
    simp only
    split
    · rename_i packet written
      obtain ⟨source, socket, key, relayed, sealed⟩ := sameTask
      have weakens : Weakens state (state.setRelay id (kept.sealing datagram)) :=
        weakens_setRelay found rfl source socket key
      refine .replied id relay (kept.sealing datagram) salt datagram packet found
        ⟨weakens.sessions, weakens.pool, weakens.relays⟩ rfl rfl rfl source socket key ?_ ?_ ?_ ?_
      · rw [← relayed]
        rfl
      · rw [← sealed, ← key]
        rfl
      · rw [← key, ← source]
      · rw [← key]
        exact written
    · exact took_leave found ⟨sameTask.source, sameTask.socket, sameTask.key, sameTask.relayed,
        sameTask.sealed⟩

theorem took_relayFill {relay : Relay crypto} {random : Option (Octets (saltBatchSize * 30))}
    (found : state.relays[id]? = some relay)
    (taken : state.relayFill id relay random = some after) :
    Took setting state action after := by
  have same : SameTask relay relay := ⟨rfl, rfl, rfl, rfl, rfl⟩
  unfold State.relayFill at taken
  split at taken
  · obtain rfl := Option.some.inj taken
    exact took_setRelay found rfl ⟨rfl, rfl, rfl, rfl, rfl⟩
  · obtain rfl := Option.some.inj taken
    exact took_leave found same
  · obtain rfl := Option.some.inj taken
    exact took_reply found ⟨rfl, rfl, rfl, rfl, rfl⟩
  · obtain rfl := Option.some.inj taken
    exact took_leave found same
  · cases taken

theorem took_relayReceive {relay : Relay crypto} {datagram : Bytes}
    (found : state.relays[id]? = some relay) :
    Took setting state action (state.relayReceive id relay datagram) := by
  unfold State.relayReceive
  split
  · exact took_setRelay found rfl ⟨rfl, rfl, rfl, rfl, rfl⟩
  · exact took_reply found ⟨rfl, rfl, rfl, rfl, rfl⟩

theorem took_of_step (taken : step setting state action = some after) :
    Took setting state action after := by
  cases action with
  | arrive task source payload =>
      simp only [step] at taken
      split at taken
      · obtain rfl := Option.some.inj taken
        exact .arrived task source payload
      · cases taken
  | run task => exact took_advance taken
  | shed task =>
      simp only [step] at taken
      split at taken
      · obtain rfl := Option.some.inj taken
        exact took_keyless rfl rfl
      · cases taken
  | sent task error => exact took_sent taken
  | evicted task auth =>
      simp only [step] at taken
      split at taken
      · obtain rfl := Option.some.inj taken
        exact took_keyless rfl rfl
      · exact took_authorise taken
      · cases taken
  | create task socketIsIpv6 lookup =>
      simp only [step] at taken
      split at taken
      · rename_i purpose plaintext here
        split at taken
        · rename_i resolved
          obtain rfl := Option.some.inj taken
          exact took_created here resolved
        · cases taken
      · cases taken
  | expireSession source =>
      obtain rfl := Option.some.inj taken
      exact .environment (weakens_invalidate state source) (.of_eq rfl) rfl rfl rfl
  | expireEndpoint source =>
      obtain rfl := Option.some.inj taken
      exact .environment (weakens_removeEndpoint state source) (.of_eq rfl) rfl rfl rfl
  | listenerAbort index =>
      simp only [step] at taken
      split at taken
      · rename_i source relay found
        obtain rfl := Option.some.inj taken
        have weakens := weakens_abort state relay
        have same := sameRelays_abort state relay
        have queued : Weakens state { state.abort relay with
            evicted := state.evicted.eraseIdx index
            removals := state.removals ++ [source] } :=
          ⟨weakens.sessions, weakens.pool, weakens.relays⟩
        cases relay with
        | none => exact .environment queued same rfl rfl rfl
        | some id => exact .environment queued same rfl rfl rfl
      · cases taken
  | listenerRemove index =>
      simp only [step] at taken
      split at taken
      · rename_i source found
        obtain rfl := Option.some.inj taken
        exact .environment ((weakens_removeEndpoint state source).trans
          (.of_eq rfl rfl fun _ member => member)) (.of_eq rfl) rfl rfl rfl
      · cases taken
  | relayFill id random =>
      simp only [step] at taken
      split at taken
      · rename_i relay found
        exact took_relayFill found taken
      · cases taken
  | relayReceive id datagram =>
      simp only [step] at taken
      split at taken
      · rename_i relay found
        split at taken
        · obtain rfl := Option.some.inj taken
          exact took_relayReceive found
        · cases taken
      · cases taken
  | relayReplied id delivered =>
      simp only [step] at taken
      split at taken
      · rename_i relay found
        split at taken
        · split at taken
          · obtain rfl := Option.some.inj taken
            exact took_setRelay found rfl ⟨rfl, rfl, rfl, rfl, rfl⟩
          · obtain rfl := Option.some.inj taken
            exact took_leave found ⟨rfl, rfl, rfl, rfl, rfl⟩
        · cases taken
      · cases taken
  | relayFinish id =>
      simp only [step] at taken
      split at taken
      · rename_i relay found
        split at taken
        · obtain rfl := Option.some.inj taken
          exact took_leave found ⟨rfl, rfl, rfl, rfl, rfl⟩
        · cases taken
      · cases taken
  | relayRemove id =>
      simp only [step] at taken
      split at taken
      · rename_i relay found
        split at taken
        · rename_i removing
          obtain rfl := Option.some.inj taken
          have ended : SameTask { relay with pc := .ended } relay := ⟨rfl, rfl, rfl, rfl, rfl⟩
          refine .environment ⟨?_, ?_, ?_⟩ (sameRelays_set found ended rfl) rfl rfl rfl
          · exact fun _ _ cached => cached
          · exact (weakens_removeEndpoint state relay.source).pool
          · intro other member running
            left
            rcases mem_setRelay found member with stays | rfl
            · exact ⟨other, stays, running, rfl, rfl, rfl⟩
            · rw [removing] at running
              cases running
        · cases taken
      · cases taken
  | relayDrop id =>
      simp only [step] at taken
      split at taken
      · rename_i relay found
        split at taken
        · obtain rfl := Option.some.inj taken
          exact took_leave found ⟨rfl, rfl, rfl, rfl, rfl⟩
        · cases taken
      · cases taken

end Inversion

end Juicity.Server.Underlay
