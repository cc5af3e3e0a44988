import Juicity.Server.Underlay.Steps

/-!
Contract: properties of endpoints. A packet never makes up an endpoint: it takes
one from the pool or has created it. So what holds of every endpoint when it is
created, and of those in use, holds of all that are pooled or about to be sent
through. Instances are freshness of the sockets and the port of the target.
-/

namespace Juicity.Server.Underlay

open Juicity.Common
open Juicity.Machine

variable {crypto : Crypto} {setting : Setting}

/-- All endpoints in the pool and all endpoints packets go through are good. -/
structure Endpoints (good : PooledUdpEndpoint → Prop) (state : State crypto) : Prop where
  pool : ∀ source endpoint, state.getSocket source = some endpoint → good endpoint
  tasks : ∀ task endpoint, (state.tasks task).pc.endpoint? = some endpoint → good endpoint

section Preservation

variable {good weak : PooledUdpEndpoint → Prop} {state after : State crypto} {action : Action}

theorem endpoints_initial : Endpoints good (initial crypto) where
  pool := by simp [initial, State.getSocket]
  tasks := by simp [initial, Pc.endpoint?]

theorem Endpoints.mono (held : Endpoints good state) (weaker : ∀ endpoint, good endpoint →
    weak endpoint) : Endpoints weak state where
  pool := fun source endpoint pooled => weaker endpoint (held.pool source endpoint pooled)
  tasks := fun task endpoint has => weaker endpoint (held.tasks task endpoint has)

theorem Weakens.getSocket (weakens : Weakens state after) {source : SocketAddr}
    {endpoint : PooledUdpEndpoint} (pooled : after.getSocket source = some endpoint) :
    state.getSocket source = some endpoint := by
  obtain ⟨whole, found, rfl⟩ := Option.map_eq_some_iff.mp pooled
  have earlier := weakens.pool source whole found
  rw [State.getSocket, earlier]
  rfl

/-- One packet moves to a place whose endpoint is good. -/
theorem Endpoints.of_moves (held : Endpoints good state)
    (pool : ∀ source endpoint, after.getSocket source = some endpoint → good endpoint)
    (task : Nat) (moved : Task crypto) (moves : Moves state.tasks after.tasks task moved)
    (known : ∀ endpoint, moved.pc.endpoint? = some endpoint → good endpoint) :
    Endpoints good after where
  pool := pool
  tasks := by
    intro other
    apply moves.forall_tasks (motive := fun _ task => ∀ endpoint,
      task.pc.endpoint? = some endpoint → good endpoint)
    · exact known
    · exact fun other _ => held.tasks other

/-- The packet that created an endpoint goes on with it and its key. -/
theorem moves_created (state : State crypto) (task : Nat) (purpose : Purpose crypto)
    (plaintext : Bytes) (endpoint : UdpEndpoint) : ∃ pc : Pc crypto,
      Moves state.tasks (state.created task purpose plaintext (.ok endpoint)).tasks task
          { state.tasks task with pc := pc } ∧
        pc.endpoint? = some (.fromEndpoint endpoint) ∧ pc.key? = some purpose.key := by
  cases purpose with
  | recover session =>
      exact ⟨.sending session.key (.fromEndpoint endpoint) plaintext, rfl, rfl, rfl⟩
  | establish key =>
      exact ⟨.spawning key (.fromEndpoint endpoint) true plaintext, rfl, rfl, rfl⟩

/-- A new endpoint changes no session, relay-back task or send. -/
theorem created_frame (state : State crypto) (task : Nat) (purpose : Purpose crypto)
    (plaintext : Bytes) (endpoint : UdpEndpoint) :
    (state.created task purpose plaintext (.ok endpoint)).sessions = state.sessions ∧
      (state.created task purpose plaintext (.ok endpoint)).relays = state.relays ∧
        (state.created task purpose plaintext (.ok endpoint)).sends = state.sends := by
  cases purpose with
  | recover session => exact ⟨rfl, rfl, rfl⟩
  | establish key => exact ⟨rfl, rfl, rfl⟩

/-- An inserted session has the key of the packet that inserts it. -/
theorem established_sessions {task : Nat} {key : SessionKey crypto}
    {endpoint : PooledUdpEndpoint} {relayAbort : Option Nat} {plaintext : Bytes}
    {source : SocketAddr} {session : UnderlaySession crypto}
    (cached : (state.establish task key endpoint relayAbort plaintext).sessions source =
      some session) :
    (source = state.sourceOf task ∧ session.key = key) ∨ state.sessions source = some session := by
  by_cases same : source = state.sourceOf task
  · left
    subst same
    have inserted : (⟨key.auth.metadata.targetAddr, key, relayAbort, rfl⟩ :
        UnderlaySession crypto) = session := by
      simpa [State.establish, State.insertSession] using cached
    rw [← inserted]
    exact ⟨rfl, rfl⟩
  · right
    simpa [State.establish, State.insertSession, State.setPc, same] using cached

theorem Endpoints.preserved (held : Endpoints good state)
    (fresh : ∀ task purpose plaintext target isIpv6,
      (state.tasks task).pc = .creating purpose plaintext →
        setting.resolves purpose.dialTarget target = true →
          state.freshSocket < after.freshSocket → good ⟨state.freshSocket, target, isIpv6⟩)
    (taken : step setting state action = some after) : Endpoints good after := by
  cases took_of_step taken with
  | environment weakens same tasks sends sockets =>
      constructor
      case pool =>
        intro source endpoint pooled
        exact held.pool source endpoint (weakens.getSocket pooled)
      case tasks =>
        rw [tasks]
        exact held.tasks
  | arrived task source payload =>
      refine held.of_moves held.pool task ⟨source, payload, .arrived⟩ rfl ?_
      simp [Pc.endpoint?]
  | moved task pc weakens same moves sends sockets ran flow =>
      apply held.of_moves _ task _ moves
      · intro endpoint has
        rcases (flow.endpoint endpoint has).2 with had | ⟨_, pooled⟩
        · exact held.tasks task endpoint had
        · exact held.pool _ endpoint pooled
      · exact fun source endpoint pooled => held.pool source endpoint (weakens.getSocket pooled)
  | forwarded task session endpoint opened here pooled opens =>
      refine held.of_moves held.pool task { state.tasks task with pc := .fastSending } rfl ?_
      simp [Pc.endpoint?]
  | spawned task key endpoint plaintext here =>
      have known : good endpoint := held.tasks task endpoint (by rw [here]; rfl)
      refine held.of_moves held.pool task { state.tasks task with
        pc := .inserting key endpoint (some state.relays.length) plaintext } rfl ?_
      intro other has
      rw [← Option.some.inj has]
      exact known
  | established task key endpoint relayAbort plaintext here =>
      have known : good endpoint := held.tasks task endpoint (by rw [here]; rfl)
      refine held.of_moves held.pool task { state.tasks task with
        pc := .sending key endpoint plaintext } rfl ?_
      intro other has
      rw [← Option.some.inj has]
      exact known
  | sent task key endpoint plaintext here =>
      refine held.of_moves held.pool task
        { state.tasks task with pc := .awaiting endpoint.target } rfl ?_
      simp [Pc.endpoint?]
  | created task purpose plaintext isIpv6 target rest here resolved =>
      have new := fresh task purpose plaintext target isIpv6 here resolved (Nat.lt_succ_self _)
      obtain ⟨pc, moves, endpoint?, _⟩ := moves_created state task purpose plaintext
        ⟨state.freshSocket, target, isIpv6, purpose.dialTarget⟩
      apply held.of_moves _ task _ moves
      · intro endpoint has
        have same : some endpoint = some _ := has.symm.trans endpoint?
        rw [Option.some.inj same]
        exact new
      · intro source endpoint pooled
        by_cases same : source = state.sourceOf task
        · subst same
          have stored : PooledUdpEndpoint.fromEndpoint
              ⟨state.freshSocket, target, isIpv6, purpose.dialTarget⟩ = endpoint := by
            simpa [State.getSocket, State.created] using pooled
          rw [← stored]
          exact new
        · apply held.pool source
          simpa [State.getSocket, State.created, same] using pooled
  | replied id relay kept salt datagram packet found weakens relays tasks sockets source socket
      key relayed sealed sends written =>
      constructor
      case pool =>
        intro source endpoint pooled
        exact held.pool source endpoint (weakens.getSocket pooled)
      case tasks =>
        rw [tasks]
        exact held.tasks

end Preservation

end Juicity.Server.Underlay
