import Juicity.Server.Underlay.Endpoints

/-!
Owns the agreement of the session cache, the endpoint pool and the relay-back
tasks. A session can receive replies while a relay-back task reads the endpoint
its packets are sent from and seals with its cipher. Two steps can break this: a
new endpoint that goes under a cached session, and a session that goes over an
endpoint which is not read under its key. All other steps only lose sessions,
endpoints, or tasks together with their session.
-/

namespace Juicity.Server.Underlay

open Juicity.Common
open Juicity.Machine

variable {crypto : Crypto} {setting : Setting}

/-- A running relay-back task of the source reads the socket and seals with the
cipher. A task runs until it has dropped its `SessionGuard`. -/
def Reads (state : State crypto) (source : SocketAddr) (socket : Nat) (cipher : UnderlayCipher) :
    Prop :=
  ∃ relay ∈ state.relays, relay.pc.running = true ∧ relay.source = source ∧
    relay.socket = socket ∧ relay.key.cipher = cipher

instance (state : State crypto) (source : SocketAddr) (socket : Nat) (cipher : UnderlayCipher) :
    Decidable (Reads state source socket cipher) :=
  inferInstanceAs (Decidable (∃ relay ∈ state.relays, _))

/-- Every session whose source has a pooled endpoint can receive replies. -/
def Answerable (state : State crypto) : Prop :=
  ∀ source session endpoint, state.sessions source = some session →
    state.pool source = some endpoint →
      Reads state source endpoint.socket session.key.cipher

/-- No new endpoint goes under a cached session, and no session goes over an
endpoint that is not read under its key. -/
structure KeepsReader (state : State crypto) (action : Action) : Prop where
  create : ∀ task isIpv6 target rest, action = .create task (.ok isIpv6) (.ok (target :: rest)) →
    state.sessions (state.sourceOf task) = none
  insert : ∀ task key endpoint relayAbort plaintext, action = .run task →
    (state.tasks task).pc = .inserting key endpoint relayAbort plaintext →
      ∀ pooled, state.pool (state.sourceOf task) = some pooled →
        Reads state (state.sourceOf task) pooled.socket key.cipher

/-! ## Fresh sockets -/

/-- Every socket in use was bound before the next one. -/
structure Bound (state : State crypto) : Prop where
  endpoints : Endpoints (fun endpoint => endpoint.socket < state.freshSocket) state
  relays : ∀ relay ∈ state.relays, relay.socket < state.freshSocket

section Preservation

variable {state after : State crypto} {action : Action}

/-- The sockets that relay-back tasks read stay the same. -/
theorem SameRelays.lt_of_lt (same : SameRelays state after) {bound : Nat}
    (held : ∀ relay ∈ state.relays, relay.socket < bound) :
    ∀ relay ∈ after.relays, relay.socket < bound := by
  intro kept member
  obtain ⟨relay, relayMember, _, socket, _⟩ := same kept member
  rw [socket]
  exact held relay relayMember

/-- Socket numbers only go up. -/
theorem sockets_le (taken : step setting state action = some after) :
    state.freshSocket ≤ after.freshSocket := by
  cases took_of_step taken with
  | environment weakens same tasks sends sockets => exact Nat.le_of_eq sockets.symm
  | moved task pc weakens same moves sends sockets ran flow => exact sockets
  | created => exact Nat.le_succ _
  | replied id relay kept salt datagram packet found weakens relays tasks sockets =>
      exact Nat.le_of_eq sockets.symm
  | arrived | forwarded | spawned | established | sent => exact Nat.le_refl _

theorem Bound.preserved (bound : Bound state) (taken : step setting state action = some after) :
    Bound after := by
  have grows := sockets_le taken
  have known := bound.endpoints.mono fun _ below => Nat.lt_of_lt_of_le below grows
  have read : ∀ relay ∈ state.relays, relay.socket < after.freshSocket := fun relay member =>
    Nat.lt_of_lt_of_le (bound.relays relay member) grows
  constructor
  case endpoints =>
    apply known.preserved _ taken
    exact fun _ _ _ _ _ _ _ fresh => fresh
  case relays =>
    cases took_of_step taken with
    | environment weakens same tasks sends sockets => exact same.lt_of_lt read
    | moved task pc weakens same moves sends sockets ran flow => exact same.lt_of_lt read
    | spawned task key endpoint plaintext here =>
        intro relay member
        rcases List.mem_append.mp member with old | new
        · exact read relay old
        · rw [List.mem_singleton.mp new]
          exact known.tasks task endpoint (by rw [here]; rfl)
    | created task purpose plaintext isIpv6 target rest here resolved =>
        rw [(created_frame _ _ _ _ _).2.1]
        exact read
    | replied id relay kept salt datagram packet found weakens relays tasks sockets source socket =>
        intro other member
        rw [relays] at member
        rcases List.mem_or_eq_of_mem_set member with old | rfl
        · exact read other old
        · rw [socket]
          exact read relay (List.mem_iff_getElem?.mpr ⟨id, found⟩)
    | arrived | forwarded | established | sent => exact read

/-! ## Keeping and losing the reader -/

/-- Steps that only lose sessions, endpoints, or tasks with their session. -/
theorem Answerable.of_weakens (answerable : Answerable state) (weakens : Weakens state after) :
    Answerable after := by
  intro source session endpoint cached pooled
  have earlier := weakens.sessions source session cached
  obtain ⟨relay, member, running, from_, socket, cipher⟩ :=
    answerable source session endpoint earlier (weakens.pool source endpoint pooled)
  -- A task that stopped took the session of its source with it.
  rcases weakens.relays relay member running with
    ⟨kept, keptMember, keptRunning, keptSource, keptSocket, keptKey⟩ | gone
  · refine ⟨kept, keptMember, keptRunning, ?_, ?_, ?_⟩
    · rw [keptSource, from_]
    · rw [keptSocket, socket]
    · rw [keptKey, cipher]
  · rw [from_, cached] at gone
    cases gone

theorem Answerable.preserved (answerable : Answerable state) (keeps : KeepsReader state action)
    (taken : step setting state action = some after) : Answerable after := by
  cases took_of_step taken with
  | environment weakens => exact answerable.of_weakens weakens
  | moved task pc weakens => exact answerable.of_weakens weakens
  | replied id relay kept salt datagram packet found weakens => exact answerable.of_weakens weakens
  | arrived | forwarded | sent => exact answerable
  | spawned task key endpoint plaintext here =>
      intro source session endpoint cached pooled
      obtain ⟨relay, member, reads⟩ := answerable source session endpoint cached pooled
      exact ⟨relay, List.mem_append_left _ member, reads⟩
  | established task key endpoint relayAbort plaintext here =>
      intro source session pooled cached found
      rcases established_sessions cached with ⟨rfl, sameKey⟩ | earlier
      · rw [sameKey]
        exact keeps.insert task key endpoint relayAbort plaintext rfl here pooled found
      · exact answerable source session pooled earlier found
  | created task purpose plaintext isIpv6 target rest here resolved =>
      obtain ⟨sessions, relays, _⟩ := created_frame state task purpose plaintext
        ⟨state.freshSocket, target, isIpv6, purpose.dialTarget⟩
      intro source session endpoint cached pooled
      rw [sessions] at cached
      by_cases same : source = state.sourceOf task
      · subst same
        rw [keeps.create task isIpv6 target rest rfl] at cached
        cases cached
      · have kept : state.pool source = some endpoint := by
          simpa [State.created, same] using pooled
        obtain ⟨relay, member, reads⟩ := answerable source session endpoint cached kept
        exact ⟨relay, by rw [relays]; exact member, reads⟩

end Preservation

end Juicity.Server.Underlay
