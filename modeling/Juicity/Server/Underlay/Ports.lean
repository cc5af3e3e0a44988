import Juicity.Server.Underlay.Endpoints

/-!
Owns the ports underlay packets are sent to. The filter looks at the port of an
auth once, when a packet proves the auth; keys and endpoints derived from it keep
that port, so nothing is sent out to port 443 later either. Replies go to the
source of the session, which no filter looks at.
-/

namespace Juicity.Server.Underlay

open Juicity.Common
open Juicity.Machine

variable {crypto : Crypto} {setting : Setting}

/-- The addresses of a `host:port` name have the port it names. -/
def Setting.KeepsPort (setting : Setting) : Prop :=
  ∀ (metadata : ProxyMetadata) (addr : SocketAddr),
    setting.resolves metadata.targetAddr addr = true → addr.port = metadata.port

/-- The key of every session and every packet passed the filter. -/
structure Filtered (setting : Setting) (state : State crypto) : Prop where
  sessions : ∀ source session, state.sessions source = some session →
    Unblocked setting session.key
  tasks : ∀ task key, (state.tasks task).pc.key? = some key → Unblocked setting key

/-- Nothing was sent out to port 443, and no endpoint is for it. -/
structure OutboundElsewhere (state : State crypto) : Prop where
  endpoints : Endpoints (fun endpoint => endpoint.target.port ≠ 443) state
  sends : ∀ key target payload, Send.outbound key target payload ∈ state.sends →
    target.port ≠ 443

/-- No packet, relay-back task or reply belongs to a client at port 443. -/
structure ClientsElsewhere (state : State crypto) : Prop where
  tasks : ∀ task, (state.tasks task).source.port ≠ 443
  relays : ∀ relay ∈ state.relays, relay.source.port ≠ 443
  sends : ∀ key salt datagram source packet,
    Send.reply key salt datagram source packet ∈ state.sends → source.port ≠ 443

/-- The action is not the arrival of a packet from port 443. -/
def ArrivesElsewhere (_ : State crypto) (action : Action) : Prop :=
  ∀ task source payload, action = .arrive task source payload → source.port ≠ 443

theorem filtered_initial : Filtered setting (initial crypto) where
  sessions := by simp [initial]
  tasks := by simp [initial, Pc.key?]

theorem outboundElsewhere_initial : OutboundElsewhere (initial crypto) where
  endpoints := endpoints_initial
  sends := by simp [initial]

theorem clientsElsewhere_initial : ClientsElsewhere (initial crypto) where
  tasks := by simp [initial]
  relays := by simp [initial]
  sends := by simp [initial]

section Preservation

variable {state after : State crypto} {action : Action}

/-- One packet moves to a place whose key passed the filter. -/
theorem Filtered.of_moves (filtered : Filtered setting state) (task : Nat) (moved : Task crypto)
    (moves : Moves state.tasks after.tasks task moved)
    (known : ∀ key, moved.pc.key? = some key → Unblocked setting key)
    (sessions : ∀ source session, after.sessions source = some session →
      Unblocked setting session.key) : Filtered setting after where
  sessions := sessions
  tasks := by
    intro other
    apply moves.forall_tasks (motive := fun _ task => ∀ key, task.pc.key? = some key →
      Unblocked setting key)
    · exact known
    · exact fun other _ => filtered.tasks other

theorem Filtered.preserved (filtered : Filtered setting state)
    (taken : step setting state action = some after) : Filtered setting after := by
  cases took_of_step taken with
  | environment weakens same tasks sends sockets =>
      constructor
      case sessions =>
        intro source session cached
        exact filtered.sessions source session (weakens.sessions source session cached)
      case tasks =>
        rw [tasks]
        exact filtered.tasks
  | arrived task source payload =>
      refine filtered.of_moves task ⟨source, payload, .arrived⟩ rfl ?_ filtered.sessions
      simp [Pc.key?]
  | moved task pc weakens same moves sends sockets ran flow =>
      apply filtered.of_moves task _ moves
      · intro key isKey
        rcases flow.key key isKey with had | ⟨session, cached, rfl⟩ | passed
        · exact filtered.tasks task key had
        · exact filtered.sessions _ session cached
        · exact passed
      · intro source session cached
        exact filtered.sessions source session (weakens.sessions source session cached)
  | forwarded task session endpoint opened here pooled opens =>
      refine filtered.of_moves task { state.tasks task with pc := .fastSending } rfl ?_
        filtered.sessions
      simp [Pc.key?]
  | spawned task key endpoint plaintext here =>
      refine filtered.of_moves task { state.tasks task with
        pc := .inserting key endpoint (some state.relays.length) plaintext } rfl ?_
        filtered.sessions
      intro other isKey
      exact filtered.tasks task other (by rw [here]; exact isKey)
  | established task key endpoint relayAbort plaintext here =>
      have passed : Unblocked setting key := filtered.tasks task key (by rw [here]; rfl)
      refine filtered.of_moves task { state.tasks task with
        pc := .sending key endpoint plaintext } rfl ?_ ?_
      · intro other isKey
        rw [← Option.some.inj isKey]
        exact passed
      · intro source session cached
        rcases established_sessions cached with ⟨_, sameKey⟩ | earlier
        · rw [sameKey]
          exact passed
        · exact filtered.sessions source session earlier
  | sent task key endpoint plaintext here =>
      refine filtered.of_moves task
        { state.tasks task with pc := .awaiting endpoint.target } rfl ?_ filtered.sessions
      simp [Pc.key?]
  | created task purpose plaintext isIpv6 target rest here resolved =>
      obtain ⟨pc, moves, _, key?⟩ := moves_created state task purpose plaintext
        ⟨state.freshSocket, target, isIpv6, purpose.dialTarget⟩
      apply filtered.of_moves task _ moves
      · intro key isKey
        have same : some key = some purpose.key := isKey.symm.trans key?
        rw [Option.some.inj same]
        exact filtered.tasks task purpose.key (by rw [here]; rfl)
      · rw [(created_frame _ _ _ _ _).1]
        exact filtered.sessions
  | replied id relay kept salt datagram packet found weakens relays tasks sockets source socket
      key relayed sealed sends written =>
      constructor
      case sessions =>
        intro source session cached
        exact filtered.sessions source session (weakens.sessions source session cached)
      case tasks =>
        rw [tasks]
        exact filtered.tasks

/-- A send is an old one, goes to an endpoint in use, or is a reply to the source
of a relay-back task. -/
theorem mem_sends {send : Send crypto} (taken : step setting state action = some after)
    (member : send ∈ after.sends) : send ∈ state.sends ∨
      (∃ key endpoint payload, send = .outbound key endpoint.target payload ∧
        ((∃ source, state.getSocket source = some endpoint) ∨
          ∃ task, (state.tasks task).pc.endpoint? = some endpoint)) ∨
      ∃ relay ∈ state.relays, ∃ salt datagram packet,
        send = .reply relay.key salt datagram relay.source packet := by
  cases took_of_step taken with
  | environment weakens same tasks sends sockets => exact .inl (by rw [← sends]; exact member)
  | moved task pc weakens same moves sends => exact .inl (by rw [← sends]; exact member)
  | arrived | spawned | established => exact .inl member
  | created task purpose plaintext isIpv6 target rest here resolved =>
      left
      rw [(created_frame _ _ _ _ _).2.2] at member
      exact member
  | forwarded task session endpoint opened here pooled opens =>
      rcases List.mem_append.mp member with old | new
      · exact .inl old
      · right
        left
        exact ⟨session.key, endpoint, _, List.mem_singleton.mp new, .inl ⟨_, pooled⟩⟩
  | sent task key endpoint plaintext here =>
      rcases List.mem_append.mp member with old | new
      · exact .inl old
      · right
        left
        exact ⟨key, endpoint, plaintext, List.mem_singleton.mp new, .inr ⟨task, by rw [here]; rfl⟩⟩
  | replied id relay kept salt datagram packet found weakens relays tasks sockets source socket
      key relayed sealed sends written =>
      rw [sends] at member
      rcases List.mem_append.mp member with old | new
      · exact .inl old
      · right
        right
        exact ⟨relay, List.mem_iff_getElem?.mpr ⟨id, found⟩, salt, datagram, packet,
          List.mem_singleton.mp new⟩

theorem OutboundElsewhere.preserved (elsewhere : OutboundElsewhere state)
    (filtered : Filtered setting state) (disabled : setting.disableUdp443 = true)
    (keepsPort : setting.KeepsPort) (taken : step setting state action = some after) :
    OutboundElsewhere after where
  endpoints := by
    apply elsewhere.endpoints.preserved _ taken
    intro task purpose plaintext target isIpv6 here resolved _
    have passed : Unblocked setting purpose.key :=
      filtered.tasks task purpose.key (by rw [here]; rfl)
    have port : target.port = purpose.key.auth.metadata.port := by
      apply keepsPort
      rw [← purpose.dialTarget_eq]
      exact resolved
    show target.port ≠ 443
    rw [port]
    exact passed disabled
  sends := by
    intro key target payload member
    rcases mem_sends taken member with old | ⟨_, endpoint, _, same, used⟩ | ⟨_, _, _, _, _, same⟩
    · exact elsewhere.sends key target payload old
    · obtain ⟨rfl, rfl, rfl⟩ := Send.outbound.inj same
      rcases used with ⟨source, pooled⟩ | ⟨task, has⟩
      · exact elsewhere.endpoints.pool source endpoint pooled
      · exact elsewhere.endpoints.tasks task endpoint has
    · cases same

/-- A packet has the source it arrived from. -/
theorem source_of_step (taken : step setting state action = some after) (task : Nat) :
    (after.tasks task).source = (state.tasks task).source ∨
      ∃ payload, action = .arrive task (after.tasks task).source payload := by
  have still : ∀ mover moved, Moves state.tasks after.tasks mover moved →
      moved.source = (state.tasks mover).source →
        (after.tasks task).source = (state.tasks task).source :=
    fun _ _ moves kept => moves.view_eq Task.source kept task
  cases took_of_step taken with
  | environment weakens same tasks sends sockets => exact .inl (by rw [tasks])
  | arrived mover source payload =>
      have moves : Moves state.tasks (Function.update state.tasks mover ⟨source, payload, .arrived⟩)
          mover ⟨source, payload, .arrived⟩ := rfl
      by_cases same : task = mover
      · right
        subst same
        exact ⟨payload, by simp⟩
      · exact .inl (by simp [same])
  | moved mover pc weakens same moves => exact .inl (still mover _ moves rfl)
  | forwarded mover => exact .inl (still mover _ rfl rfl)
  | spawned mover => exact .inl (still mover _ rfl rfl)
  | established mover => exact .inl (still mover _ rfl rfl)
  | sent mover => exact .inl (still mover _ rfl rfl)
  | created mover purpose plaintext isIpv6 target rest here resolved =>
      obtain ⟨pc, moves, _⟩ := moves_created state mover purpose plaintext
        ⟨state.freshSocket, target, isIpv6, purpose.dialTarget⟩
      exact .inl (still mover _ moves rfl)
  | replied id relay kept salt datagram packet found weakens relays tasks =>
      exact .inl (by rw [tasks])

/-- A relay-back task has the source of the packet that spawned it. -/
theorem relay_source_of_step {relay : Relay crypto} (taken : step setting state action = some after)
    (member : relay ∈ after.relays) :
    (∃ old ∈ state.relays, relay.source = old.source) ∨
      ∃ task, relay.source = (state.tasks task).source := by
  have still : SameRelays state after → ∃ old ∈ state.relays, relay.source = old.source := by
    intro same
    obtain ⟨old, oldMember, source, _⟩ := same relay member
    exact ⟨old, oldMember, source⟩
  cases took_of_step taken with
  | environment weakens same => exact .inl (still same)
  | moved mover pc weakens same => exact .inl (still same)
  | arrived | forwarded | established | sent => exact .inl ⟨relay, member, rfl⟩
  | created =>
      rw [(created_frame _ _ _ _ _).2.1] at member
      exact .inl ⟨relay, member, rfl⟩
  | spawned mover key endpoint plaintext here =>
      rcases List.mem_append.mp member with old | new
      · exact .inl ⟨relay, old, rfl⟩
      · right
        rw [List.mem_singleton.mp new]
        exact ⟨mover, rfl⟩
  | replied id old kept salt datagram packet found weakens relays tasks sockets source =>
      left
      rw [relays] at member
      rcases List.mem_or_eq_of_mem_set member with stays | rfl
      · exact ⟨relay, stays, rfl⟩
      · exact ⟨old, List.mem_iff_getElem?.mpr ⟨id, found⟩, source⟩

theorem ClientsElsewhere.preserved (elsewhere : ClientsElsewhere state)
    (arrives : ArrivesElsewhere state action) (taken : step setting state action = some after) :
    ClientsElsewhere after := by
  constructor
  case tasks =>
    intro task
    rcases source_of_step taken task with kept | ⟨payload, arrived⟩
    · rw [kept]
      exact elsewhere.tasks task
    · exact arrives task _ payload arrived
  case relays =>
    intro relay member
    rcases relay_source_of_step taken member with ⟨old, listed, source⟩ | ⟨task, source⟩
    · rw [source]
      exact elsewhere.relays old listed
    · rw [source]
      exact elsewhere.tasks task
  case sends =>
    intro key salt datagram source packet member
    rcases mem_sends taken member with old | ⟨_, _, _, same, _⟩ | ⟨relay, listed, _, _, _, same⟩
    · exact elsewhere.sends key salt datagram source packet old
    · cases same
    · obtain ⟨rfl, rfl, rfl, rfl, rfl⟩ := Send.reply.inj same
      exact elsewhere.relays relay listed

end Preservation

/-- With the filter on, underlay packets are never sent out to port 443. -/
theorem outboundElsewhere_of_reachable (disabled : setting.disableUdp443 = true)
    (keepsPort : setting.KeepsPort) {state : State crypto}
    (reached : Reachable (step setting) (initial crypto) state) : OutboundElsewhere state := by
  have both : Filtered setting state ∧ OutboundElsewhere state := by
    apply reached.invariant ⟨filtered_initial, outboundElsewhere_initial⟩
    intro state action after held taken
    exact ⟨held.1.preserved taken, held.2.preserved held.1 disabled keepsPort taken⟩
  exact both.2

end Juicity.Server.Underlay
