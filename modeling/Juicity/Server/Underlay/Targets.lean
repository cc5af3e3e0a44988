import Juicity.Server.Underlay.Endpoints

/-!
Owns where underlay packets are sent. The destination is the one of an endpoint,
and the pool finds endpoints by source only. An endpoint that a packet creates is
for the target of its own auth; one that it finds may be for another.
-/

namespace Juicity.Server.Underlay

open Juicity.Common
open Juicity.Machine

variable {crypto : Crypto} {setting : Setting}

/-- Every payload opened with the key of an auth was sent to an address of the
target of that auth. -/
def Authorised (setting : Setting) (state : State crypto) : Prop :=
  ∀ key target payload, Send.outbound key target payload ∈ state.sends →
    setting.resolves key.auth.metadata.targetAddr target = true

/-- A packet that finds an endpoint in the pool finds one for the target of the
auth whose key opens it. -/
def TakesOwn (setting : Setting) (state : State crypto) (action : Action) : Prop :=
  ∀ task key endpoint, action = .run task →
    (state.tasks task).pc.takes (state.tasks task).payload = some key →
      state.getSocket (state.sourceOf task) = some endpoint →
        setting.resolves key.auth.metadata.targetAddr endpoint.target = true

/-- Packets and their endpoints have the target of one auth, before and after
they are sent. -/
structure Matched (setting : Setting) (state : State crypto) : Prop where
  tasks : ∀ task key endpoint, (state.tasks task).pc.key? = some key →
    (state.tasks task).pc.endpoint? = some endpoint →
      setting.resolves key.auth.metadata.targetAddr endpoint.target = true
  sends : Authorised setting state

section Preservation

variable {state after : State crypto} {action : Action}

/-- One packet moves to a place where key and endpoint match. -/
theorem Matched.of_moves (matched : Matched setting state) (task : Nat) (moved : Task crypto)
    (moves : Moves state.tasks after.tasks task moved)
    (known : ∀ key endpoint, moved.pc.key? = some key → moved.pc.endpoint? = some endpoint →
      setting.resolves key.auth.metadata.targetAddr endpoint.target = true)
    (sends : Authorised setting after) : Matched setting after where
  tasks := by
    intro other
    apply moves.forall_tasks (motive := fun _ task => ∀ key endpoint,
      task.pc.key? = some key → task.pc.endpoint? = some endpoint →
        setting.resolves key.auth.metadata.targetAddr endpoint.target = true)
    · exact known
    · exact fun other _ => matched.tasks other
  sends := sends

theorem Authorised.append (authorised : Authorised setting state) {key : SessionKey crypto}
    {target : SocketAddr} {payload : Bytes}
    (resolved : setting.resolves key.auth.metadata.targetAddr target = true)
    (sends : after.sends = state.sends ++ [.outbound key target payload]) :
    Authorised setting after := by
  intro otherKey otherTarget otherPayload member
  rw [sends] at member
  rcases List.mem_append.mp member with old | new
  · exact authorised _ _ _ old
  · obtain ⟨rfl, rfl, rfl⟩ := Send.outbound.inj (List.mem_singleton.mp new)
    exact resolved

theorem Matched.preserved (matched : Matched setting state) (own : TakesOwn setting state action)
    (taken : step setting state action = some after) : Matched setting after := by
  cases took_of_step taken with
  | environment weakens same tasks sends sockets =>
      constructor
      case tasks =>
        rw [tasks]
        exact matched.tasks
      case sends =>
        rw [Authorised, sends]
        exact matched.sends
  | arrived task source payload =>
      refine matched.of_moves task ⟨source, payload, .arrived⟩ rfl ?_ matched.sends
      simp [Pc.key?]
  | moved task pc weakens same moves sends sockets ran flow =>
      apply matched.of_moves task _ moves
      · intro key endpoint isKey has
        obtain ⟨kept, had | ⟨takes, pooled⟩⟩ := flow.endpoint endpoint has
        · exact matched.tasks task key endpoint (kept.symm.trans isKey) had
        · exact own task key endpoint (ran (by simp [has])) (takes.trans isKey) pooled
      · rw [Authorised, sends]
        exact matched.sends
  | forwarded task session endpoint opened here pooled opens =>
      refine matched.of_moves task { state.tasks task with pc := .fastSending } rfl ?_ ?_
      · simp [Pc.key?]
      · refine matched.sends.append ?_ rfl
        refine own task session.key endpoint rfl ?_ pooled
        rw [here]
        simp only [Pc.takes, opens]
  | spawned task key endpoint plaintext here =>
      refine matched.of_moves task { state.tasks task with
        pc := .inserting key endpoint (some state.relays.length) plaintext } rfl ?_ matched.sends
      intro otherKey otherEndpoint isKey has
      exact matched.tasks task otherKey otherEndpoint (by rw [here]; exact isKey)
        (by rw [here]; exact has)
  | established task key endpoint relayAbort plaintext here =>
      refine matched.of_moves task { state.tasks task with
        pc := .sending key endpoint plaintext } rfl ?_ matched.sends
      intro otherKey otherEndpoint isKey has
      exact matched.tasks task otherKey otherEndpoint (by rw [here]; exact isKey)
        (by rw [here]; exact has)
  | sent task key endpoint plaintext here =>
      refine matched.of_moves task
        { state.tasks task with pc := .awaiting endpoint.target } rfl ?_ ?_
      · simp [Pc.key?]
      · refine matched.sends.append ?_ rfl
        exact matched.tasks task key endpoint (by rw [here]; rfl) (by rw [here]; rfl)
  | created task purpose plaintext isIpv6 target rest here resolved =>
      obtain ⟨pc, moves, endpoint?, key?⟩ := moves_created state task purpose plaintext
        ⟨state.freshSocket, target, isIpv6, purpose.dialTarget⟩
      apply matched.of_moves task _ moves
      · intro key endpoint isKey has
        have sameKey : some key = some purpose.key := isKey.symm.trans key?
        have sameEndpoint : some endpoint = some _ := has.symm.trans endpoint?
        rw [Option.some.inj sameKey, Option.some.inj sameEndpoint, ← purpose.dialTarget_eq]
        exact resolved
      · rw [Authorised, (created_frame _ _ _ _ _).2.2]
        exact matched.sends
  | replied id relay kept salt datagram packet found weakens relays tasks sockets source socket
      key relayed sealed sends written =>
      constructor
      case tasks =>
        rw [tasks]
        exact matched.tasks
      case sends =>
        intro otherKey target payload member
        rw [sends] at member
        rcases List.mem_append.mp member with old | new
        · exact matched.sends _ _ _ old
        · cases List.mem_singleton.mp new

end Preservation

end Juicity.Server.Underlay
