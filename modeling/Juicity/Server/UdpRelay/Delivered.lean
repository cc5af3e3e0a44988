import Juicity.Machine.Run
import Juicity.Server.UdpRelay.Uplink

/-!
Owns what a stream of the relay sends on. The relay reads, resolves and sends
one datagram after the other; whatever the other streams, the lookups and the
timeouts do in between, it has sent some of the datagrams that its bytes
contain, in their order and from the first on.
-/

namespace Juicity.Server.UdpRelay

open Juicity.Common
open Juicity.Machine

variable {text : AddrText} {setting : Setting}

/-- The datagrams the first payload and the bytes after it give for a name. -/
def fromFirst (text : AddrText) (name : Name) (input : Bytes) : List (Name × Bytes) :=
  match readPayload input with
  | .ok (payload, rest) => (name, payload) :: ((laterDatagrams text).readAll rest).1
  | .error _ => []

/-- The datagrams from the one whose name is resolved on. -/
def fromResolving (text : AddrText) (name : Name) (datagram : Datagram) (input : Bytes) :
    List (Name × Bytes) :=
  match datagram with
  | .first => fromFirst text name input
  | .later payload => (name, payload) :: ((laterDatagrams text).readAll input).1

/-- The datagrams a stream has not sent yet. -/
def upcoming (text : AddrText) (stream : Stream) : List (Name × Bytes) :=
  match stream.pc with
  | .opening => (relayDatagrams text stream.input).1
  | .resolving name datagram | .lookingUp name datagram =>
      fromResolving text name datagram stream.input
  | .dialing name _ | .filling name _ => fromFirst text name stream.input
  | .sendingFirst | .reading | .sending => ((laterDatagrams text).readAll stream.input).1
  | .idle | .finished _ => []

/-- The datagrams sent for a stream. -/
def sentFor (state : State) (id : Nat) : List (Name × Bytes) :=
  (state.sends.filter fun sent => sent.stream == id).map fun sent => (sent.name, sent.payload)

/-- What was sent for a stream and what will be when nothing fails. -/
def delivery (text : AddrText) (state : State) (id : Nat) : List (Name × Bytes) :=
  sentFor state id ++ upcoming text (state.streams id)

/-- Opened streams stay open and get no new datagrams, and nothing is sent for
the others. -/
structure Shortens (text : AddrText) (state after : State) : Prop where
  opened : ∀ id, (state.streams id).pc ≠ .idle →
    delivery text after id <+: delivery text state id ∧ (after.streams id).pc ≠ .idle
  idle : ∀ id, (after.streams id).pc = .idle → sentFor after id = sentFor state id

theorem Shortens.trans {first second third : State} (early : Shortens text first second)
    (late : Shortens text second third) : Shortens text first third where
  opened := by
    intro id opened
    obtain ⟨before, stillOpened⟩ := early.opened id opened
    obtain ⟨later, isOpened⟩ := late.opened id stillOpened
    exact ⟨later.trans before, isOpened⟩
  idle := by
    intro id idle
    have wasIdle : (second.streams id).pc = .idle := by
      by_contra opened
      exact (late.opened id opened).2 idle
    exact (late.idle id idle).trans (early.idle id wasIdle)

/-- Only the tables change. -/
theorem shortens_of_same {state after : State} (streams : after.streams = state.streams)
    (sends : after.sends = state.sends) : Shortens text state after := by
  constructor
  case opened =>
    intro id opened
    unfold delivery sentFor
    rw [streams, sends]
    exact ⟨List.prefix_rfl, opened⟩
  case idle =>
    intro id _
    unfold sentFor
    rw [sends]

/-- The first datagram is read as its address and the rest. -/
theorem relayDatagrams_of_addr {input rest : Bytes} {host : String} {port : UInt16}
    (read : Protocol.readTrojancAddr text input = .ok ((host, port), rest)) :
    (relayDatagrams text input).1 = fromFirst text ⟨host, port⟩ rest := by
  have first : readFirstDatagram text input =
      (readPayload rest).map fun pair => ((⟨host, port⟩, pair.1), pair.2) := by
    simp only [readFirstDatagram, bind, StateT.bind, read, Except.bind]
    cases readPayload rest with
    | ok pair => rfl
    | error error => rfl
  unfold relayDatagrams fromFirst
  rw [first]
  cases readPayload rest with
  | ok pair => rfl
  | error error => rfl

section Moves

variable {state : State} {id : Nat} {name : Name} {payload : Bytes} {stream : Stream}

/-- One stream goes on and adds nothing. -/
theorem shortens_setStream (opened : stream.pc ≠ .idle)
    (fewer : upcoming text stream <+: upcoming text (state.streams id)) :
    Shortens text state (state.setStream id stream) := by
  constructor
  case opened =>
    intro other wasOpened
    unfold delivery sentFor State.setStream
    dsimp only
    by_cases same : other = id
    · subst same
      rw [Function.update_self]
      exact ⟨(List.prefix_append_right_inj _).mpr fewer, opened⟩
    · rw [Function.update_of_ne same]
      exact ⟨List.prefix_rfl, wasOpened⟩
  case idle => exact fun _ _ => rfl

theorem setStream_setStream {other : Stream} :
    (state.setStream id stream).setStream id other = state.setStream id other := by
  unfold State.setStream
  rw [Function.update_idem]

/-- One stream goes on with the same datagrams ahead. -/
theorem shortens_advance (opened : stream.pc ≠ .idle)
    (same : upcoming text stream = upcoming text (state.streams id)) :
    Shortens text state (state.setStream id stream) :=
  shortens_setStream opened (same ▸ List.prefix_rfl)

theorem sentFor_send {target : SocketAddr} {other : Nat} :
    sentFor { state with sends := state.sends ++ [⟨id, name, target, payload⟩] } other =
      if other = id then sentFor state other ++ [(name, payload)] else sentFor state other := by
  unfold sentFor
  dsimp only
  rw [List.filter_append, List.map_append]
  by_cases same : other = id
  · simp [same]
  · simp [same, Ne.symm same]

/-- One stream goes on and sends its next datagram. -/
theorem shortens_send {target : SocketAddr} (opened : stream.pc ≠ .idle)
    (next : (name, payload) :: upcoming text stream = upcoming text (state.streams id)) :
    Shortens text state { state.setStream id stream with
      sends := state.sends ++ [⟨id, name, target, payload⟩] } := by
  have sent : ∀ other, sentFor { state.setStream id stream with
      sends := state.sends ++ [⟨id, name, target, payload⟩] } other =
        if other = id then sentFor state other ++ [(name, payload)]
        else sentFor state other :=
    fun other => sentFor_send
  constructor
  case opened =>
    intro other wasOpened
    unfold delivery
    rw [sent]
    unfold State.setStream
    dsimp only
    by_cases same : other = id
    · subst same
      rw [if_pos rfl, Function.update_self, List.append_assoc]
      exact ⟨(List.prefix_append_right_inj _).mpr (next ▸ List.prefix_rfl), opened⟩
    · rw [if_neg same, Function.update_of_ne same]
      exact ⟨List.prefix_rfl, wasOpened⟩
  case idle =>
    intro other isIdle
    rw [sent, if_neg]
    rintro rfl
    have self : (state.setStream other stream).streams other = stream := Function.update_self ..
    rw [← self] at opened
    exact opened isIdle

theorem shortens_finish {error : Option String} :
    Shortens text state (state.setPc id (.finished error)) :=
  shortens_setStream (by simp) List.nil_prefix

theorem shortens_fail {datagram : Datagram} {error : String} :
    Shortens text state (state.fail id datagram error) := by
  cases datagram with
  | first => exact shortens_finish
  | later payload => exact shortens_finish

theorem shortens_sendLater {target : SocketAddr}
    (next : (name, payload) :: ((laterDatagrams text).readAll (state.streams id).input).1 =
      upcoming text (state.streams id)) :
    Shortens text state (state.sendLater id name target payload) :=
  shortens_send (by simp) next

theorem shortens_resolved {datagram : Datagram} {target : SocketAddr}
    (opened : (state.streams id).pc ≠ .idle)
    (here : upcoming text (state.streams id) =
      fromResolving text name datagram (state.streams id).input) :
    Shortens text state (state.resolved id name datagram target) := by
  cases datagram with
  | first => exact shortens_advance (by simp) here.symm
  | later payload =>
      have cached : Shortens text state (state.setStream id { state.streams id with
          localResolved := (state.streams id).localResolved.insert name target }) :=
        shortens_setStream opened List.prefix_rfl
      apply cached.trans
      apply shortens_sendLater
      unfold State.setStream
      dsimp only
      rw [Function.update_self]
      exact here.symm

theorem shortens_resolve {datagram : Datagram}
    (here : (state.streams id).pc = .resolving name datagram) :
    Shortens setting.text state (state.resolve setting id name datagram) := by
  have opened : (state.streams id).pc ≠ .idle := by simp [here]
  have unread : upcoming setting.text (state.streams id) =
      fromResolving setting.text name datagram (state.streams id).input := by
    rw [upcoming, here]
  unfold State.resolve
  split
  · exact shortens_resolved opened unread
  · split
    · exact shortens_resolved opened unread
    · have pruned : Shortens setting.text state
          { state with dnsCache := state.dnsCache.swapRemove name } := shortens_of_same rfl rfl
      dsimp only
      split
      · exact pruned
      · have looking : Shortens setting.text { state with
            dnsCache := state.dnsCache.swapRemove name }
            (State.setPc { state with dnsCache := state.dnsCache.swapRemove name } id
              (.lookingUp name datagram)) :=
          shortens_advance (by simp) unread.symm
        exact (pruned.trans looking).trans (shortens_of_same rfl rfl)

theorem shortens_release : Shortens text state (state.release name) := shortens_of_same rfl rfl

theorem shortens_lookedUp {datagram : Datagram} {answer : Except String (List IpAddr)}
    (here : (state.streams id).pc = .lookingUp name datagram) :
    Shortens text state (state.lookedUp id name datagram answer) := by
  have opened : (state.streams id).pc ≠ .idle := by simp [here]
  have unread : upcoming text (state.streams id) =
      fromResolving text name datagram (state.streams id).input := by
    rw [upcoming, here]
  unfold State.lookedUp
  split
  · rename_i ip _
    have kept : Shortens text state ((state.remember name ⟨ip, name.port⟩).release name) :=
      shortens_of_same rfl rfl
    apply kept.trans
    exact shortens_resolved opened unread
  · exact shortens_release.trans shortens_fail
  · exact shortens_release.trans shortens_fail

theorem shortens_openFirst (here : (state.streams id).pc = .opening) :
    Shortens setting.text state (state.openFirst setting id) := by
  unfold State.openFirst
  split
  · rename_i host port rest read
    split
    · exact shortens_finish
    · have unread : upcoming setting.text (state.streams id) =
          fromFirst setting.text ⟨host, port⟩ rest := by
        rw [upcoming, here]
        exact relayDatagrams_of_addr read
      exact shortens_advance (by simp) unread.symm
  · exact shortens_finish

theorem shortens_fillFirst {target : SocketAddr}
    (here : (state.streams id).pc = .filling name target) :
    Shortens text state (state.fillFirst id name target) := by
  unfold State.fillFirst
  split
  · rename_i payload rest read
    have unread : upcoming text (state.streams id) =
        (name, payload) :: ((laterDatagrams text).readAll rest).1 := by
      rw [upcoming, here]
      show fromFirst text name (state.streams id).input = _
      rw [fromFirst, read]
    exact shortens_send (by simp) unread.symm
  · exact shortens_finish

theorem shortens_readLater (here : (state.streams id).pc = .reading) :
    Shortens setting.text state (state.readLater setting id) := by
  have unread : upcoming setting.text (state.streams id) =
      ((laterDatagrams setting.text).readAll (state.streams id).input).1 := by
    rw [upcoming, here]
  unfold State.readLater
  split
  · rename_i name payload rest read
    have next : ((laterDatagrams setting.text).readAll (state.streams id).input).1 =
        (name, payload) :: ((laterDatagrams setting.text).readAll rest).1 :=
      congrArg Prod.fst (FrameReader.readAll_of_ok read)
    have self : (state.setStream id { state.streams id with input := rest }).streams id =
        { state.streams id with input := rest } := Function.update_self ..
    dsimp only
    split
    · unfold State.sendLater State.setPc
      rw [self, setStream_setStream]
      exact shortens_send (by simp) (unread.trans next).symm
    · unfold State.setPc
      rw [self, setStream_setStream]
      exact shortens_advance (by simp) (unread.trans next).symm
  · exact shortens_finish

/-- An idle stream is opened. -/
theorem shortens_open (wasIdle : (state.streams id).pc = .idle) :
    Shortens text state (state.setStream id stream) := by
  constructor
  case opened =>
    intro other opened
    have different : other ≠ id := by
      rintro rfl
      exact opened wasIdle
    unfold delivery sentFor State.setStream
    dsimp only
    rw [Function.update_of_ne different]
    exact ⟨List.prefix_rfl, opened⟩
  case idle => exact fun _ _ => rfl

end Moves

theorem shortens_of_step {state after : State} {action : Action}
    (taken : step setting state action = some after) :
    Shortens setting.text state after := by
  cases action with
  | openStream id input =>
      simp only [step] at taken
      split at taken
      · rename_i idle
        obtain rfl := Option.some.inj taken
        exact shortens_open idle
      · cases taken
  | run id =>
      simp only [step, State.advance] at taken
      split at taken
      · rename_i here
        obtain rfl := Option.some.inj taken
        exact shortens_openFirst here
      · rename_i name datagram here
        obtain rfl := Option.some.inj taken
        exact shortens_resolve here
      · rename_i name target here
        obtain rfl := Option.some.inj taken
        exact shortens_fillFirst here
      · rename_i here
        obtain rfl := Option.some.inj taken
        exact shortens_readLater here
      · cases taken
  | tick duration =>
      obtain rfl := Option.some.inj taken
      exact shortens_of_same rfl rfl
  | timeout id =>
      simp only [step] at taken
      split at taken
      · obtain rfl := Option.some.inj taken
        exact shortens_fail
      · cases taken
  | lookedUp id answer =>
      simp only [step] at taken
      split at taken
      · rename_i name datagram here
        obtain rfl := Option.some.inj taken
        exact shortens_lookedUp here
      · cases taken
  | dialed id error =>
      simp only [step] at taken
      split at taken
      · rename_i name target here
        obtain rfl := Option.some.inj taken
        exact shortens_advance (by simp) (by rw [upcoming, upcoming, here])
      · obtain rfl := Option.some.inj taken
        exact shortens_finish
      · cases taken
  | sent id error =>
      simp only [step] at taken
      split at taken
      · rename_i here
        obtain rfl := Option.some.inj taken
        exact shortens_advance (by simp) (by rw [upcoming, upcoming, here])
      · rename_i here
        obtain rfl := Option.some.inj taken
        exact shortens_advance (by simp) (by rw [upcoming, upcoming, here])
      · obtain rfl := Option.some.inj taken
        exact shortens_finish
      · obtain rfl := Option.some.inj taken
        exact shortens_finish
      · cases taken
  | abort id =>
      simp only [step] at taken
      split at taken
      · cases taken
      · cases taken
      · obtain rfl := Option.some.inj taken
        exact shortens_release.trans shortens_finish
      · obtain rfl := Option.some.inj taken
        exact shortens_finish

theorem shortens_run {origin final : State} {history : List (State × Action)}
    (run : Run (step setting) origin history final) : Shortens setting.text origin final := by
  induction run with
  | start => exact shortens_of_same rfl rfl
  | next before taken inductionHypothesis =>
      exact inductionHypothesis.trans (shortens_of_step taken)

/-- In every run the datagrams sent for a stream are the first ones of those its
bytes contain. -/
theorem sentFor_relayDatagrams {final : State} {history : List (State × Action)}
    (run : Run (step setting) initial history final) {state : State} {id : Nat} {input : Bytes}
    (opened : (state, Action.openStream id input) ∈ history) :
    sentFor final id <+: (relayDatagrams setting.text input).1 := by
  obtain ⟨earlier, later, rfl⟩ := List.append_of_mem opened
  obtain ⟨before, after, taken, rest⟩ := run.split
  simp only [step] at taken
  split at taken
  · rename_i idle
    obtain rfl := Option.some.inj taken
    have self : (state.setStream id ⟨input, ∅, .opening⟩).streams id = ⟨input, ∅, .opening⟩ :=
      Function.update_self ..
    have unsent : sentFor state id = [] := (shortens_run before).idle id idle
    have shortened := ((shortens_run rest).opened id (by simp [self])).1
    have whole : delivery setting.text (state.setStream id ⟨input, ∅, .opening⟩) id =
        (relayDatagrams setting.text input).1 := by
      show sentFor state id ++ upcoming setting.text _ = _
      rw [unsent, self]
      rfl
    rw [whole] at shortened
    exact (List.prefix_append _ _).trans shortened
  · cases taken

/-- However much of a client's UDP session arrives, the relay sends on the first
of its datagrams, in every run. -/
theorem session_delivered (laws : AddrTextLaws setting.text) (first : Client.UdpOutboundDatagram)
    (later : List Client.UdpOutboundDatagram)
    (sendable : ∀ datagram ∈ first :: later, Sendable setting.text datagram) :
    ∃ header body, Client.writeUdpSession setting.text first later = .ok (header ++ body) ∧
      ∀ history final, Run (step setting) initial history final →
        ∀ state id front, front <+: body → (state, Action.openStream id front) ∈ history →
          sentFor final id <+: (first :: later).map (expected setting.text) := by
  obtain ⟨header, tokens, opens, -, firstFrame⟩ :=
    openUdpStream_frames laws (sendable first List.mem_cons_self)
  obtain ⟨frames, sent, laterFrames⟩ : ∃ frames,
      (later.mapM fun datagram => Client.sendUdpDatagram
        (.fromHostPort setting.text datagram.addr datagram.port) datagram.payload) = .ok frames ∧
      List.Forall₂ (Frames (readDatagram setting.text)) frames
        (later.map (expected setting.text)) :=
    mapM_frames fun datagram member => sendUdpDatagram_frames laws
      (sendable datagram (List.mem_cons_of_mem first member))
  refine ⟨header, tokens ++ frames.flatten, ?_, ?_⟩
  · unfold Client.writeUdpSession
    rw [opens, sent]
    show Except.ok _ = _
    rw [List.append_assoc]
  · intro history final run state id front part opened
    have arrived := relayDatagrams_front firstFrame laterFrames front part
    exact (sentFor_relayDatagrams run opened).trans arrived

end Juicity.Server.UdpRelay
