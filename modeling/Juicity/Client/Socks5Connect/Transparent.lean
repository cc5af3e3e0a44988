import Juicity.Client.Socks5Connect.Tunnel

/-!
Owns the transparency of a CONNECT: in every interleaving of the application,
both handlers, the four copies and the target, the target is given what the
application sent behind its request and the application what the target sent
behind the reply, in order and once, and an end is passed on as an end of the
whole unless a handler gave up.
-/

namespace Juicity.Client.Socks5Connect.Tunnel

open Juicity.Common
open Juicity.Machine
open Juicity.Server
open Juicity.Server.TcpRelay (Copy Io Side)

/-- The application has asked for a connection, and its payload is what follows. -/
def Asked (state : State) (request : Request) : Prop :=
  handshake LossyText.std state.sent = (methodReply, .ok (request, state.payload)) ∧
    request.cmd = connectCmd

/-- The stream starts with the header for the request. -/
def Headed (state : State) (request : Request) : Prop :=
  ∃ header, state.header = some header ∧
    Protocol.buildProxyHeader LossyText.std Protocol.networkTcp request.host request.port =
      .ok header

/-- The client has copied nothing. -/
def Fresh (state : State) : Prop := state.client = fun _ => Copy.initial

/-- What `handle_socks5` has done by the time it stands at each place. -/
def Talk (state : State) : Prop :=
  match state.phase with
  | .greeting => state.told = [] ∧ state.header = none ∧ Fresh state
  | .requesting =>
      state.told = methodReply ∧ state.header = none ∧ Fresh state ∧
        readGreeting state.sent = .ok ((), state.payload)
  | .opening request =>
      Asked state request ∧ state.told = methodReply ∧ state.header = none ∧ Fresh state
  | .replying request =>
      Asked state request ∧ state.told = methodReply ∧ Headed state request ∧ Fresh state
  | .relaying request =>
      Asked state request ∧ state.told = methodReply ++ successReply LossyText.std request ∧
        Headed state request
  | .ended =>
      (state.header = none ∧ Fresh state) ∨
        ∃ request, Asked state request ∧ Headed state request ∧
          (Fresh state ∨ state.told = methodReply ++ successReply LossyText.std request)

/-- The server has read a header that was sent, and dials what the application asked for. -/
structure Serving (state : State) : Prop where
  idle : state.header = none → state.server = .waiting
  dials : ∀ header, state.server = .dialing header ∨ state.server = .relaying header →
    ∃ request, Asked state request ∧ header = served LossyText.std request

/-- Every copy has read from the one in front of it. -/
structure Pipes (state : State) : Prop where
  client : ∀ side, (state.client side).Invariant
  server : ∀ side, (state.relay.copies side).Invariant
  fromApplication : Linked state.payload state.sentAll (state.client .toRemote)
  fromClient : Linked (state.client .toRemote).accepted state.upEnds (state.relay.copies .toRemote)
  fromTarget : Linked state.answered state.answeredAll (state.relay.copies .toClient)
  fromServer : Linked (state.relay.copies .toClient).accepted state.downEnds
    (state.client .toClient)
  joins : state.relay.result = none → TcpRelay.joined state.relay.copies = none

structure Invariant (state : State) : Prop where
  within : state.handshook ≤ state.sent.length
  talk : Talk state
  serving : Serving state
  pipes : Pipes state

section Steps

variable {state after : State} {request : Request}

theorem invariant_initial : Invariant initial where
  within := Nat.le_refl _
  talk := ⟨rfl, rfl, rfl⟩
  serving := {
    idle := fun _ => rfl
    dials := by
      rintro header (dialing | relaying)
      · cases dialing
      · cases relaying }
  pipes := {
    client := fun _ => Copy.invariant_initial
    server := fun _ => Copy.invariant_initial
    fromApplication := .initial _ _
    fromClient := .initial _ _
    fromTarget := .initial _ _
    fromServer := .initial _ _
    joins := fun _ => rfl }

/-! ## The application and the target -/

theorem payload_send (within : state.handshook ≤ state.sent.length) (bytes : Bytes) :
    { state with sent := state.sent ++ bytes }.payload = state.payload ++ bytes :=
  List.drop_append_of_le_length within

theorem Asked.send (asked : Asked state request) (within : state.handshook ≤ state.sent.length)
    (bytes : Bytes) : Asked { state with sent := state.sent ++ bytes } request := by
  refine ⟨?_, asked.2⟩
  rw [payload_send within]
  exact handshake_append asked.1 bytes

theorem Talk.send (talk : Talk state) (within : state.handshook ≤ state.sent.length)
    (bytes : Bytes) : Talk { state with sent := state.sent ++ bytes } := by
  unfold Talk at talk ⊢
  cases place : state.phase with
  | greeting =>
      rw [place] at talk
      exact talk
  | requesting =>
      rw [place] at talk
      obtain ⟨told, header, fresh, greeted⟩ := talk
      refine ⟨told, header, fresh, ?_⟩
      have whole := readGreeting_append greeted bytes
      have behind : (state.sent ++ bytes).drop state.handshook = state.payload ++ bytes :=
        List.drop_append_of_le_length within
      rwa [← behind] at whole
  | opening request | replying request | relaying request =>
      rw [place] at talk
      exact ⟨talk.1.send within bytes, talk.2⟩
  | ended =>
      rw [place] at talk
      rcases talk with before | ⟨request, asked, behind⟩
      · exact .inl before
      · exact .inr ⟨request, asked.send within bytes, behind⟩

theorem Invariant.send (inv : Invariant state) (running : state.sentAll = false) (bytes : Bytes) :
    Invariant { state with sent := state.sent ++ bytes } where
  within := by
    rw [List.length_append]
    exact Nat.le_add_right_of_le inv.within
  talk := inv.talk.send inv.within bytes
  serving := {
    idle := inv.serving.idle
    dials := by
      intro header serves
      obtain ⟨request, asked, same⟩ := inv.serving.dials header serves
      exact ⟨request, asked.send inv.within bytes, same⟩ }
  pipes := {
    inv.pipes with
    fromApplication := by
      rw [payload_send inv.within]
      refine inv.pipes.fromApplication.mono (List.prefix_append _ _) fun finished => ?_
      rw [running] at finished
      cases finished }

theorem Invariant.close (inv : Invariant state) : Invariant { state with sentAll := true } where
  within := inv.within
  talk := inv.talk
  serving := ⟨inv.serving.idle, inv.serving.dials⟩
  pipes := { inv.pipes with
    fromApplication := inv.pipes.fromApplication.mono List.prefix_rfl fun _ => ⟨rfl, rfl⟩ }

theorem Invariant.answer (inv : Invariant state) (running : state.answeredAll = false)
    (bytes : Bytes) : Invariant { state with answered := state.answered ++ bytes } where
  within := inv.within
  talk := inv.talk
  serving := ⟨inv.serving.idle, inv.serving.dials⟩
  pipes := { inv.pipes with
    fromTarget := by
      refine inv.pipes.fromTarget.mono (List.prefix_append _ _) fun finished => ?_
      rw [running] at finished
      cases finished }

theorem Invariant.answerAll (inv : Invariant state) :
    Invariant { state with answeredAll := true } where
  within := inv.within
  talk := inv.talk
  serving := ⟨inv.serving.idle, inv.serving.dials⟩
  pipes := { inv.pipes with
    fromTarget := inv.pipes.fromTarget.mono List.prefix_rfl fun _ => ⟨rfl, rfl⟩ }

/-! ## The handler of the client -/

/-- The phase moves on, and the stream to the server may end. -/
theorem Pipes.phase (pipes : Pipes state) (told : Bytes) (header : Option Bytes) (phase : Phase)
    (ended : state.phase = .ended → phase = .ended) :
    Pipes { state with told := told, header := header, phase := phase } :=
  { pipes with
    fromClient := by
      refine pipes.fromClient.mono List.prefix_rfl fun finished => ⟨?_, rfl⟩
      rcases Bool.or_eq_true_iff.mp finished with shut | done
      · exact Bool.or_eq_true_iff.mpr (.inl shut)
      · exact Bool.or_eq_true_iff.mpr (.inr (decide_eq_true (ended (of_decide_eq_true done)))) }

/-- The handshake takes bytes while nothing is copied. -/
theorem Pipes.handshook (pipes : Pipes state) (fresh : Fresh state) (handshook : Nat) :
    Pipes { state with handshook := handshook } :=
  { pipes with
    fromApplication := by
      show Linked _ _ (state.client .toRemote)
      rw [fresh]
      exact .initial _ _ }

/-- The bytes behind those that were taken. -/
theorem drop_length_sub {bytes front rest : Bytes} (shape : bytes = front ++ rest) :
    bytes.drop (bytes.length - rest.length) = rest := by
  rw [shape, List.length_append, Nat.add_sub_cancel, List.drop_left]

/-- Before there is a header the server does nothing. -/
theorem Serving.of_waiting (waiting : state.server = .waiting) : Serving state where
  idle := fun _ => waiting
  dials := by
    rintro header (dialing | relaying)
    · cases waiting.symm.trans dialing
    · cases waiting.symm.trans relaying

theorem Invariant.greet (inv : Invariant state) (place : state.phase = .greeting) {rest : Bytes}
    (taken : readGreeting state.sent = .ok ((), rest)) : Invariant (afterGreeting state rest) := by
  have talk := inv.talk
  rw [Talk, place] at talk
  obtain ⟨-, header, fresh⟩ := talk
  obtain ⟨version, methods, -, shape⟩ := greetingBytes_of_readGreeting taken
  have behind := drop_length_sub shape
  refine ⟨Nat.sub_le _ _, ⟨rfl, header, fresh, ?_⟩, .of_waiting (inv.serving.idle header), ?_⟩
  · show readGreeting state.sent = .ok ((), state.sent.drop (state.sent.length - rest.length))
    rw [behind, taken]
  · exact (inv.pipes.handshook fresh (state.sent.length - rest.length)).phase methodReply
      state.header .requesting fun finished => by cases place.symm.trans finished

theorem Invariant.ask (inv : Invariant state) (place : state.phase = .requesting) {rest : Bytes}
    (taken : readRequest LossyText.std state.payload = .ok (request, rest)) :
    Invariant (afterRequest state request rest) := by
  have talk := inv.talk
  rw [Talk, place] at talk
  obtain ⟨told, header, fresh, greeted⟩ := talk
  obtain ⟨version, reserved, destination, shape, -⟩ := readRequest_ok_iff.mp taken
  have front : state.sent = state.sent.take state.handshook ++ state.payload :=
    (List.take_append_drop _ _).symm
  rw [shape, ← List.append_assoc] at front
  have behind := drop_length_sub front
  refine ⟨Nat.sub_le _ _, ?_, .of_waiting (inv.serving.idle header), ?_⟩
  · by_cases connects : request.cmd = connectCmd
    · rw [afterRequest, if_pos connects]
      refine ⟨⟨?_, connects⟩, told, header, fresh⟩
      show handshake LossyText.std state.sent = (methodReply,
        .ok (request, state.sent.drop (state.sent.length - rest.length)))
      rw [behind, handshake, greeted]
      exact congrArg (Prod.mk methodReply) taken
    · rw [afterRequest, if_neg connects]
      exact .inl ⟨header, fresh⟩
  · exact (inv.pipes.handshook fresh (state.sent.length - rest.length)).phase state.told
      state.header (if request.cmd = connectCmd then .opening request else .ended) fun finished => by
        cases place.symm.trans finished

theorem Invariant.connect (inv : Invariant state) (place : state.phase = .opening request)
    (opened written : Except String Unit) :
    Invariant (afterOpen state request
      (openTcpStream LossyText.std opened written request.host request.port)) := by
  have talk := inv.talk
  rw [Talk, place] at talk
  obtain ⟨asked, told, header, fresh⟩ := talk
  have waiting := inv.serving.idle header
  have moves : state.phase ≠ .ended := by
    rw [place]
    exact Phase.noConfusion
  unfold afterOpen
  split
  · exact ⟨inv.within, .inl ⟨header, fresh⟩, .of_waiting waiting,
      inv.pipes.phase _ state.header .ended fun finished => absurd finished moves⟩
  · rename_i bytes stream
    refine ⟨inv.within, ⟨asked, told, ⟨bytes, rfl, ?_⟩, fresh⟩, .of_waiting waiting,
      inv.pipes.phase state.told (some bytes) (.replying request) fun finished => absurd finished moves⟩
    exact header_of_openTcpStream stream

theorem Serving.phase (serving : Serving state) (told : Bytes) (phase : Phase) :
    Serving { state with told := told, phase := phase } :=
  ⟨serving.idle, serving.dials⟩

theorem Invariant.reply (inv : Invariant state) (place : state.phase = .replying request)
    (written : Bool) :
    Invariant (if written then
      { state with
        told := state.told ++ successReply LossyText.std request
        phase := .relaying request }
    else { state with phase := .ended }) := by
  have talk := inv.talk
  rw [Talk, place] at talk
  obtain ⟨asked, told, headed, fresh⟩ := talk
  have moves : state.phase ≠ .ended := by
    rw [place]
    exact Phase.noConfusion
  split
  · refine ⟨inv.within, ⟨asked, ?_, headed⟩, inv.serving.phase _ _,
      inv.pipes.phase _ state.header (.relaying request) fun finished => absurd finished moves⟩
    show state.told ++ successReply LossyText.std request = _
    rw [told]
  · exact ⟨inv.within, .inr ⟨request, asked, headed, .inl fresh⟩, inv.serving.phase state.told _,
      inv.pipes.phase state.told state.header .ended fun finished => absurd finished moves⟩

theorem Invariant.abandon (inv : Invariant state)
    (place : state.phase = .greeting ∨ state.phase = .requesting) :
    Invariant { state with phase := .ended } := by
  have talk := inv.talk
  have before : state.header = none ∧ Fresh state := by
    rcases place with place | place
    · rw [Talk, place] at talk
      exact talk.2
    · rw [Talk, place] at talk
      exact ⟨talk.2.1, talk.2.2.1⟩
  exact ⟨inv.within, .inl before, inv.serving.phase state.told .ended,
    inv.pipes.phase state.told state.header .ended fun _ => rfl⟩

theorem Invariant.join (inv : Invariant state) (place : state.phase = .relaying request) :
    Invariant { state with phase := .ended } := by
  have talk := inv.talk
  rw [Talk, place] at talk
  obtain ⟨asked, told, headed⟩ := talk
  exact ⟨inv.within, .inr ⟨request, asked, headed, .inr told⟩, inv.serving.phase state.told .ended,
    inv.pipes.phase state.told state.header .ended fun _ => rfl⟩

/-! ## The copies of the client -/

theorem clientDelivers_toRemote {io : Io} (delivered : clientDelivers state .toRemote io = true) :
    delivers readerCapacity state.payload state.sentAll (state.client .toRemote) io = true :=
  delivered

theorem clientDelivers_toClient {io : Io} (delivered : clientDelivers state .toClient io = true) :
    delivers readerCapacity (state.relay.copies .toClient).accepted state.downEnds
      (state.client .toClient) io = true :=
  delivered

theorem Pipes.copyUp (pipes : Pipes state) (place : state.phase = .relaying request) {io : Io}
    {copy : Copy} (delivered : clientDelivers state .toRemote io = true)
    (moves : (state.client .toRemote).step io = some copy) :
    Pipes { state with client := Function.update state.client .toRemote copy } where
  client := by
    intro side
    cases side with
    | toRemote => exact (pipes.client .toRemote).preserved moves
    | toClient => exact pipes.client .toClient
  server := pipes.server
  fromApplication := pipes.fromApplication.step (clientDelivers_toRemote delivered) moves
  fromClient := by
    refine pipes.fromClient.mono (accepted_grows moves) fun finished => ?_
    -- neither a copy that shut down nor one of an ended handler moves
    rcases Bool.or_eq_true_iff.mp finished with shut | done
    · rw [not_shut_of_step moves] at shut
      cases shut
    · cases place.symm.trans (of_decide_eq_true done)
  fromTarget := pipes.fromTarget
  fromServer := pipes.fromServer
  joins := pipes.joins

theorem Pipes.copyDown (pipes : Pipes state) {io : Io} {copy : Copy}
    (delivered : clientDelivers state .toClient io = true)
    (moves : (state.client .toClient).step io = some copy) :
    Pipes { state with client := Function.update state.client .toClient copy } where
  client := by
    intro side
    cases side with
    | toRemote => exact pipes.client .toRemote
    | toClient => exact (pipes.client .toClient).preserved moves
  server := pipes.server
  fromApplication := pipes.fromApplication
  fromClient := pipes.fromClient
  fromTarget := pipes.fromTarget
  fromServer := pipes.fromServer.step (clientDelivers_toClient delivered) moves
  joins := pipes.joins

theorem Invariant.copy (inv : Invariant state) (place : state.phase = .relaying request)
    {side : Side} {io : Io} {copy : Copy} (delivered : clientDelivers state side io = true)
    (moves : (state.client side).step io = some copy) :
    Invariant { state with client := Function.update state.client side copy } where
  within := inv.within
  talk := by
    have talk := inv.talk
    rw [Talk, place] at talk
    show Talk { state with client := Function.update state.client side copy }
    rw [Talk, place]
    exact talk
  serving := ⟨inv.serving.idle, inv.serving.dials⟩
  pipes := by
    cases side with
    | toRemote => exact inv.pipes.copyUp place delivered moves
    | toClient => exact inv.pipes.copyDown delivered moves

/-! ## The handler of the server -/

/-- The server moves on, and the stream to the client may end. -/
theorem Pipes.serving (pipes : Pipes state) (server : Served) (running : state.server ≠ .ended) :
    Pipes { state with server := server } :=
  { pipes with
    fromServer := by
      refine pipes.fromServer.mono List.prefix_rfl fun finished => ⟨?_, rfl⟩
      rcases Bool.or_eq_true_iff.mp finished with shutOrOver | done
      · exact Bool.or_eq_true_iff.mpr (.inl shutOrOver)
      · exact absurd (of_decide_eq_true done) running }

theorem Invariant.serve (inv : Invariant state) (place : state.server = .waiting) {header : Bytes}
    (headed : state.header = some header) {read : Protocol.ProxyHeader} {rest : Bytes}
    (taken : Protocol.readProxyHeader LossyText.std
      (header ++ (state.client .toRemote).accepted) = .ok (read, rest)) :
    Invariant { state with
      server := if read.network = Protocol.networkTcp then .dialing read else .ended } := by
  obtain ⟨request, asked, written⟩ : ∃ request, Asked state request ∧ Headed state request := by
    have talk := inv.talk
    unfold Talk at talk
    split at talk
    · cases headed.symm.trans talk.2.1
    · cases headed.symm.trans talk.2.1
    · cases headed.symm.trans talk.2.2.1
    · exact ⟨_, talk.1, talk.2.2.1⟩
    · exact ⟨_, talk.1, talk.2.2⟩
    · rcases talk with before | ⟨request, asked, written, -⟩
      · cases headed.symm.trans before.1
      · exact ⟨request, asked, written⟩
  have same : read = served LossyText.std request := by
    obtain ⟨bytes, sent, built⟩ := written
    obtain rfl := Option.some.inj (sent.symm.trans headed)
    obtain ⟨-, opening, -⟩ := opening_of_handshake asked.1
    have framed := frames_of_buildProxyHeader LossyText.std_laws opening built
    rw [framed.whole] at taken
    exact (Prod.mk.inj (Except.ok.inj taken)).1.symm
  refine ⟨inv.within, inv.talk, ⟨fun none => ?_, ?_⟩, inv.pipes.serving _ ?_⟩
  · cases headed.symm.trans none
  · intro dialed serves
    refine ⟨request, asked, ?_⟩
    rw [← same]
    split at serves
    · rcases serves with dialing | relaying
      · exact (Served.dialing.inj dialing).symm
      · cases relaying
    · rcases serves with dialing | relaying
      · cases dialing
      · cases relaying
  · rw [place]
    exact Served.noConfusion

theorem Invariant.dial (inv : Invariant state) {header : Protocol.ProxyHeader}
    (place : state.server = .dialing header) (connected : Bool) :
    Invariant { state with server := if connected then .relaying header else .ended } := by
  refine ⟨inv.within, inv.talk, ⟨fun none => ?_, ?_⟩, inv.pipes.serving _ ?_⟩
  · cases place.symm.trans (inv.serving.idle none)
  · intro dialed serves
    obtain ⟨request, asked, same⟩ := inv.serving.dials header (.inl place)
    refine ⟨request, asked, ?_⟩
    rw [← same]
    split at serves
    · rcases serves with dialing | relaying
      · cases dialing
      · exact (Served.relaying.inj relaying).symm
    · rcases serves with dialing | relaying
      · cases dialing
      · cases relaying
  · rw [place]
    exact Served.noConfusion

/-! ## The copies of the server -/

section Relay

variable {idleTimeout : Duration} {action : TcpRelay.Action} {moved : TcpRelay.State} {io : Io}

/-- A copy of the server reads from its source. -/
theorem serverDelivers_io {side : Side} (delivered : serverDelivers state action = true)
    (mine : TcpRelay.ofSide side action = some io) :
    serverDelivers state (.io side io) = true := by
  cases action with
  | tick elapsed => cases mine
  | idle => cases mine
  | io mover operation =>
      by_cases same : mover = side
      · rw [TcpRelay.ofSide, if_pos same] at mine
        obtain rfl := Option.some.inj mine
        exact same ▸ delivered
      · rw [TcpRelay.ofSide, if_neg same] at mine
        cases mine

theorem linked_of_relay {side : Side} {size : Nat} {written : Bytes} {ends : Bool}
    (linked : Linked written ends (state.relay.copies side))
    (source : ∀ io, serverDelivers state (.io side io) = true →
      delivers size written ends (state.relay.copies side) io = true)
    (delivered : serverDelivers state action = true)
    (moves : TcpRelay.step idleTimeout state.relay action = some moved) :
    Linked written ends (moved.copies side) := by
  cases mine : TcpRelay.ofSide side action with
  | some io =>
      exact linked.step (source io (serverDelivers_io delivered mine))
        (TcpRelay.ofSide_taken moves mine)
  | none =>
      rw [TcpRelay.ofSide_untouched moves mine]
      exact linked

theorem relay_accepted_grows (side : Side)
    (moves : TcpRelay.step idleTimeout state.relay action = some moved) :
    (state.relay.copies side).accepted <+: (moved.copies side).accepted := by
  cases mine : TcpRelay.ofSide side action with
  | some io => exact accepted_grows (TcpRelay.ofSide_taken moves mine)
  | none =>
      have untouched := TcpRelay.ofSide_untouched moves mine
      exact congrArg TcpRelay.Copy.accepted untouched.symm ▸ List.prefix_rfl

/-- A copy that has shut its writer down stays as it is. -/
theorem relay_shut_stays {side : Side} (done : shut (state.relay.copies side) = true)
    (moves : TcpRelay.step idleTimeout state.relay action = some moved) :
    moved.copies side = state.relay.copies side := by
  cases mine : TcpRelay.ofSide side action with
  | some io =>
      rw [not_shut_of_step (TcpRelay.ofSide_taken moves mine)] at done
      cases done
  | none => exact TcpRelay.ofSide_untouched moves mine

theorem running_of_relay (moves : TcpRelay.step idleTimeout state.relay action = some moved) :
    state.relay.result = none := by
  cases finished : state.relay.result with
  | none => rfl
  | some result =>
      simp only [TcpRelay.step, finished] at moves
      cases moves

/-- The server joins its copies whenever one moves. -/
theorem relay_joins (before : state.relay.result = none → TcpRelay.joined state.relay.copies = none)
    (moves : TcpRelay.step idleTimeout state.relay action = some moved)
    (runs : moved.result = none) : TcpRelay.joined moved.copies = none := by
  have running := running_of_relay moves
  simp only [TcpRelay.step, running] at moves
  cases action with
  | tick elapsed =>
      obtain rfl := Option.some.inj moves
      exact before running
  | idle =>
      obtain rfl := Option.some.inj moves
      rw [TcpRelay.copies_pollIdle]
      exact before running
  | io side io =>
      obtain ⟨copy, -, rfl⟩ := Option.map_eq_some_iff.mp moves
      exact runs

theorem Pipes.relay (pipes : Pipes state) {header : Protocol.ProxyHeader}
    (place : state.server = .relaying header) (delivered : serverDelivers state action = true)
    (moves : TcpRelay.step idleTimeout state.relay action = some moved) :
    Pipes { state with relay := moved } where
  client := pipes.client
  server := fun side => TcpRelay.invariant_of_step (pipes.server side) moves
  fromApplication := pipes.fromApplication
  fromClient := linked_of_relay pipes.fromClient (fun _ fits => fits) delivered moves
  fromTarget := linked_of_relay pipes.fromTarget (fun _ fits => fits) delivered moves
  fromServer := by
    refine pipes.fromServer.mono (relay_accepted_grows .toClient moves) fun finished => ?_
    rcases Bool.or_eq_true_iff.mp finished with shutOrOver | done
    · rcases Bool.or_eq_true_iff.mp shutOrOver with shut | returned
      · have stays := relay_shut_stays shut moves
        refine ⟨?_, by rw [stays]⟩
        show (Tunnel.shut (moved.copies .toClient) || _ || _) = true
        rw [stays, shut]
        rfl
      · rw [running_of_relay moves] at returned
        cases returned
    · cases place.symm.trans (of_decide_eq_true done)
  joins := relay_joins pipes.joins moves

theorem Invariant.relay (inv : Invariant state) {header : Protocol.ProxyHeader}
    (place : state.server = .relaying header) (delivered : serverDelivers state action = true)
    (moves : TcpRelay.step idleTimeout state.relay action = some moved) :
    Invariant { state with relay := moved } where
  within := inv.within
  talk := inv.talk
  serving := ⟨inv.serving.idle, inv.serving.dials⟩
  pipes := inv.pipes.relay place delivered moves

end Relay

theorem Invariant.preserved {idleTimeout : Duration} {action : Action} (inv : Invariant state)
    (taken : step idleTimeout state action = some after) : Invariant after := by
  cases action with
  | send bytes =>
      simp only [step] at taken
      split at taken
      · cases taken
      · rename_i running
        obtain rfl := Option.some.inj taken
        exact inv.send (Bool.eq_false_of_not_eq_true running) bytes
  | close =>
      obtain rfl := Option.some.inj taken
      exact inv.close
  | greet =>
      simp only [step] at taken
      split at taken
      · split at taken
        · obtain rfl := Option.some.inj taken
          exact inv.greet ‹_› ‹_›
        · cases taken
      · cases taken
  | ask =>
      simp only [step] at taken
      split at taken
      · obtain rfl := Option.some.inj taken
        exact inv.ask ‹_› ‹_›
      · cases taken
  | connect opened written =>
      simp only [step] at taken
      split at taken
      · obtain rfl := Option.some.inj taken
        exact inv.connect ‹_› opened written
      · cases taken
  | reply written =>
      simp only [step] at taken
      split at taken
      · obtain rfl := Option.some.inj taken
        exact inv.reply ‹_› written
      · cases taken
  | abandon =>
      simp only [step] at taken
      split at taken
      · obtain rfl := Option.some.inj taken
        exact inv.abandon (.inl ‹_›)
      · obtain rfl := Option.some.inj taken
        exact inv.abandon (.inr ‹_›)
      · cases taken
  | copy side io =>
      simp only [step] at taken
      split at taken
      · split at taken
        · obtain ⟨copy, moves, rfl⟩ := Option.map_eq_some_iff.mp taken
          exact inv.copy ‹_› ‹_› moves
        · cases taken
      · cases taken
  | join =>
      simp only [step] at taken
      split at taken
      · obtain rfl := Option.some.inj taken
        exact inv.join ‹_›
      · cases taken
  | serve =>
      simp only [step] at taken
      split at taken
      · split at taken
        · obtain rfl := Option.some.inj taken
          exact inv.serve ‹_› ‹_› ‹_›
        · cases taken
      · cases taken
  | dial connected =>
      simp only [step] at taken
      split at taken
      · obtain rfl := Option.some.inj taken
        exact inv.dial ‹_› connected
      · cases taken
  | relay action =>
      simp only [step] at taken
      split at taken
      · split at taken
        · obtain ⟨relay, moves, rfl⟩ := Option.map_eq_some_iff.mp taken
          exact inv.relay ‹_› ‹_› moves
        · cases taken
      · cases taken
  | answer bytes =>
      simp only [step] at taken
      split at taken
      · cases taken
      · rename_i running
        obtain rfl := Option.some.inj taken
        exact inv.answer (Bool.eq_false_of_not_eq_true running) bytes
  | answerAll =>
      obtain rfl := Option.some.inj taken
      exact inv.answerAll

theorem invariant_of_reachable {idleTimeout : Duration}
    (reached : Reachable (step idleTimeout) initial state) : Invariant state :=
  reached.invariant invariant_initial fun _ _ _ inv taken => inv.preserved taken

end Steps

/-! ## Results -/

/-- What either end can tell. -/
structure Transparent (state : State) : Prop where
  dialed : ∀ header, state.server = .dialing header ∨ state.server = .relaying header →
    ∃ request, Asked state request ∧ header = served LossyText.std request
  upward : state.reached <+: state.payload
  asked : state.reached ≠ [] → ∃ request, Asked state request
  downward : state.returned <+: state.answered
  told : state.returned ≠ [] →
    ∃ request, Asked state request ∧
      state.told = methodReply ++ successReply LossyText.std request

section Results

variable {idleTimeout : Duration} {state : State}

theorem Invariant.reached_prefix (inv : Invariant state) : state.reached <+: state.payload := by
  have atServer : state.reached <+: (state.client .toRemote).accepted :=
    (inv.pipes.server .toRemote).front.trans inv.pipes.fromClient.front
  have atClient : (state.client .toRemote).accepted <+: state.payload :=
    (inv.pipes.client .toRemote).front.trans inv.pipes.fromApplication.front
  exact atServer.trans atClient

theorem Invariant.returned_prefix (inv : Invariant state) :
    state.returned <+: state.answered := by
  have atClient : state.returned <+: (state.relay.copies .toClient).accepted :=
    (inv.pipes.client .toClient).front.trans inv.pipes.fromServer.front
  have atServer : (state.relay.copies .toClient).accepted <+: state.answered :=
    (inv.pipes.server .toClient).front.trans inv.pipes.fromTarget.front
  exact atClient.trans atServer

/-- The client copies only behind the reply. -/
theorem Talk.told_of_accepted (talk : Talk state) {side : Side}
    (copied : (state.client side).accepted ≠ []) :
    ∃ request, Asked state request ∧
      state.told = methodReply ++ successReply LossyText.std request := by
  have stale : ¬ Fresh state := by
    intro fresh
    rw [fresh] at copied
    exact copied rfl
  unfold Talk at talk
  split at talk
  · exact absurd talk.2.2 stale
  · exact absurd talk.2.2.1 stale
  · exact absurd talk.2.2.2 stale
  · exact absurd talk.2.2.2 stale
  · exact ⟨_, talk.1, talk.2.1⟩
  · rcases talk with ⟨-, fresh⟩ | ⟨request, asked, -, fresh | told⟩
    · exact absurd fresh stale
    · exact absurd fresh stale
    · exact ⟨request, asked, told⟩

/-- In every interleaving the target is dialed that was asked for, it is given a front part of
what the application sent behind its request, and the application gets a front part of what the
target sent, behind the reply of success. -/
theorem transparent_of_reachable (reached : Reachable (step idleTimeout) initial state) :
    Transparent state := by
  have inv := invariant_of_reachable reached
  refine ⟨inv.serving.dials, inv.reached_prefix, fun some => ?_, inv.returned_prefix,
    inv.talk.told_of_accepted⟩
  have copied : (state.client .toRemote).accepted ≠ [] := by
    intro none
    have front := (inv.pipes.server .toRemote).front.trans inv.pipes.fromClient.front
    rw [none] at front
    exact some (List.prefix_nil.mp front)
  obtain ⟨request, asked, -⟩ := inv.talk.told_of_accepted copied
  exact ⟨request, asked⟩

/-- An application asks for `192.0.2.1:80` and sends two bytes, of which one arrives before the
answer and one behind it. -/
def schedule : List Action :=
  [.send [5, 1, 0], .greet, .send [5, 1, 0, 1, 192, 0, 2, 1, 0, 80, 7, 8], .ask,
    .connect (.ok ()) (.ok ()), .serve, .dial true, .reply true, .copy .toRemote (.read [7, 8]),
    .copy .toRemote (.write 1), .relay (.io .toRemote (.read [7])),
    .relay (.io .toRemote (.write 1)), .answer [9], .relay (.io .toClient (.read [9])),
    .relay (.io .toClient (.write 1)), .copy .toClient (.read [9]), .copy .toClient (.write 1),
    .copy .toRemote (.write 1), .relay (.io .toRemote (.read [8])),
    .relay (.io .toRemote (.write 1))]

theorem transparent_of_reachable_schedule :
    ∃ final, Reachable (step Consts.tcpRelayIdleTimeout) initial final ∧
      final.reached = [7, 8] ∧ final.returned = [9] ∧ Transparent final := by
  have executed : (exec (step Consts.tcpRelayIdleTimeout) initial schedule).any
      (fun final => final.reached == [7, 8] && final.returned == [9]) = true := by
    decide +kernel
  obtain ⟨final, ended, facts⟩ := (Option.any_eq_true _ _).mp executed
  simp only [Bool.and_eq_true, beq_iff_eq] at facts
  have reached := reachable_of_exec ended
  exact ⟨final, reached, facts.1, facts.2, transparent_of_reachable reached⟩

/-- An end that is passed on is the end of everything, unless the handler in the middle ended
without having passed it on itself. -/
theorem ends_of_reachable (reached : Reachable (step idleTimeout) initial state) :
    (shut (state.relay.copies .toRemote) = true →
      (state.sentAll = true ∧ state.reached = state.payload) ∨
        (state.phase = .ended ∧ shut (state.client .toRemote) = false)) ∧
    (shut (state.client .toClient) = true →
      (state.answeredAll = true ∧ state.returned = state.answered) ∨
        ((state.relay.result.isSome = true ∨ state.server = .ended) ∧
          shut (state.relay.copies .toClient) = false)) := by
  have pipes := (invariant_of_reachable reached).pipes
  constructor
  · intro done
    obtain ⟨finished, same⟩ := shut_whole (pipes.server .toRemote) pipes.fromClient done
    cases first : shut (state.client .toRemote) with
    | true =>
        obtain ⟨all, whole⟩ := shut_whole (pipes.client .toRemote) pipes.fromApplication first
        exact .inl ⟨all, same.trans whole⟩
    | false =>
        rw [State.upEnds, first, Bool.false_or] at finished
        exact .inr ⟨of_decide_eq_true finished, rfl⟩
  · intro done
    obtain ⟨finished, same⟩ := shut_whole (pipes.client .toClient) pipes.fromServer done
    cases first : shut (state.relay.copies .toClient) with
    | true =>
        obtain ⟨all, whole⟩ := shut_whole (pipes.server .toClient) pipes.fromTarget first
        exact .inl ⟨all, same.trans whole⟩
    | false =>
        rw [State.downEnds, first, Bool.false_or] at finished
        rcases Bool.or_eq_true_iff.mp finished with returned | ended
        · exact .inr ⟨.inl returned, rfl⟩
        · exact .inr ⟨.inr (of_decide_eq_true ended), rfl⟩

/-- The application closes its side, and the target sees it. -/
def closing : List Action :=
  schedule ++ [.close, .copy .toRemote (.read []), .copy .toRemote .shutdown,
    .relay (.io .toRemote (.read [])), .relay (.io .toRemote .shutdown)]

theorem ends_of_reachable_closing :
    ∃ final, Reachable (step Consts.tcpRelayIdleTimeout) initial final ∧
      final.phase ≠ .ended ∧ final.sentAll = true ∧ final.reached = final.payload := by
  have executed : (exec (step Consts.tcpRelayIdleTimeout) initial closing).any
      (fun final => decide (final.phase ≠ .ended) && shut (final.relay.copies .toRemote)) =
        true := by
    decide +kernel
  obtain ⟨final, ended, facts⟩ := (Option.any_eq_true _ _).mp executed
  obtain ⟨relays, done⟩ := Bool.and_eq_true_iff.mp facts
  have reached := reachable_of_exec ended
  rcases (ends_of_reachable reached).1 done with whole | ⟨finished, -⟩
  · exact ⟨final, reached, of_decide_eq_true relays, whole⟩
  · exact absurd finished (of_decide_eq_true relays)

end Results

/-! ## Nothing is left lying -/

/-- The operations that end a copy with an error. -/
def fails : Io → Bool
  | .readError _ | .writeError _ | .shutdownError _ => true
  | .write written => decide (written = 0)
  | .read _ | .shutdown => false

/-- Nothing can be copied. -/
def Quiet (idleTimeout : Duration) (state : State) : Prop :=
  ∀ side io, fails io = false →
    step idleTimeout state (.copy side io) = none ∧
      step idleTimeout state (.relay (.io side io)) = none

section Quiet

variable {idleTimeout : Duration} {state : State} {written : Bytes} {ends : Bool} {copy : Copy}
  {size : Nat}

/-- A copy that cannot go on has passed on everything, and the end if there is one. -/
theorem whole_of_stuck (positive : 0 < size) (small : size ≤ TcpRelay.bufLen)
    (inv : copy.Invariant) (linked : Linked written ends copy)
    (sound : ∀ error, copy.pc ≠ .returned (.error error))
    (stuck : ∀ io, fails io = false → delivers size written ends copy io = true →
      copy.step io = none) :
    copy.accepted = written ∧ (ends = true → shut copy = true) := by
  cases place : copy.pc with
  | reading =>
      have same : copy.delivered = written := by
        by_contra more
        obtain ⟨rest, shape⟩ := linked.front
        cases rest with
        | nil => exact more (by rw [← shape, List.append_nil])
        | cons byte rest =>
            have front : copy.delivered ++ [byte] <+: written :=
              ⟨rest, by rw [← shape, List.append_assoc]; rfl⟩
            have fits : delivers size written ends copy (.read [byte]) = true := by
              have room : decide ([byte].length ≤ size) = true := decide_eq_true positive
              show (decide ([byte].length ≤ size) && decide (copy.delivered ++ [byte] <+: written)) =
                true
              rw [room, decide_eq_true front]
              rfl
            have moves : copy.step (.read [byte]) = some (copy.afterRead [byte]) := by
              simp only [Copy.step, place]
              exact if_pos (Nat.le_trans positive small)
            rw [stuck _ rfl fits] at moves
            cases moves
      have unread := inv
      rw [Copy.Invariant, place] at unread
      refine ⟨unread.1.symm.trans same, fun finished => ?_⟩
      have fits : delivers size written ends copy (.read []) = true := by
        show (ends && copy.delivered == written) = true
        rw [finished, same, Bool.true_and, beq_self_eq_true]
      have moves : copy.step (.read []) = some (copy.afterRead []) := by
        simp only [Copy.step, place]
        exact if_pos (Nat.zero_le _)
      rw [stuck _ rfl fits] at moves
      cases moves
  | writing remaining =>
      have loaded : remaining.length ≠ 0 := by
        intro zero
        rw [List.eq_nil_of_length_eq_zero zero] at place
        exact linked.loaded place
      have fine : fails (.write remaining.length) = false := decide_eq_false loaded
      have moves : copy.step (.write remaining.length) =
          some (copy.afterWrite remaining remaining.length) := by
        simp only [Copy.step, place]
        exact if_pos (Nat.le_refl _)
      rw [stuck _ fine rfl] at moves
      cases moves
  | shuttingDown =>
      have moves : copy.step .shutdown = some (copy.afterShutdown (.ok ())) := by
        simp only [Copy.step, place]
      rw [stuck _ rfl rfl] at moves
      cases moves
  | returned result =>
      cases result with
      | error error => exact absurd place (sound error)
      | ok _ =>
          have done : shut copy = true := by
            rw [shut, place]
          exact ⟨(shut_whole inv linked done).2, fun _ => done⟩

theorem sound_of_joined {copies : Side → Copy} (running : TcpRelay.joined copies = none)
    (side : Side) (error : TcpRelay.IoError) : (copies side).pc ≠ .returned (.error error) := by
  intro failed
  unfold TcpRelay.joined at running
  split at running
  · cases running
  · cases running
  · cases running
  · rename_i remoteFine clientFine _
    cases side with
    | toRemote => exact remoteFine _ failed
    | toClient => exact clientFine _ failed

/-- While both handlers relay and nothing has failed, bytes lie nowhere on the way for ever:
once nothing can be copied, either end has everything the other sent, and its end. -/
theorem delivered_of_quiet (reached : Reachable (step idleTimeout) initial state)
    {request : Request} {header : Protocol.ProxyHeader}
    (relays : state.phase = .relaying request) (serves : state.server = .relaying header)
    (running : state.relay.result = none)
    (sound : ∀ side error, (state.client side).pc ≠ .returned (.error error))
    (quiet : Quiet idleTimeout state) :
    state.reached = state.payload ∧ state.returned = state.answered ∧
      (state.sentAll = true → shut (state.relay.copies .toRemote) = true) ∧
      (state.answeredAll = true → shut (state.client .toClient) = true) := by
  have pipes := (invariant_of_reachable reached).pipes
  have serverSound := sound_of_joined (pipes.joins running)
  have clientStuck : ∀ side io, fails io = false → clientDelivers state side io = true →
      (state.client side).step io = none := by
    intro side io fine delivered
    have stuck := (quiet side io fine).1
    simpa only [step, relays, delivered, if_true, Option.map_eq_none_iff] using stuck
  have serverStuck : ∀ side io, fails io = false → serverDelivers state (.io side io) = true →
      (state.relay.copies side).step io = none := by
    intro side io fine delivered
    have stuck := (quiet side io fine).2
    simpa only [step, serves, delivered, if_true, TcpRelay.step, running,
      Option.map_eq_none_iff] using stuck
  obtain ⟨clientUp, clientUpEnds⟩ := whole_of_stuck (by decide) (by decide)
    (pipes.client .toRemote) pipes.fromApplication (sound .toRemote) (clientStuck .toRemote)
  obtain ⟨serverUp, serverUpEnds⟩ := whole_of_stuck (by decide) (by decide)
    (pipes.server .toRemote) pipes.fromClient (serverSound .toRemote) (serverStuck .toRemote)
  obtain ⟨serverDown, serverDownEnds⟩ := whole_of_stuck (by decide) (by decide)
    (pipes.server .toClient) pipes.fromTarget (serverSound .toClient) (serverStuck .toClient)
  obtain ⟨clientDown, clientDownEnds⟩ := whole_of_stuck (by decide) (by decide)
    (pipes.client .toClient) pipes.fromServer (sound .toClient) (clientStuck .toClient)
  refine ⟨serverUp.trans clientUp, clientDown.trans serverDown, fun all => ?_, fun all => ?_⟩
  · apply serverUpEnds
    rw [State.upEnds, clientUpEnds all]
    rfl
  · apply clientDownEnds
    rw [State.downEnds, serverDownEnds all]
    rfl

/-- A copy that has read everything there is can only fail. -/
theorem stuck_of_reading (reading : copy.pc = .reading) (all : copy.delivered = written) (io : Io) :
    fails io = false → delivers size written false copy io = true → copy.step io = none := by
  intro fine fits
  cases io with
  | read chunk =>
      rcases Linked.cases_of_delivers fits with ⟨-, finished, -⟩ | ⟨some, front⟩
      · cases finished
      · have longer := front.length_le
        rw [all, List.length_append] at longer
        omega
  | readError error | writeError error | shutdownError error => cases fine
  | write written => simp only [Copy.step, reading]
  | shutdown => simp only [Copy.step, reading]

/-- The copy has read all there is so far. -/
def caughtUp (written : Bytes) (copy : Copy) : Bool :=
  match copy.pc with
  | .reading => copy.delivered == written
  | _ => false

theorem stuck_of_caughtUp (waits : caughtUp written copy = true) (io : Io) (fine : fails io = false)
    (fits : delivers size written false copy io = true) : copy.step io = none := by
  unfold caughtUp at waits
  split at waits
  · exact stuck_of_reading ‹_› (beq_iff_eq.mp waits) io fine fits
  · cases waits

/-- Both handlers relay, nobody is done, and all copies have read all there is. -/
def Waits (state : State) : Bool :=
  decide (state.phase = .relaying ⟨connectCmd, "192.0.2.1", 80⟩) &&
  decide (state.server = .relaying ⟨Protocol.networkTcp, "192.0.2.1", 80⟩) &&
  state.relay.result.isNone && !state.sentAll && !state.answeredAll &&
  caughtUp state.payload (state.client .toRemote) &&
  caughtUp (state.client .toRemote).accepted (state.relay.copies .toRemote) &&
  caughtUp state.answered (state.relay.copies .toClient) &&
  caughtUp (state.relay.copies .toClient).accepted (state.client .toClient)

theorem delivered_of_quiet_schedule :
    ∃ final, Reachable (step Consts.tcpRelayIdleTimeout) initial final ∧
      Quiet Consts.tcpRelayIdleTimeout final ∧ final.reached = final.payload ∧
      final.returned = final.answered := by
  have executed : (exec (step Consts.tcpRelayIdleTimeout) initial schedule).any Waits = true := by
    decide +kernel
  obtain ⟨final, ended, facts⟩ := (Option.any_eq_true _ _).mp executed
  simp only [Waits, Bool.and_eq_true, decide_eq_true_eq, Option.isNone_iff_eq_none,
    Bool.not_eq_eq_eq_not, Bool.not_true] at facts
  obtain ⟨⟨⟨⟨⟨⟨⟨⟨relays, serves⟩, running⟩, open'⟩, answering⟩, up⟩, serverUp⟩, serverDown⟩, down⟩ :=
    facts
  have reading : ∀ {written : Bytes} {copy : Copy}, caughtUp written copy = true →
      shut copy = false ∧ ∀ error, copy.pc ≠ .returned (.error error) := by
    intro written copy waits
    unfold caughtUp at waits
    split at waits
    · rename_i reads
      rw [shut, reads]
      exact ⟨rfl, fun _ => TcpRelay.Pc.noConfusion⟩
    · cases waits
  have upEnds : final.upEnds = false := by
    rw [State.upEnds, (reading up).1, relays]
    rfl
  have downEnds : final.downEnds = false := by
    rw [State.downEnds, (reading serverDown).1, running, serves]
    rfl
  have quiet : Quiet Consts.tcpRelayIdleTimeout final := by
    intro side io fine
    constructor
    · simp only [step, relays]
      split
      · rename_i fits
        rw [Option.map_eq_none_iff]
        cases side with
        | toRemote =>
            rw [clientDelivers, open'] at fits
            exact stuck_of_caughtUp up io fine fits
        | toClient =>
            rw [clientDelivers, downEnds] at fits
            exact stuck_of_caughtUp down io fine fits
      · rfl
    · simp only [step, serves]
      split
      · rename_i fits
        rw [Option.map_eq_none_iff]
        simp only [TcpRelay.step, running, Option.map_eq_none_iff]
        cases side with
        | toRemote =>
            rw [serverDelivers, upEnds] at fits
            exact stuck_of_caughtUp serverUp io fine fits
        | toClient =>
            rw [serverDelivers, answering] at fits
            exact stuck_of_caughtUp serverDown io fine fits
      · rfl
  have sound : ∀ side error, (final.client side).pc ≠ .returned (.error error) := by
    intro side
    cases side with
    | toRemote => exact (reading up).2
    | toClient => exact (reading down).2
  have reached := reachable_of_exec ended
  obtain ⟨whole, back, -⟩ := delivered_of_quiet reached relays serves running sound quiet
  exact ⟨final, reached, quiet, whole, back⟩

end Quiet

end Juicity.Client.Socks5Connect.Tunnel
