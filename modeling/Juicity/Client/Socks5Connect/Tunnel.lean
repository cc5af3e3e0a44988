import Juicity.Client.Socks5Connect.Answer
import Juicity.Server.TcpRelay

/-!
Owns one CONNECT from the application to its target: `handle_socks5` of
`client/src/local.rs`, the stream it opens, `handle_stream` and
`handle_tcp_relay` of `server/src/server.rs`, and the four copies between the
sockets and the stream.

A socket or stream delivers what was written to it, in order; it ends when its
writer was shut down or dropped, and it may fail at any time. Dropping the
writing half of a QUIC stream finishes it, so that an end may come early. The
copies of the client have smaller buffers and are the same loop; `join!` waits
for both of them whatever they return. Only the handshake and the opening of the
stream are under a deadline, which may pass at any time.
-/

namespace Juicity.Client.Socks5Connect.Tunnel

open Juicity.Common
open Juicity.Machine
open Juicity.Server
open Juicity.Server.TcpRelay (Copy Io Side)

/-- Where `handle_socks5` stands. -/
inductive Phase where
  | greeting
  | requesting
  | opening (request : Request)
  | replying (request : Request)
  | relaying (request : Request)
  | ended
deriving DecidableEq

/-- Where `handle_stream` stands. -/
inductive Served where
  | waiting
  | dialing (header : Protocol.ProxyHeader)
  | relaying (header : Protocol.ProxyHeader)
  | ended
deriving DecidableEq

/-- The connection: what the application and the target have sent, both handlers, and their
copies. `handshook` counts the bytes that the handshake took, `told` is what `handle_socks5`
itself wrote to the application. -/
structure State where
  sent : Bytes
  sentAll : Bool
  handshook : Nat
  told : Bytes
  phase : Phase
  header : Option Bytes
  client : Side → Copy
  server : Served
  relay : TcpRelay.State
  answered : Bytes
  answeredAll : Bool

inductive Action where
  | send (bytes : Bytes)
  | close
  | greet
  | ask
  | connect (opened written : Except String Unit)
  | reply (written : Bool)
  | abandon
  | copy (side : Side) (io : Io)
  | join
  | serve
  | dial (connected : Bool)
  | relay (action : TcpRelay.Action)
  | answer (bytes : Bytes)
  | answerAll

def initial : State :=
  ⟨[], false, 0, [], .greeting, none, fun _ => .initial, .waiting, TcpRelay.initial, [], false⟩

namespace State

variable (state : State)

/-- What the application sent behind the handshake. -/
def payload : Bytes := state.sent.drop state.handshook

/-- What the target was given. -/
def reached : Bytes := (state.relay.copies .toRemote).accepted

/-- What was copied to the application. -/
def returned : Bytes := (state.client .toClient).accepted

end State

/-- The copy saw the end of its source and has shut its writer down. -/
def shut (copy : Copy) : Bool :=
  match copy.pc with
  | .returned (.ok ()) => true
  | _ => false

/-- The stream to the server is finished. -/
def State.upEnds (state : State) : Bool :=
  shut (state.client .toRemote) || decide (state.phase = .ended)

/-- The stream to the client is finished. -/
def State.downEnds (state : State) : Bool :=
  shut (state.relay.copies .toClient) || state.relay.result.isSome ||
    decide (state.server = .ended)

/-- `size` bytes at most of what was written to the other end, and the end only where it is. -/
def delivers (size : Nat) (written : Bytes) (ends : Bool) (copy : Copy) : Io → Bool
  | .read chunk =>
      if chunk.isEmpty then ends && copy.delivered == written
      else decide (chunk.length ≤ size) && decide (copy.delivered ++ chunk <+: written)
  | _ => true

/-- The capacity of a `BufReader` of the client. -/
def readerCapacity : Nat := 16 * 1024

/-- The source of a copy of the client. -/
def clientDelivers (state : State) : Side → Io → Bool
  | .toRemote => delivers readerCapacity state.payload state.sentAll (state.client .toRemote)
  | .toClient => delivers readerCapacity (state.relay.copies .toClient).accepted state.downEnds
      (state.client .toClient)

/-- The source of a copy of the server. -/
def serverDelivers (state : State) : TcpRelay.Action → Bool
  | .io .toRemote io =>
      delivers TcpRelay.bufLen (state.client .toRemote).accepted state.upEnds
        (state.relay.copies .toRemote) io
  | .io .toClient io =>
      delivers TcpRelay.bufLen state.answered state.answeredAll (state.relay.copies .toClient) io
  | .tick _ | .idle => true

/-- The first byte of the connections that `handle_connection` gives to `handle_socks5`. -/
def socksVersion : UInt8 := 0x05

/-- `handle_socks5` once a greeting is there. -/
def afterGreeting (state : State) (rest : Bytes) : State :=
  { state with
    handshook := state.sent.length - rest.length
    told := methodReply
    phase := .requesting }

/-- `handle_socks5` once a request is there. -/
def afterRequest (state : State) (request : Request) (rest : Bytes) : State :=
  { state with
    handshook := state.sent.length - rest.length
    phase := if request.cmd = connectCmd then .opening request else .ended }

/-- `open_tcp_stream` has returned. -/
def afterOpen (state : State) (request : Request) (stream : Except String Bytes) : State :=
  match stream with
  | .error _ =>
      { state with told := state.told ++ connectReply LossyText.std stream request, phase := .ended }
  | .ok header => { state with header := some header, phase := .replying request }

/-- One step; both copies of the client have returned when they are joined. -/
def step (idleTimeout : Duration) (state : State) : Action → Option State
  | .send bytes => if state.sentAll then none else some { state with sent := state.sent ++ bytes }
  | .close => some { state with sentAll := true }
  | .greet =>
      match state.phase, readGreeting state.sent with
      | .greeting, .ok (_, rest) =>
          if state.sent.head? = some socksVersion then some (afterGreeting state rest) else none
      | _, _ => none
  | .ask =>
      match state.phase, readRequest LossyText.std state.payload with
      | .requesting, .ok (request, rest) => some (afterRequest state request rest)
      | _, _ => none
  | .connect opened written =>
      match state.phase with
      | .opening request =>
          some (afterOpen state request
            (openTcpStream LossyText.std opened written request.host request.port))
      | _ => none
  | .reply written =>
      match state.phase with
      | .replying request =>
          some (if written then
            { state with
              told := state.told ++ successReply LossyText.std request
              phase := .relaying request }
          else { state with phase := .ended })
      | _ => none
  | .abandon =>
      match state.phase with
      | .greeting | .requesting => some { state with phase := .ended }
      | _ => none
  | .copy side io =>
      match state.phase with
      | .relaying _ =>
          if clientDelivers state side io then
            ((state.client side).step io).map fun copy =>
              { state with client := Function.update state.client side copy }
          else none
      | _ => none
  | .join =>
      match state.phase, (state.client .toRemote).pc, (state.client .toClient).pc with
      | .relaying _, .returned _, .returned _ => some { state with phase := .ended }
      | _, _, _ => none
  | .serve =>
      match state.server, state.header with
      | .waiting, some header =>
          match Protocol.readProxyHeader LossyText.std
              (header ++ (state.client .toRemote).accepted) with
          | .ok (read, _) =>
              some { state with
                server := if read.network = Protocol.networkTcp then .dialing read else .ended }
          | .error _ => none
      | _, _ => none
  | .dial connected =>
      match state.server with
      | .dialing header =>
          some { state with server := if connected then .relaying header else .ended }
      | _ => none
  | .relay action =>
      match state.server with
      | .relaying _ =>
          if serverDelivers state action then
            (TcpRelay.step idleTimeout state.relay action).map fun relay =>
              { state with relay := relay }
          else none
      | _ => none
  | .answer bytes =>
      if state.answeredAll then none else some { state with answered := state.answered ++ bytes }
  | .answerAll => some { state with answeredAll := true }

/-! ## One copy and its source -/

/-- The copy has read a front part of what its source has, and has seen the end only where
the source has one; while it writes it has something to write. -/
structure Linked (written : Bytes) (ends : Bool) (copy : Copy) : Prop where
  front : copy.delivered <+: written
  whole : copy.eof = true → ends = true ∧ copy.delivered = written
  loaded : copy.pc ≠ .writing []

namespace Linked

variable {written more : Bytes} {ends ended : Bool} {copy after : Copy} {size : Nat} {io : Io}

theorem initial (written : Bytes) (ends : Bool) : Linked written ends Copy.initial where
  front := List.nil_prefix
  whole := fun seen => by cases seen
  loaded := TcpRelay.Pc.noConfusion

/-- A source that ended stays as it is. -/
theorem mono (linked : Linked written ends copy) (grows : written <+: more)
    (stays : ends = true → ended = true ∧ more = written) : Linked more ended copy where
  front := linked.front.trans grows
  whole := fun seen => by
    obtain ⟨finished, same⟩ := linked.whole seen
    exact ⟨(stays finished).1, same.trans (stays finished).2.symm⟩
  loaded := linked.loaded

theorem cases_of_delivers {chunk : Bytes}
    (fits : delivers size written ends copy (.read chunk) = true) :
    (chunk.length = 0 ∧ ends = true ∧ copy.delivered = written) ∨
      (chunk.length ≠ 0 ∧ copy.delivered ++ chunk <+: written) := by
  change (if chunk.isEmpty = true then ends && copy.delivered == written
    else decide (chunk.length ≤ size) && decide (copy.delivered ++ chunk <+: written)) = true at fits
  split at fits
  · rename_i empty
    obtain ⟨finished, same⟩ := Bool.and_eq_true_iff.mp fits
    exact .inl ⟨by rw [List.isEmpty_iff.mp empty]; rfl, finished, beq_iff_eq.mp same⟩
  · rename_i some
    obtain ⟨-, front⟩ := Bool.and_eq_true_iff.mp fits
    refine .inr ⟨fun zero => some ?_, of_decide_eq_true front⟩
    exact List.isEmpty_iff.mpr (List.eq_nil_of_length_eq_zero zero)

theorem read {chunk : Bytes} (linked : Linked written ends copy)
    (fits : delivers size written ends copy (.read chunk) = true) :
    Linked written ends (copy.afterRead chunk) := by
  unfold Copy.afterRead
  rcases cases_of_delivers fits with ⟨none, finished, same⟩ | ⟨more, front⟩
  · rw [if_pos none]
    exact ⟨linked.front, fun _ => ⟨finished, same⟩, TcpRelay.Pc.noConfusion⟩
  · rw [if_neg more]
    refine ⟨front, fun seen => ?_, fun writing => more ?_⟩
    rotate_left
    · rw [TcpRelay.Pc.writing.inj writing]
      rfl
    -- nothing is read behind the end
    obtain ⟨-, same⟩ := linked.whole seen
    have longer := front.length_le
    rw [← same, List.length_append] at longer
    exact absurd (by omega) more

theorem step (linked : Linked written ends copy)
    (fits : delivers size written ends copy io = true) (moves : copy.step io = some after) :
    Linked written ends after := by
  cases io with
  | read chunk =>
      simp only [Copy.step] at moves
      split at moves
      · split at moves
        · obtain rfl := Option.some.inj moves
          exact linked.read fits
        · cases moves
      · cases moves
  | write written =>
      simp only [Copy.step] at moves
      split at moves
      · split at moves
        · obtain rfl := Option.some.inj moves
          unfold Copy.afterWrite
          split
          · exact ⟨linked.front, linked.whole, TcpRelay.Pc.noConfusion⟩
          · refine ⟨linked.front, linked.whole, fun writing => ?_⟩
            dsimp only at writing
            split at writing
            · cases writing
            · rename_i some
              exact some (List.isEmpty_iff.mpr (TcpRelay.Pc.writing.inj writing))
        · cases moves
      · cases moves
  | readError error | writeError error | shutdown | shutdownError error =>
      simp only [Copy.step] at moves
      split at moves
      · obtain rfl := Option.some.inj moves
        exact ⟨linked.front, linked.whole, TcpRelay.Pc.noConfusion⟩
      · cases moves

end Linked

/-- What a copy has written only grows. -/
theorem accepted_grows {copy after : Copy} {io : Io} (moves : copy.step io = some after) :
    copy.accepted <+: after.accepted := by
  cases io with
  | read chunk =>
      simp only [Copy.step] at moves
      split at moves
      · split at moves
        · obtain rfl := Option.some.inj moves
          unfold Copy.afterRead
          split
          · exact List.prefix_rfl
          · exact List.prefix_rfl
        · cases moves
      · cases moves
  | write written =>
      simp only [Copy.step] at moves
      split at moves
      · split at moves
        · obtain rfl := Option.some.inj moves
          unfold Copy.afterWrite
          split
          · exact List.prefix_rfl
          · exact List.prefix_append _ _
        · cases moves
      · cases moves
  | readError error | writeError error | shutdown | shutdownError error =>
      simp only [Copy.step] at moves
      split at moves
      · obtain rfl := Option.some.inj moves
        exact List.prefix_rfl
      · cases moves

/-- A copy that has returned does nothing. -/
theorem not_shut_of_step {copy after : Copy} {io : Io} (moves : copy.step io = some after) :
    shut copy = false := by
  unfold shut
  split
  · rename_i returned
    cases io <;> simp [Copy.step, returned] at moves
  · rfl

/-- A copy that has shut its writer down has passed its source on. -/
theorem shut_whole {copy : Copy} {written : Bytes} {ends : Bool} (inv : copy.Invariant)
    (linked : Linked written ends copy) (done : shut copy = true) :
    ends = true ∧ copy.accepted = written := by
  unfold shut at done
  split at done
  · rename_i returned
    rw [Copy.Invariant, returned] at inv
    obtain ⟨seen, same, -⟩ := inv
    obtain ⟨finished, all⟩ := linked.whole seen
    exact ⟨finished, same.symm.trans all⟩
  · cases done

end Juicity.Client.Socks5Connect.Tunnel
