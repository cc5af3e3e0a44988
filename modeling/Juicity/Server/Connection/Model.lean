import Juicity.Common.Consts
import Juicity.Common.UnderlayAuth
import Juicity.Machine.Arrival
import Juicity.Machine.Run
import Juicity.Server.Users

/-!
Owns `handle_connection` and `handle_auth` of `server/src/server.rs` for one
connection, the readers of the authenticate command in `common/src/protocol.rs`
and what `connect_to_address` of `client/src/client.rs` writes. The peer may do
anything on any number of streams; each of its streams delivers what was sent on
it in order. One action is one thing the peer does or one await of the server
that completes.

A read waits while the data ends early and the stream is not finished. The TLS
exporter is a function of the user and the password: the connection is fixed.
-/

namespace Juicity.Server.Connection

open Juicity.Common
open Juicity.Common.Protocol
open Juicity.Machine
open Juicity.Server.Users

/-! ## Wire -/

def readCommandHead : Reader (UInt8 × UInt8) := do
  let buf ← readExact 2
  return (buf.byte 0, buf.byte 1)

def readAuthenticate : Reader (Uuid × Token) := do
  let uuid ← readExact 16
  let token ← readExact 32
  return (uuid, token)

/-- What the client writes first on its unidirectional stream. -/
def authBuf (uuid : Uuid) (token : Token) : Bytes :=
  [protocolVersion, authenticateType] ++ (uuid.val ++ token.val)

/-- The error of `read_exact` at the end of a stream. -/
def eof : String := "early eof"

/-! ## The connection -/

/-- What a connection is served with. -/
structure Env where
  text : AddrText
  crate : UuidCrate
  users : Table Uuid String
  genToken : Uuid → String → Except String Token

/-- A unidirectional stream of the peer. -/
structure Uni where
  bytes : Bytes
  finished : Bool
deriving DecidableEq

def authenticationFailed : UInt32 := 0xfffffff1
def authenticationTimeout : UInt32 := 0xfffffff2

/-- Where `handle_connection` stands. -/
inductive Phase where
  | accepting
  | heading
  | identifying
  | verifying (uuid : Uuid) (token : Token) (password : String)
  | serving (uuid : Uuid)
  | closed (code : UInt32) (reason : String)
  | left (uuid : Uuid)
deriving DecidableEq

/-- `now` counts from the handshake; `taken` bytes were read of the first unidirectional
stream, `stored` went to the in-flight table and `handled` to `handle_stream`. -/
structure State where
  now : Instant
  unis : List Uni
  bis : Nat
  lost : Bool
  phase : Phase
  taken : Nat
  reading : Bool
  stored : List UnderlayAuth
  handled : List (Nat × Uuid)

def initial : State := ⟨0, [], 0, false, .accepting, 0, false, [], []⟩

inductive Action where
  | tick (elapsed : Duration)
  | openUni
  | sendUni (index : Nat) (bytes : Bytes)
  | finishUni (index : Nat)
  | openBi
  | lose
  | acceptUni
  | readHead
  | readAuthenticate
  | verify
  | fail (reason : String)
  | expire
  | readUnderlay
  | acceptBi
  | leave

namespace State

variable (state : State)

/-- The stream that `accept_uni` returns. -/
def first : Uni := state.unis.headD ⟨[], false⟩

def unread : Bytes := state.first.bytes.drop state.taken

def close (reason : String) : State := { state with phase := .closed authenticationFailed reason }

/-- The authentication has not ended. -/
def authenticating : Bool :=
  match state.phase with
  | .accepting | .heading | .identifying | .verifying _ _ _ => true
  | .serving _ | .closed _ _ | .left _ => false

end State

/-- A read of the first unidirectional stream: what it returns with the number of bytes read
then, if it returns. -/
def readUni {α : Type} (read : Reader α) (state : State) : Option (Except String (α × Nat)) :=
  match read state.unread with
  | .ok (value, rest) => some (.ok (value, state.first.bytes.length - rest.length))
  | .error reason =>
      if reason ≠ eof ∨ state.first.finished = true then some (.error reason) else none

def setUni (unis : List Uni) (index : Nat) (change : Uni → Uni) : Option (List Uni) :=
  match unis[index]? with
  | some uni => if uni.finished then none else some (unis.set index (change uni))
  | none => none

/-- `handle_auth` has the version and the type of the command. -/
def afterHead (state : State) (head : UInt8 × UInt8) (taken : Nat) : State :=
  if head.1 ≠ protocolVersion then
    state.close ("unsupported protocol version: " ++ toString head.1)
  else if head.2 ≠ authenticateType then
    state.close ("expected authenticate command, got: " ++ toString head.2)
  else { state with taken := taken, phase := .identifying }

/-- `handle_auth` has the user and his token. -/
def afterAuthenticate (env : Env) (state : State) (user : Uuid × Token) (taken : Nat) : State :=
  match env.users.lookup user.1 with
  | none => state.close ("unknown user: " ++ env.crate.display user.1)
  | some password => { state with taken := taken, phase := .verifying user.1 user.2 password }

/-- `handle_auth` has the token that was to be expected. -/
def afterVerify (env : Env) (state : State) (uuid : Uuid) (token : Token) (password : String) :
    State :=
  match env.genToken uuid password with
  | .error reason => state.close reason
  | .ok expected =>
      if expected = token then { state with phase := .serving uuid, reading := true }
      else state.close ("token mismatch for user " ++ env.crate.display uuid)

/-- What the peer does. -/
def peerStep (state : State) : Action → Option State
  | .openUni => some { state with unis := state.unis ++ [⟨[], false⟩] }
  | .sendUni index bytes =>
      (setUni state.unis index fun uni => { uni with bytes := uni.bytes ++ bytes }).map fun unis =>
        { state with unis := unis }
  | .finishUni index =>
      (setUni state.unis index fun uni => { uni with finished := true }).map fun unis =>
        { state with unis := unis }
  | .openBi => some { state with bis := state.bis + 1 }
  | .lose => some { state with lost := true }
  | _ => none

/-- What the server does. -/
def serverStep (env : Env) (state : State) : Action → Option State
  | .acceptUni =>
      match state.phase, state.unis with
      | .accepting, _ :: _ => some { state with phase := .heading }
      | _, _ => none
  | .readHead =>
      match state.phase, readUni readCommandHead state with
      | .heading, some (.ok (head, taken)) => some (afterHead state head taken)
      | .heading, some (.error reason) => some (state.close reason)
      | _, _ => none
  | .readAuthenticate =>
      match state.phase, readUni readAuthenticate state with
      | .identifying, some (.ok (user, taken)) => some (afterAuthenticate env state user taken)
      | .identifying, some (.error reason) => some (state.close reason)
      | _, _ => none
  | .verify =>
      match state.phase with
      | .verifying uuid token password => some (afterVerify env state uuid token password)
      | _ => none
  | .readUnderlay =>
      match state.phase, state.reading, readUni (readUnderlayAuth env.text) state with
      | .serving _, true, some (.ok (auth, taken)) =>
          some { state with stored := state.stored ++ [auth], taken := taken }
      | .serving _, true, some (.error _) => some { state with reading := false }
      | _, _, _ => none
  | .acceptBi =>
      match state.phase with
      | .serving uuid =>
          if state.handled.length < state.bis then
            some { state with handled := state.handled ++ [(state.handled.length, uuid)] }
          else none
      | _ => none
  | .leave =>
      match state.phase with
      | .serving uuid =>
          if state.lost then some { state with phase := .left uuid, reading := false } else none
      | _ => none
  | _ => none

def step (env : Env) (state : State) (action : Action) : Option State :=
  match action with
  | .tick elapsed => some { state with now := state.now + elapsed }
  | .fail reason => if state.authenticating && state.lost then some (state.close reason) else none
  | .expire =>
      if state.authenticating && decide (Consts.authenticateTimeout ≤ state.now) then
        some { state with phase := .closed authenticationTimeout "authentication timeout" }
      else none
  | .openUni | .sendUni _ _ | .finishUni _ | .openBi | .lose =>
      if state.lost then none else peerStep state action
  | .acceptUni | .readHead | .readAuthenticate | .verify | .readUnderlay | .acceptBi | .leave =>
      serverStep env state action

end Juicity.Server.Connection
