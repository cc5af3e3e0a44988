import Juicity.Client.Reconnect.Model
import Juicity.Common.UnderlayAuth

/-!
Owns the model of `send_underlay_auth` in `client/src/client.rs` beside the
reconnect protocol: any number of senders, each of which first runs `connect`
as the caller of its own number, then locks `auth_uni_stream` and writes one
message on the stream it finds there. A stream is named by its connection. The
leader takes the same lock for the two statements that clear and fill the cell.
The lock's queue is left out: a free lock is taken by any task that asks.
-/

namespace Juicity.Client.AuthStream

open Juicity.Common
open Juicity.Machine

/-- Where a `send_underlay_auth` call stands. -/
inductive SenderPc where
  | idle
  | connecting (auth : UnderlayAuth)
  | locking (auth : UnderlayAuth)
  | writing (auth : UnderlayAuth) (stream : Nat)
  | returned (result : Except String Unit)
  | dropped

/-- `shared` holds the two cells and the reconnect record; `authLock` is the
sender that holds the guard of `auth_uni_stream`. -/
structure State where
  shared : Reconnect.State
  authLock : Option Nat
  senders : Nat → SenderPc

def initial : State := ⟨Reconnect.initial, none, fun _ => .idle⟩

/-- The call is about to lock `auth_uni_stream` for a store. -/
def storesAuth : Reconnect.Pc → Bool
  | .clearingAuth _ | .storingAuth _ _ => true
  | _ => false

/-- What `write_underlay_auth_async` returns when the stream answers `stream` to
the writes it is given. -/
def writeOutcome (text : AddrText) (auth : UnderlayAuth) (stream : Except String Unit) :
    Except String Unit := do
  stream
  let _ ← Protocol.writeUnderlayAuth text auth
  return ()

namespace State

def setSender (state : State) (sender : Nat) (pc : SenderPc) : State :=
  { state with senders := Function.update state.senders sender pc }

/-- The call of `connect` has returned. -/
def connected (state : State) (sender : Nat) : Option State :=
  match state.senders sender, (state.shared.callers sender).pc with
  | .connecting auth, .returned (.ok _) => some (state.setSender sender (.locking auth))
  | .connecting _, .returned (.error failure _) =>
      some (state.setSender sender (.returned (.error failure.text)))
  | .connecting _, .returned .panicked => some (state.setSender sender .dropped)
  | _, _ => none

/-- The lock of `auth_uni_stream` is taken; the guard is given up at once when
the cell is empty. -/
def lock (state : State) (sender : Nat) : Option State :=
  match state.senders sender, state.authLock with
  | .locking auth, none =>
      match state.shared.authUniStream with
      | some stream =>
          some { state.setSender sender (.writing auth stream) with authLock := some sender }
      | none =>
          some (state.setSender sender (.returned (.error "auth uni stream not available")))
  | _, _ => none

/-- The message is written or not; an error empties the cell. -/
def write (text : AddrText) (state : State) (sender : Nat) (stream : Except String Unit) :
    Option State :=
  match state.senders sender with
  | .writing auth _ =>
      match writeOutcome text auth stream with
      | .ok () => some { state.setSender sender (.returned (.ok ())) with authLock := none }
      | .error error =>
          some { state.setSender sender (.returned (.error error)) with
            authLock := none
            shared := { state.shared with authUniStream := none } }
  | _ => none

/-- The future is dropped at the lock or inside the write. -/
def drop (state : State) (sender : Nat) : Option State :=
  match state.senders sender with
  | .locking _ => some (state.setSender sender .dropped)
  | .writing _ _ => some { state.setSender sender .dropped with authLock := none }
  | _ => none

end State

/-- A sender dropped inside `connect` is its caller's `cancel`. -/
inductive Action where
  | reconnect (action : Reconnect.Action)
  | begin (sender : Nat) (auth : UnderlayAuth)
  | connected (sender : Nat)
  | lock (sender : Nat)
  | write (sender : Nat) (stream : Except String Unit)
  | drop (sender : Nat)

/-- A caller that is about to store the auth stream waits for its lock. -/
def blocked (state : State) : Reconnect.Action → Prop
  | .run caller => storesAuth (state.shared.callers caller).pc = true ∧ state.authLock ≠ none
  | _ => False

instance (state : State) (action : Reconnect.Action) : Decidable (blocked state action) := by
  cases action <;> unfold blocked <;> infer_instance

def step (text : AddrText) (state : State) : Action → Option State
  | .reconnect action =>
      if blocked state action then none
      else (Reconnect.step state.shared action).map fun shared => { state with shared := shared }
  | .begin sender auth =>
      match state.senders sender with
      | .idle =>
          (Reconnect.step state.shared (.begin sender true)).map fun shared =>
            { state.setSender sender (.connecting auth) with shared := shared }
      | _ => none
  | .connected sender => state.connected sender
  | .lock sender => state.lock sender
  | .write sender stream => state.write text sender stream
  | .drop sender => state.drop sender

end Juicity.Client.AuthStream
