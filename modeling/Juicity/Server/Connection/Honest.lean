import Juicity.Server.Connection.Admission

/-!
Owns what the client of a user gets: as long as its stream carries what
`connect_to_address` and `write_underlay_auth_async` write, the server refuses
nothing, and once it has nothing left to do it has stored every auth, in order
and once, and handles every stream.
-/

namespace Juicity.Server.Connection

open Juicity.Common
open Juicity.Common.Protocol
open Juicity.Machine
open Juicity.Server.Users

/-- The server waits for the peer. -/
def Quiet (env : Env) (state : State) : Prop := ∀ action, serverStep env state action = none

/-- What a user's client has written on its stream when these auths went through. -/
def written (uuid : Uuid) (token : Token) (frames : List Bytes) : Bytes :=
  authBuf uuid token ++ frames.flatten

section Honest

variable {env : Env} {state : State} {uuid : Uuid} {token : Token} {password : String}
  {auths : List UnderlayAuth} {frames : List Bytes}

/-- The user who was let in is the one who wrote. -/
theorem behind_of_sends {other : Uuid} {otherToken : Token} {behind : Bytes}
    (shape : state.first.bytes = authBuf other otherToken ++ behind)
    (sends : state.first.bytes <+: written uuid token frames) :
    other = uuid ∧ ∃ more, behind ++ more = frames.flatten ∧
      state.first.bytes ++ more = written uuid token frames := by
  rw [shape, written] at sends ⊢
  have lengths : (authBuf other otherToken).length = (authBuf uuid token).length := by
    rw [length_authBuf, length_authBuf]
  have same : authBuf other otherToken = authBuf uuid token :=
    (List.prefix_of_prefix_length_le ((List.prefix_append _ behind).trans sends)
      (List.prefix_append _ _) (Nat.le_of_eq lengths)).eq_of_length lengths
  rw [same] at sends ⊢
  obtain ⟨more, behindMore⟩ := (List.prefix_append_right_inj _).mp sends
  exact ⟨(authBuf_inj same).1, more, behindMore, by rw [List.append_assoc, behindMore]⟩

/-- What the reads of all auths give. -/
theorem readAll_of_written (laws : AddrTextLaws env.text)
    (wrote : auths.mapM (writeUnderlayAuth env.text) = .ok frames)
    (named : ∀ auth ∈ auths, auth.metadata.hostname ≠ "") :
    (underlayAuths env.text).readAll frames.flatten = (auths.map (decoded env.text), []) :=
  FrameReader.readAll_frames (frames_of_mapM wrote fun auth member _ wrote =>
    writeUnderlayAuth_frames laws wrote (named auth member))

/-- What is stored, and what is still to be read of all auths. -/
theorem Admitted.remaining (laws : AddrTextLaws env.text)
    (wrote : auths.mapM (writeUnderlayAuth env.text) = .ok frames)
    (named : ∀ auth ∈ auths, auth.metadata.hostname ≠ "") {other : Uuid}
    (admitted : Admitted env state other)
    (sends : state.first.bytes <+: written uuid token frames) :
    other = uuid ∧ ∃ more, state.first.bytes ++ more = written uuid token frames ∧
      auths.map (decoded env.text) =
        state.stored ++ ((underlayAuths env.text).readAll (state.unread ++ more)).1 ∧
      ((underlayAuths env.text).readAll (state.unread ++ more)).2 = [] := by
  obtain ⟨otherToken, otherPassword, behind, -, keyed, shape, took⟩ := admitted.authenticated
  obtain ⟨rfl, more, same, front⟩ := behind_of_sends shape sends
  have all := (took.append incremental_underlayAuths more).readAll_eq
  rw [same, readAll_of_written laws wrote named] at all
  obtain ⟨values, rest⟩ := Prod.mk.inj all
  exact ⟨rfl, more, front, values, rest.symm⟩

end Honest

end Juicity.Server.Connection
