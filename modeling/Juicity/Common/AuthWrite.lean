import Juicity.Common.UnderlayAuth

/-!
Owns `write_underlay_auth_async` of `common/src/protocol.rs` write by write: what
is on the stream when it returns an error. On a stream that takes everything it
writes the message of `writeUnderlayAuth`, or it rejects what that rejects, and
then some of the message is on the stream.
-/

namespace Juicity.Common.Protocol

open Juicity.Common

/-- An output stream: the bytes it took, and how many more it takes if it fails some time. -/
structure OutStream where
  written : Bytes
  room : Option Nat

/-- How a write ends badly: the stream failed, or the message was refused. -/
inductive WriteError where
  | io
  | rejected (reason : String)

/-- Writes to a stream; what was written before an error stays written. -/
abbrev Writing (α : Type) := ExceptT WriteError (StateM OutStream) α

/-- `write_all`. -/
def writeAll (bytes : Bytes) : Writing Unit := fun stream =>
  match stream.room with
  | none => (.ok (), { stream with written := stream.written ++ bytes })
  | some room =>
      if bytes.length ≤ room then
        (.ok (), ⟨stream.written ++ bytes, some (room - bytes.length)⟩)
      else
        (.error .io, ⟨stream.written ++ bytes.take room, some 0⟩)

def writeUnderlayMetadataAsync (text : AddrText) (metadata : ProxyMetadata) : Writing Unit := do
  match text.parseIpv4 metadata.hostname with
  | some ipv4 =>
      writeAll [addrTypeIpv4]
      writeAll ipv4.val
      writeAll (u16ToBeBytes metadata.port).val
  | none =>
      match text.parseIpv6 metadata.hostname with
      | some ipv6 =>
          writeAll [addrTypeIpv6]
          writeAll ipv6.val
          writeAll (u16ToBeBytes metadata.port).val
      | none =>
          let hostBytes := utf8 metadata.hostname
          if hostBytes.length ≤ 255 then
            writeAll [addrTypeDomain]
            writeAll [UInt8.ofNat hostBytes.length]
            writeAll hostBytes
            writeAll (u16ToBeBytes metadata.port).val
          else
            throw (.rejected ("underlay host too long: " ++ toString hostBytes.length))

def writeUnderlayAuthAsync (text : AddrText) (auth : UnderlayAuth) : Writing Unit := do
  writeAll auth.iv.val
  if auth.psk.length = underlayPskLen then
    writeAll auth.psk
    writeUnderlayMetadataAsync text auth.metadata
  else
    throw (.rejected ("invalid underlay psk length: expected " ++ toString underlayPskLen ++
      ", got " ++ toString auth.psk.length))

/-- How a sequence of writes ends when the stream takes all of them. -/
def verdict (refusal : Option String) : Except WriteError Unit :=
  match refusal with
  | none => .ok ()
  | some reason => .error (.rejected reason)

/-- Unless the stream fails, these bytes are appended and this is the end. -/
structure Writes (writing : Writing Unit) (bytes : Bytes) (refusal : Option String) : Prop where
  whole : ∀ stream, (writing stream).1 = .error .io ∨
    ((writing stream).1 = verdict refusal ∧
      (writing stream).2.written = stream.written ++ bytes)
  endless : ∀ written, writing ⟨written, none⟩ = (verdict refusal, ⟨written ++ bytes, none⟩)

/-! ## Composition -/

theorem writes_writeAll (bytes : Bytes) : Writes (writeAll bytes) bytes none where
  whole := by
    intro stream
    unfold writeAll
    split
    · exact Or.inr ⟨rfl, rfl⟩
    · split
      · exact Or.inr ⟨rfl, rfl⟩
      · exact Or.inl rfl
  endless := fun _ => rfl

theorem writes_rejected (reason : String) :
    Writes (throw (.rejected reason)) [] (some reason) where
  whole := fun stream => Or.inr ⟨rfl, (List.append_nil _).symm⟩
  endless := fun written => by
    rw [List.append_nil]
    rfl

/-- What follows runs on the stream that the first part leaves, unless that failed. -/
theorem bind_run (first second : Writing Unit) (stream : OutStream) :
    (first >>= fun _ => second) stream =
      match (first stream).1 with
      | .ok _ => second (first stream).2
      | .error error => (.error error, (first stream).2) := by
  simp only [bind, ExceptT.bind, ExceptT.mk, StateT.bind, ExceptT.bindCont]
  cases first stream with
  | mk result middle =>
      cases result with
      | ok => rfl
      | error => rfl

theorem Writes.bind {first second : Writing Unit} {front back : Bytes} {refusal : Option String}
    (head : Writes first front none) (tail : Writes second back refusal) :
    Writes (first >>= fun _ => second) (front ++ back) refusal where
  whole := by
    intro stream
    rw [bind_run]
    rcases head.whole stream with failed | ⟨passed, written⟩
    · rw [failed]
      exact Or.inl rfl
    · rw [passed]
      rcases tail.whole (first stream).2 with failed | ⟨ended, appended⟩
      · exact Or.inl failed
      · refine Or.inr ⟨ended, ?_⟩
        rw [← List.append_assoc, ← written]
        exact appended
  endless := by
    intro written
    rw [bind_run, head.endless, ← List.append_assoc]
    exact tail.endless (written ++ front)

variable {text : AddrText} {auth : UnderlayAuth} {stream after : OutStream} {reason : String}

/-! ## Messages -/

/-- The metadata is written or refused as a whole. -/
theorem writes_metadata (text : AddrText) (metadata : ProxyMetadata) :
    match writeUnderlayMetadata text metadata with
    | .ok tokens => Writes (writeUnderlayMetadataAsync text metadata) tokens none
    | .error reason => Writes (writeUnderlayMetadataAsync text metadata) [] (some reason) := by
  unfold writeUnderlayMetadata writeUnderlayMetadataAsync
  cases text.parseIpv4 metadata.hostname with
  | some ipv4 =>
      exact (writes_writeAll [addrTypeIpv4]).bind
        ((writes_writeAll ipv4.val).bind (writes_writeAll _))
  | none =>
      cases text.parseIpv6 metadata.hostname with
      | some ipv6 =>
          exact (writes_writeAll [addrTypeIpv6]).bind
            ((writes_writeAll ipv6.val).bind (writes_writeAll _))
      | none =>
          dsimp only
          by_cases fits : (utf8 metadata.hostname).length ≤ 255
          · rw [if_pos fits, if_pos fits]
            exact (writes_writeAll [addrTypeDomain]).bind
              ((writes_writeAll [UInt8.ofNat (utf8 metadata.hostname).length]).bind
                ((writes_writeAll (utf8 metadata.hostname)).bind (writes_writeAll _)))
          · rw [if_neg fits, if_neg fits]
            exact writes_rejected _

/-- What is on the stream by the time a message is refused. -/
def sentBeforeRefusal (auth : UnderlayAuth) : Bytes :=
  if auth.psk.length = underlayPskLen then auth.iv.val ++ auth.psk else auth.iv.val

/-- The message is written, or it is refused with its start on the stream. -/
theorem writes_auth (text : AddrText) (auth : UnderlayAuth) :
    match writeUnderlayAuth text auth with
    | .ok tokens => Writes (writeUnderlayAuthAsync text auth) tokens none
    | .error reason =>
        Writes (writeUnderlayAuthAsync text auth) (sentBeforeRefusal auth) (some reason) := by
  have iv := writes_writeAll auth.iv.val
  unfold writeUnderlayAuth writeUnderlayAuthAsync sentBeforeRefusal
  by_cases sized : auth.psk.length = underlayPskLen
  · simp only [if_pos sized]
    have psk := writes_writeAll auth.psk
    have metadata := writes_metadata text auth.metadata
    cases written : writeUnderlayMetadata text auth.metadata with
    | ok tokens =>
        rw [written] at metadata
        exact iv.bind (psk.bind metadata)
    | error reason =>
        rw [written] at metadata
        have refused := iv.bind (psk.bind metadata)
        rwa [List.append_nil] at refused
  · simp only [if_neg sized]
    have refused := iv.bind (writes_rejected
      ("invalid underlay psk length: expected " ++ toString underlayPskLen ++ ", got " ++
        toString auth.psk.length))
    rwa [List.append_nil] at refused

/-- A message that is refused because of what it holds has its salt, and its key if
that has the right length, on the stream by then. -/
theorem rejected_auth_writes
    (rejected : writeUnderlayAuthAsync text auth stream = (.error (.rejected reason), after)) :
    after.written = stream.written ++ sentBeforeRefusal auth ∧ after.written ≠ stream.written := by
  have run := writes_auth text auth
  have written : after.written = stream.written ++ sentBeforeRefusal auth := by
    cases message : writeUnderlayAuth text auth with
    | ok tokens =>
        rw [message] at run
        rcases run.whole stream with failed | ⟨passed, -⟩
        · rw [rejected] at failed
          cases failed
        · rw [rejected] at passed
          cases passed
    | error other =>
        rw [message] at run
        rcases run.whole stream with failed | ⟨-, appended⟩
        · rw [rejected] at failed
          cases failed
        · rw [rejected] at appended
          exact appended
  refine ⟨written, fun same => ?_⟩
  rw [written] at same
  have none := List.append_right_eq_self.mp same
  have sent : 32 ≤ (sentBeforeRefusal auth).length := by
    unfold sentBeforeRefusal
    split <;> simp
  rw [none] at sent
  exact absurd sent (by decide)

/-! ## A key that is too short -/

def keylessAuth : UnderlayAuth :=
  ⟨.replicate 32 0, [], ⟨.udp, "host", 80, .replicate 16 0⟩, .replicate 16 0⟩

theorem rejected_auth_writes_keyless :
    ∃ after, writeUnderlayAuthAsync IpText.std keylessAuth ⟨[], none⟩ =
        (.error (.rejected "invalid underlay psk length: expected 32, got 0"), after) ∧
      after.written = keylessAuth.iv.val := by
  have rejected : writeUnderlayAuthAsync IpText.std keylessAuth ⟨[], none⟩ =
      (.error (.rejected "invalid underlay psk length: expected 32, got 0"),
        ⟨keylessAuth.iv.val, none⟩) := rfl
  exact ⟨_, rejected, (rejected_auth_writes rejected).1⟩

/-- The salt is on the stream when the error is returned. -/
theorem keyless_auth_not_atomic :
    ¬ ∀ text auth stream reason after,
      writeUnderlayAuthAsync text auth stream = (.error (.rejected reason), after) →
        after.written = stream.written := by
  intro atomic
  have nothing := atomic IpText.std keylessAuth ⟨[], none⟩ _ _ rfl
  cases nothing

end Juicity.Common.Protocol
