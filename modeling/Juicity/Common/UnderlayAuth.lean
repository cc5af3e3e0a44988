import Juicity.Common.IpText
import Juicity.Common.Protocol

/-!
Owns underlay auth messages in `common/src/protocol.rs`: the writer, the reader
and the loop in which the server reads them. The writer takes a hostname of up
to 255 bytes, the reader none of length zero, so a stream of messages comes
back whole exactly when no hostname is empty.
-/

namespace Juicity.Common

open Juicity.Machine

def Octets.append {n m : Nat} (first : Octets n) (second : Octets m) : Octets (n + m) :=
  ⟨first.val ++ second.val, by rw [List.length_append, first.length_val, second.length_val]⟩

namespace Protocol

def underlayPskLen : Nat := 32

/-! ## The writer -/

def writeUnderlayMetadata (text : AddrText) (metadata : ProxyMetadata) : Except String Bytes :=
  match text.parseIpv4 metadata.hostname with
  | some ipv4 => .ok (addrTypeIpv4 :: ipv4.val ++ (u16ToBeBytes metadata.port).val)
  | none =>
      match text.parseIpv6 metadata.hostname with
      | some ipv6 => .ok (addrTypeIpv6 :: ipv6.val ++ (u16ToBeBytes metadata.port).val)
      | none =>
          let hostBytes := utf8 metadata.hostname
          if hostBytes.length ≤ 255 then
            .ok (addrTypeDomain :: UInt8.ofNat hostBytes.length ::
              hostBytes ++ (u16ToBeBytes metadata.port).val)
          else
            .error ("underlay host too long: " ++ toString hostBytes.length)

/-- The bytes of one message, when its write returns without an error. -/
def writeUnderlayAuth (text : AddrText) (auth : UnderlayAuth) : Except String Bytes :=
  if auth.psk.length = underlayPskLen then do
    let metadata ← writeUnderlayMetadata text auth.metadata
    return auth.iv.val ++ (auth.psk ++ metadata)
  else
    .error ("invalid underlay psk length: expected " ++ toString underlayPskLen ++ ", got " ++
      toString auth.psk.length)

/-! ## The reader -/

/-- The payload carries no UUID. -/
def readUnderlayAuth (text : AddrText) : Reader UnderlayAuth := do
  let iv ← readExact 32
  let psk ← readExact underlayPskLen
  let (hostname, port) ← readUnderlayMetadata text
  return ⟨iv, psk.val, ⟨.udp, hostname, port, .replicate 16 0⟩, .replicate 16 0⟩

variable {text : AddrText}

theorem consumes_readUnderlayMetadata : Consumes (readUnderlayMetadata text) 0 := by
  refine consumes_readThen 1 fun typ => ?_
  show Consumes (if typ.get 0 = addrTypeIpv4 then _ else _) 0
  split
  · exact consumes_readThen 6 fun raw => .pure _
  · split
    · exact consumes_readThen 18 fun raw => .pure _
    · split
      · refine consumes_readThen 1 fun dlen => ?_
        show Consumes (if (dlen.get 0).toNat = 0 then _ else _) 0
        split
        · exact (Consumes.throw _ 0).bind fun _ => consumes_readThen _ fun domain => .pure _
        · exact consumes_readThen _ fun domain => .pure _
      · split
        · exact consumes_readThen 1 fun cmd => .throw _ 0
        · exact .throw _ 0

theorem consumes_readUnderlayAuth : Consumes (readUnderlayAuth text) 1 := by
  refine Consumes.mono (show Consumes _ (32 + 0) from (consumes_readExact 32).bind fun iv => ?_)
    (by omega)
  exact consumes_readThen underlayPskLen fun psk =>
    consumes_readUnderlayMetadata.bind fun metadata => .pure _

/-- The reads of the loop in `handle_connection`. -/
def underlayAuths (text : AddrText) : FrameReader UInt8 String UnderlayAuth :=
  ⟨readUnderlayAuth text, consumes_readUnderlayAuth⟩

/-! ## Frames -/

theorem part_append_left {n m : Nat} (first : Octets n) (second : Octets m)
    (fits : 0 + n ≤ n + m) : (first.append second).part 0 n fits = first := by
  apply Subtype.ext
  show (first.val ++ second.val).take n = first.val
  rw [List.take_append_of_le_length (by simp), List.take_of_length_le (by simp)]

theorem part_append_right {n m : Nat} (first : Octets n) (second : Octets m)
    (fits : n + m ≤ n + m) : (first.append second).part n m fits = second := by
  apply Subtype.ext
  show ((first.val ++ second.val).drop n).take m = second.val
  rw [List.drop_append_of_le_length (by simp), List.drop_of_length_le (by simp),
    List.nil_append, List.take_of_length_le (by simp)]

/-- Host and port read at once. -/
theorem frames_readHostPort {n : Nat} (host : Octets n) (port : UInt16)
    (render : Octets n → String) :
    Frames (readExact (n + 2) >>= fun raw =>
        pure (render (raw.part 0 n (by omega)), u16FromBeBytes (raw.part n 2 (by omega))))
      (host.val ++ (u16ToBeBytes port).val) (render host, port) := by
  have raw := (frames_readExact (host.append (u16ToBeBytes port))).map fun raw =>
    (render (raw.part 0 n (by omega)), u16FromBeBytes (raw.part n 2 (by omega)))
  rw [part_append_left, part_append_right, u16FromBeBytes_toBeBytes] at raw
  exact raw

/-- The hostname and port a message is to be read as. -/
def metadataRead (text : AddrText) (metadata : ProxyMetadata) : String × UInt16 :=
  (text.canonical metadata.hostname, metadata.port)

/-- The message the server is to read. -/
def decoded (text : AddrText) (auth : UnderlayAuth) : UnderlayAuth :=
  ⟨auth.iv, auth.psk, ⟨.udp, text.canonical auth.metadata.hostname, auth.metadata.port,
    .replicate 16 0⟩, .replicate 16 0⟩

theorem writeUnderlayMetadata_frames (laws : AddrTextLaws text) {metadata : ProxyMetadata}
    {tokens : Bytes} (written : writeUnderlayMetadata text metadata = .ok tokens)
    (named : metadata.hostname ≠ "") :
    Frames (readUnderlayMetadata text) tokens (metadataRead text metadata) := by
  unfold metadataRead AddrText.canonical
  unfold writeUnderlayMetadata AddrText.parseIpv4 AddrText.parseIpv6 at written
  cases parsed : text.parseIp metadata.hostname with
  | some address =>
      cases address with
      | v4 octets =>
          rw [parsed] at written
          obtain rfl := Except.ok.inj written
          apply (frames_readExact (⟨[addrTypeIpv4], rfl⟩ : Octets 1)).bind
          exact frames_readHostPort octets metadata.port text.ipv4
      | v6 octets =>
          rw [parsed] at written
          obtain rfl := Except.ok.inj written
          apply (frames_readExact (⟨[addrTypeIpv6], rfl⟩ : Octets 1)).bind
          exact frames_readHostPort octets metadata.port text.ipv6
  | none =>
      rw [parsed] at written
      change (if (utf8 metadata.hostname).length ≤ 255 then _ else _) = _ at written
      split at written
      · rename_i fits
        obtain rfl := Except.ok.inj written
        have length := toNat_ofNat_length fits
        have nonempty := length_utf8_pos_iff.mpr named
        apply (frames_readExact (⟨[addrTypeDomain], rfl⟩ : Octets 1)).bind
        apply (frames_readExact (⟨[UInt8.ofNat (utf8 metadata.hostname).length], rfl⟩ :
          Octets 1)).bind
        show Frames (if (UInt8.ofNat (utf8 metadata.hostname).length).toNat = 0 then _ else _) _ _
        rw [if_neg (by omega)]
        have domain := frames_readHostPort (⟨utf8 metadata.hostname, length.symm⟩ :
          Octets (UInt8.ofNat (utf8 metadata.hostname).length).toNat) metadata.port
            fun domain => text.utf8Lossy domain.val
        rw [laws.utf8Lossy_utf8] at domain
        exact domain
      · cases written

theorem writeUnderlayAuth_parts {auth : UnderlayAuth} {tokens : Bytes}
    (written : writeUnderlayAuth text auth = .ok tokens) :
    auth.psk.length = underlayPskLen ∧ ∃ metadata,
      writeUnderlayMetadata text auth.metadata = .ok metadata ∧
        tokens = auth.iv.val ++ (auth.psk ++ metadata) := by
  unfold writeUnderlayAuth at written
  split at written
  · rename_i length
    cases wrote : writeUnderlayMetadata text auth.metadata with
    | error error =>
        rw [wrote] at written
        cases written
    | ok metadata =>
        rw [wrote] at written
        exact ⟨length, metadata, rfl, (Except.ok.inj written).symm⟩
  · cases written

/-- A message with a hostname is a frame of the reader. -/
theorem writeUnderlayAuth_frames (laws : AddrTextLaws text) {auth : UnderlayAuth}
    {tokens : Bytes} (written : writeUnderlayAuth text auth = .ok tokens)
    (named : auth.metadata.hostname ≠ "") :
    Frames (readUnderlayAuth text) tokens (decoded text auth) := by
  obtain ⟨length, metadata, wrote, rfl⟩ := writeUnderlayAuth_parts written
  apply (frames_readExact auth.iv).bind
  apply (frames_readExact (⟨auth.psk, length⟩ : Octets underlayPskLen)).bind
  exact (writeUnderlayMetadata_frames laws wrote named).map fun metadata =>
    (⟨auth.iv, auth.psk, ⟨.udp, metadata.1, metadata.2, .replicate 16 0⟩, .replicate 16 0⟩ :
      UnderlayAuth)

/-- A message without a hostname is written and then rejected. -/
theorem readUnderlayAuth_of_empty (laws : AddrTextLaws text) {auth : UnderlayAuth}
    {tokens : Bytes} (written : writeUnderlayAuth text auth = .ok tokens)
    (unnamed : auth.metadata.hostname = "") (rest : Bytes) :
    tokens ≠ [] ∧
      readUnderlayAuth text (tokens ++ rest) =
        .error "underlay metadata domain length is zero" := by
  obtain ⟨length, metadata, wrote, rfl⟩ := writeUnderlayAuth_parts written
  have shape : metadata = [addrTypeDomain, 0] ++ (u16ToBeBytes auth.metadata.port).val := by
    unfold writeUnderlayMetadata AddrText.parseIpv4 AddrText.parseIpv6 at wrote
    rw [unnamed, laws.parseIp_empty] at wrote
    exact (Except.ok.inj wrote).symm
  subst shape
  refine ⟨fun empty => ?_, ?_⟩
  · have lengths := congrArg List.length empty
    simp at lengths
  · simp only [List.append_assoc]
    apply (frames_readExact auth.iv).bind_error
    apply (frames_readExact (⟨auth.psk, length⟩ : Octets underlayPskLen)).bind_error
    rfl

/-! ## The server's loop -/

/-- An empty hostname stops the loop before the end of the bytes. -/
theorem readAll_of_empty (laws : AddrTextLaws text) (auths : List UnderlayAuth) :
    ∀ frames, auths.mapM (writeUnderlayAuth text) = .ok frames →
      (∃ auth ∈ auths, auth.metadata.hostname = "") →
        ((underlayAuths text).readAll frames.flatten).2 ≠ [] := by
  induction auths with
  | nil =>
      intro frames written unnamed
      obtain ⟨auth, member, -⟩ := unnamed
      cases member
  | cons auth auths inductionHypothesis =>
      intro frames written unnamed
      obtain ⟨frame, later, first, rest, rfl⟩ := mapM_cons_ok written
      rw [List.flatten_cons]
      by_cases here : auth.metadata.hostname = ""
      · obtain ⟨nonempty, failed⟩ := readUnderlayAuth_of_empty laws first here later.flatten
        have stopped : (underlayAuths text).readAll (frame ++ later.flatten) =
            ([], frame ++ later.flatten) := FrameReader.readAll_of_error failed
        rw [stopped]
        intro empty
        exact nonempty (List.append_eq_nil_iff.mp empty).1
      · have reads : (underlayAuths text).read (frame ++ later.flatten) =
            .ok (decoded text auth, later.flatten) :=
          (writeUnderlayAuth_frames laws first here).whole later.flatten
        rw [FrameReader.readAll_of_ok reads]
        apply inductionHypothesis later rest
        obtain ⟨other, member, empty⟩ := unnamed
        rcases List.mem_cons.mp member with same | behind
        · rw [same] at empty
          exact absurd empty here
        · exact ⟨other, behind, empty⟩

/-- The written messages come back as they were accepted, and nothing but them,
exactly if none has an empty hostname. -/
theorem underlay_auths_decoded_iff (text : AddrText) (laws : AddrTextLaws text) :
    ∀ (auths : List UnderlayAuth) frames,
      auths.mapM (writeUnderlayAuth text) = .ok frames →
      ((underlayAuths text).readAll frames.flatten = (auths.map (decoded text), []) ↔
        ∀ auth ∈ auths, auth.metadata.hostname ≠ "") := by
  intro auths frames written
  constructor
  · intro whole auth member empty
    apply readAll_of_empty laws auths frames written ⟨auth, member, empty⟩
    rw [whole]
  · intro named
    have framed : List.Forall₂ (Frames (readUnderlayAuth text)) frames (auths.map (decoded text)) :=
      frames_of_mapM written fun auth member tokens wrote =>
        writeUnderlayAuth_frames laws wrote (named auth member)
    exact FrameReader.readAll_frames framed

/-- A message for `hostname`, port 53. -/
def messageTo (hostname : String) : UnderlayAuth where
  iv := .replicate 32 7
  psk := List.replicate 32 0x42
  metadata := ⟨.udp, hostname, 53, .replicate 16 0⟩
  uuid := .replicate 16 0

theorem ok_of_isSome {Value : Type} {result : Except String Value}
    (returned : result.toOption.isSome = true) : ∃ value, result = .ok value := by
  cases result with
  | error error => cases returned
  | ok value => exact ⟨value, rfl⟩

/-- A message without a hostname loses itself and the one after it. -/
theorem underlay_auths_not_all_decoded :
    ∃ frames, [messageTo "", messageTo "example.com"].mapM (writeUnderlayAuth IpText.std) =
        .ok frames ∧
      (underlayAuths IpText.std).readAll frames.flatten ≠
        ([messageTo "", messageTo "example.com"].map (decoded IpText.std), []) := by
  obtain ⟨frames, written⟩ : ∃ frames,
      [messageTo "", messageTo "example.com"].mapM (writeUnderlayAuth IpText.std) = .ok frames :=
    ok_of_isSome (by decide +kernel)
  refine ⟨frames, written, fun whole => ?_⟩
  apply readAll_of_empty IpText.std_laws _ frames written ⟨messageTo "", List.mem_cons_self, rfl⟩
  rw [whole]

theorem underlay_auths_decoded_iff_sample :
    ∃ frames, [messageTo "192.0.2.1", messageTo "example.com"].mapM
        (writeUnderlayAuth IpText.std) = .ok frames ∧
      (underlayAuths IpText.std).readAll frames.flatten =
        ([messageTo "192.0.2.1", messageTo "example.com"], []) := by
  have named : ∀ auth ∈ [messageTo "192.0.2.1", messageTo "example.com"],
      auth.metadata.hostname ≠ "" := by
    decide
  have same : [messageTo "192.0.2.1", messageTo "example.com"].map (decoded IpText.std) =
      [messageTo "192.0.2.1", messageTo "example.com"] := by
    decide +kernel
  obtain ⟨frames, written⟩ : ∃ frames, [messageTo "192.0.2.1", messageTo "example.com"].mapM
      (writeUnderlayAuth IpText.std) = .ok frames :=
    ok_of_isSome (by decide +kernel)
  have whole := (underlay_auths_decoded_iff IpText.std IpText.std_laws _ _ written).mpr named
  rw [same] at whole
  exact ⟨frames, written, whole⟩

end Protocol

end Juicity.Common
