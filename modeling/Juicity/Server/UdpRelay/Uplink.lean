import Juicity.Client.UdpStream
import Juicity.Common.IpText
import Juicity.Server.UdpRelay.Model

/-!
Owns the uplink framing of UDP over streams: what `handle_stream` reads of the
bytes that `open_udp_stream` and `send_udp_datagram` wrote. The first datagram
and the later ones are read by different readers; every datagram is one frame
for the reader that meets it.
-/

namespace Juicity.Server.UdpRelay

open Juicity.Client
open Juicity.Common
open Juicity.Machine

variable {text : AddrText}

/-! ## The reading side -/

theorem consumes_readPayload : Consumes readPayload 0 :=
  consumes_readThen 2 fun _ => consumes_readThen _ fun _ => .pure _

theorem consumes_readDatagram : Consumes (readDatagram text) 1 :=
  Protocol.consumes_readTrojancAddrInto.bind fun _ => consumes_readPayload.bind fun _ => .pure _

/-- The reads of the `quic_to_remote` loop. -/
def laterDatagrams (text : AddrText) : FrameReader UInt8 String (Name × Bytes) :=
  ⟨readDatagram text, consumes_readDatagram⟩

/-- The reads of the first datagram; between them its target is resolved and
dialed. -/
def readFirstDatagram (text : AddrText) : Reader (Name × Bytes) := do
  let (host, port) ← Protocol.readTrojancAddr text
  return (⟨host, port⟩, ← readPayload)

/-- The datagrams `handle_udp_relay` reads, and what the read that ends it met. -/
def relayDatagrams (text : AddrText) (input : Bytes) : List (Name × Bytes) × Bytes :=
  match readFirstDatagram text input with
  | .ok (first, rest) =>
      let later := (laterDatagrams text).readAll rest
      (first :: later.1, later.2)
  | .error _ => ([], input)

structure Received where
  header : Option Protocol.ProxyHeader
  datagrams : List (Name × Bytes)
  rest : Bytes
deriving DecidableEq

/-- What `handle_stream` reads of a stream that ends after `input`. -/
def receive (text : AddrText) (input : Bytes) : Received :=
  match Protocol.readProxyHeader text input with
  | .ok (header, rest) =>
      if header.network = Protocol.networkUdp then
        let relayed := relayDatagrams text rest
        ⟨some header, relayed.1, relayed.2⟩
      else
        ⟨some header, [], rest⟩
  | .error _ => ⟨none, [], input⟩

/-! ## Frames -/

/-- What the server is to read for a datagram. -/
def expected (text : AddrText) (datagram : UdpOutboundDatagram) : Name × Bytes :=
  (⟨text.canonical datagram.addr, datagram.port⟩, datagram.payload)

/-- A datagram the client accepts to send. -/
def Sendable (text : AddrText) (datagram : UdpOutboundDatagram) : Prop :=
  Encodable text datagram.addr ∧ datagram.payload.length ≤ 65535

instance (datagram : UdpOutboundDatagram) : Decidable (Sendable text datagram) := by
  unfold Sendable
  infer_instance

theorem frames_readPayload {payload : Bytes} (fits : payload.length ≤ 65535) :
    Frames readPayload ((u16ToBeBytes (UInt16.ofNat payload.length)).val ++ payload) payload := by
  have length : (UInt16.ofNat payload.length).toNat = payload.length := by
    rw [UInt16.toNat_ofNat']
    omega
  apply (frames_readExact (u16ToBeBytes (UInt16.ofNat payload.length))).bind
  rw [u16FromBeBytes_toBeBytes]
  exact (frames_readExact (⟨payload, length.symm⟩ :
    Octets (UInt16.ofNat payload.length).toNat)).map fun bytes => bytes.val

theorem udpPacketLen_of_fits {payload : Bytes} (fits : payload.length ≤ 65535) :
    udpPacketLen payload = .ok (u16ToBeBytes (UInt16.ofNat payload.length)) :=
  if_pos fits

/-- A datagram is a frame for the reader of the first one. -/
theorem frames_readFirstDatagram (laws : AddrTextLaws text) {datagram : UdpOutboundDatagram}
    (fits : datagram.payload.length ≤ 65535) {addrType : UInt8} {host : Bytes}
    (addressed : Protocol.Addressed text datagram.addr addrType host) :
    Frames (readFirstDatagram text)
      (addrType :: host ++ (u16ToBeBytes datagram.port).val ++
        ((u16ToBeBytes (UInt16.ofNat datagram.payload.length)).val ++ datagram.payload))
      (expected text datagram) := by
  apply (Protocol.frames_readTrojancAddr (addressed.framesHost laws) datagram.port).bind
  exact (frames_readPayload fits).map fun payload =>
    ((⟨text.canonical datagram.addr, datagram.port⟩ : Name), payload)

/-- A datagram is a frame for the reader of the later ones. -/
theorem frames_readDatagram (laws : AddrTextLaws text) {datagram : UdpOutboundDatagram}
    (fits : datagram.payload.length ≤ 65535) {addrType : UInt8} {host : Bytes}
    (addressed : Protocol.Addressed text datagram.addr addrType host) :
    Frames (readDatagram text)
      (addrType :: host ++ (u16ToBeBytes datagram.port).val ++
        ((u16ToBeBytes (UInt16.ofNat datagram.payload.length)).val ++ datagram.payload))
      (expected text datagram) := by
  apply (Protocol.frames_readTrojancAddrInto (addressed.framesHost laws) datagram.port).bind
  exact (frames_readPayload fits).map fun payload =>
    ((⟨text.canonical datagram.addr, datagram.port⟩ : Name), payload)

/-- What `send_udp_datagram` writes for a sendable datagram is one frame. -/
theorem sendUdpDatagram_frames (laws : AddrTextLaws text) {datagram : UdpOutboundDatagram}
    (sendable : Sendable text datagram) :
    ∃ tokens,
      sendUdpDatagram (.fromHostPort text datagram.addr datagram.port) datagram.payload =
        .ok tokens ∧
      Frames (readDatagram text) tokens (expected text datagram) := by
  obtain ⟨encodable, fits⟩ := sendable
  obtain ⟨addrType, host, addressed⟩ := Protocol.addressed_of_encodable encodable
  refine ⟨_, ?_, frames_readDatagram laws fits addressed⟩
  have built : Protocol.buildTrojancAddrCached
      (.fromHostPort text datagram.addr datagram.port) = _ :=
    addressed.buildTrojancAddr laws datagram.port
  unfold sendUdpDatagram
  rw [udpPacketLen_of_fits fits, built]
  rfl

/-- What `open_udp_stream` writes is a frame of the header and one of the datagram. -/
theorem openUdpStream_frames (laws : AddrTextLaws text) {datagram : UdpOutboundDatagram}
    (sendable : Sendable text datagram) :
    ∃ header tokens,
      openUdpStream text datagram.addr datagram.port datagram.payload = .ok (header ++ tokens) ∧
      Frames (Protocol.readProxyHeader text) header
        ⟨Protocol.networkUdp, text.canonical datagram.addr, datagram.port⟩ ∧
      Frames (readFirstDatagram text) tokens (expected text datagram) := by
  obtain ⟨encodable, fits⟩ := sendable
  obtain ⟨addrType, host, addressed⟩ := Protocol.addressed_of_encodable encodable
  refine ⟨_, _, ?_, addressed.framesProxyHeader laws Protocol.networkUdp datagram.port,
    frames_readFirstDatagram laws fits addressed⟩
  unfold openUdpStream
  rw [udpPacketLen_of_fits fits, addressed.buildProxyHeader laws, addressed.buildTrojancAddr laws]
  show Except.ok _ = _
  simp only [List.append_assoc]

/-! ## The whole stream -/

theorem relayDatagrams_frames {tokens : Bytes} {frames : List Bytes} {first : Name × Bytes}
    {later : List (Name × Bytes)} (opens : Frames (readFirstDatagram text) tokens first)
    (follows : List.Forall₂ (Frames (readDatagram text)) frames later) :
    relayDatagrams text (tokens ++ frames.flatten) = (first :: later, []) := by
  unfold relayDatagrams
  rw [opens.whole]
  have read : (laterDatagrams text).readAll frames.flatten = (later, []) :=
    FrameReader.readAll_frames follows
  simp only [read]

theorem relayDatagrams_front {tokens : Bytes} {frames : List Bytes} {first : Name × Bytes}
    {later : List (Name × Bytes)} (opens : Frames (readFirstDatagram text) tokens first)
    (follows : List.Forall₂ (Frames (readDatagram text)) frames later) :
    ∀ front, front <+: tokens ++ frames.flatten →
      (relayDatagrams text front).1 <+: first :: later := by
  intro front before
  unfold relayDatagrams
  rcases prefix_append_cases before with ⟨within, notAll⟩ | ⟨rest, inner, rfl⟩
  · obtain ⟨error, failed⟩ := opens.short front within notAll
    rw [failed]
    exact List.nil_prefix
  · rw [opens.whole]
    have read : ((laterDatagrams text).readAll rest).1 <+: later :=
      FrameReader.readAll_front follows rest inner
    exact (List.prefix_cons_inj first).mpr read

/-- The bytes of a UDP session are read as exactly its datagrams, and a
truncation of them as the first of its datagrams. -/
theorem uplink_framing_lossless (text : AddrText) (laws : AddrTextLaws text) :
    ∀ first later, (∀ datagram ∈ first :: later, Sendable text datagram) →
      ∃ bytes, writeUdpSession text first later = .ok bytes ∧
        receive text bytes =
          ⟨some ⟨Protocol.networkUdp, text.canonical first.addr, first.port⟩,
            (first :: later).map (expected text), []⟩ ∧
        ∀ front, front <+: bytes →
          (receive text front).datagrams <+: (first :: later).map (expected text) ∧
          ((receive text front).header = none ∨
            (receive text front).header =
              some ⟨Protocol.networkUdp, text.canonical first.addr, first.port⟩) := by
  intro first later sendable
  obtain ⟨header, tokens, opened, headerFrame, firstFrame⟩ :=
    openUdpStream_frames laws (sendable first List.mem_cons_self)
  obtain ⟨frames, sent, laterFrames⟩ : ∃ frames,
      (later.mapM fun datagram => sendUdpDatagram
        (.fromHostPort text datagram.addr datagram.port) datagram.payload) = .ok frames ∧
      List.Forall₂ (Frames (readDatagram text)) frames (later.map (expected text)) :=
    mapM_frames fun datagram member => sendUdpDatagram_frames laws
      (sendable datagram (List.mem_cons_of_mem first member))
  refine ⟨header ++ (tokens ++ frames.flatten), ?_, ?_, ?_⟩
  · unfold writeUdpSession
    rw [opened, sent]
    show Except.ok _ = _
    rw [List.append_assoc]
  · unfold receive
    rw [headerFrame.whole]
    simp only [if_true, relayDatagrams_frames firstFrame laterFrames, List.map_cons]
  · intro front before
    unfold receive
    rcases prefix_append_cases before with ⟨within, notAll⟩ | ⟨rest, inner, rfl⟩
    · obtain ⟨error, failed⟩ := headerFrame.short front within notAll
      rw [failed]
      exact ⟨List.nil_prefix, .inl rfl⟩
    · rw [headerFrame.whole]
      exact ⟨relayDatagrams_front firstFrame laterFrames rest inner, .inr rfl⟩

/-- Datagrams to an IPv6 literal in another spelling, a domain and an IPv4 literal. -/
def sampleDatagrams : List UdpOutboundDatagram :=
  [⟨"2001:DB8:0::1", 53, [1, 2, 3]⟩, ⟨"example.com", 443, []⟩, ⟨"192.0.2.1", 65535, [9]⟩]

theorem uplink_framing_lossless_sample :
    ∃ bytes, writeUdpSession IpText.std ⟨"2001:DB8:0::1", 53, [1, 2, 3]⟩ sampleDatagrams =
        .ok bytes ∧
      receive IpText.std bytes = ⟨some ⟨3, "2001:db8::1", 53⟩,
        [(⟨"2001:db8::1", 53⟩, [1, 2, 3]), (⟨"2001:db8::1", 53⟩, [1, 2, 3]),
          (⟨"example.com", 443⟩, []), (⟨"192.0.2.1", 65535⟩, [9])], []⟩ := by
  have sendable : ∀ datagram ∈ ⟨"2001:DB8:0::1", 53, [1, 2, 3]⟩ :: sampleDatagrams,
      Sendable IpText.std datagram := by
    decide +kernel
  obtain ⟨bytes, written, read, -⟩ :=
    uplink_framing_lossless IpText.std IpText.std_laws _ sampleDatagrams sendable
  refine ⟨bytes, written, read.trans ?_⟩
  decide +kernel

end Juicity.Server.UdpRelay
