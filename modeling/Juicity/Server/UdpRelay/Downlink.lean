import Juicity.Client.Socks5Udp
import Juicity.Server.UdpRelay.Uplink

/-!
Owns the downlink framing of UDP over streams: what `relay_responses` writes
for the datagrams its socket receives, and that the client's reader loop gets
back their sources and payloads. Sources are written by their octets, so no
text is parsed on the way.
-/

namespace Juicity.Server.UdpRelay

open Juicity.Client
open Juicity.Common
open Juicity.Machine

/-- A datagram the socket received. -/
structure Reply where
  source : SocketAddr
  payload : Bytes
deriving DecidableEq

/-- One pass of the loop of `relay_responses`; the length is narrowed. -/
def relayResponse (reply : Reply) : Except String Bytes := do
  let responseAddr := Protocol.CachedAddr.fromSocketAddr
    ⟨reply.source.ip.toCanonical, reply.source.port⟩
  let frame ← Protocol.buildTrojancAddrCached responseAddr
  return frame ++ ((u16ToBeBytes (UInt16.ofNat reply.payload.length)).val ++ reply.payload)

def relayResponses (replies : List Reply) : Except String Bytes := do
  let frames ← replies.mapM relayResponse
  return frames.flatten

/-- What the client is to read for a reply. -/
def delivered (text : AddrText) (reply : Reply) : UdpResponse :=
  ⟨text.ip (reply.source.ip.toCanonical), reply.source.port, reply.payload⟩

variable {text : AddrText}

theorem frames_readOneUdpResponse {addrType : UInt8} {host : Bytes} {addr : String}
    (framed : Frames (Protocol.readHost text addrType) host addr) (port : UInt16)
    {payload : Bytes} (fits : payload.length ≤ 65535) :
    Frames (readOneUdpResponse text [])
      (addrType :: host ++ (u16ToBeBytes port).val ++
        ((u16ToBeBytes (UInt16.ofNat payload.length)).val ++ payload))
      ⟨addr, port, payload⟩ := by
  have length : (UInt16.ofNat payload.length).toNat = payload.length := by
    rw [UInt16.toNat_ofNat']
    omega
  have cut : ∀ len, (resize [] len).drop len = [] := fun len =>
    List.drop_of_length_le (Nat.le_of_eq (length_resize [] len))
  apply (Protocol.frames_readTrojancAddr framed port).bind
  apply (frames_readExact (u16ToBeBytes (UInt16.ofNat payload.length))).bind
  simp only [cut, List.append_nil]
  rw [u16FromBeBytes_toBeBytes]
  exact (frames_readExact (⟨payload, length.symm⟩ :
    Octets (UInt16.ofNat payload.length).toNat)).map fun filled =>
      (⟨addr, port, filled.val⟩ : UdpResponse)

/-- Every reply is written as one frame. -/
theorem relayResponse_frames (text : AddrText) {reply : Reply}
    (fits : reply.payload.length ≤ 65535) :
    ∃ tokens, relayResponse reply = .ok tokens ∧
      Frames (readOneUdpResponse text []) tokens (delivered text reply) := by
  obtain ⟨addrType, host, built, framed⟩ := Protocol.buildTrojancAddrCached_fromSocketAddr text
    (reply.source.ip.toCanonical) reply.source.port
  refine ⟨_, ?_, frames_readOneUdpResponse framed reply.source.port fits⟩
  unfold relayResponse
  dsimp only
  rw [built]
  rfl

/-- The bytes written for any replies are read as exactly these replies, and a
truncation of them as the first of them, whatever the buffer held before. -/
theorem downlink_framing_lossless (text : AddrText) :
    ∀ replies : List Reply, (∀ reply ∈ replies, reply.payload.length ≤ 65535) →
      ∃ bytes, relayResponses replies = .ok bytes ∧
        ∀ buf, readUdpResponses text buf bytes = (replies.map (delivered text), []) ∧
          ∀ front, front <+: bytes →
            (readUdpResponses text buf front).1 <+: replies.map (delivered text) := by
  intro replies fits
  obtain ⟨frames, written, framed⟩ : ∃ frames, replies.mapM relayResponse = .ok frames ∧
      List.Forall₂ (Frames (readOneUdpResponse text [])) frames
        (replies.map (delivered text)) :=
    mapM_frames fun reply member => relayResponse_frames text (fits reply member)
  refine ⟨frames.flatten, ?_, fun buf => ⟨?_, fun front before => ?_⟩⟩
  · unfold relayResponses
    rw [written]
    rfl
  · rw [readUdpResponses_eq]
    exact FrameReader.readAll_frames framed
  · rw [readUdpResponses_eq]
    exact FrameReader.readAll_front framed front before

/-- Replies from an IPv4, an IPv4-mapped and an IPv6 source. -/
def sampleReplies : List Reply :=
  [⟨⟨.v4 ⟨[192, 0, 2, 1], rfl⟩, 53⟩, [1, 2, 3]⟩,
    ⟨⟨.v6 ⟨[0, 0, 0, 0, 0, 0, 0, 0, 0, 0, 255, 255, 192, 0, 2, 7], rfl⟩, 443⟩, []⟩,
    ⟨⟨.v6 ⟨[32, 1, 13, 184, 0, 0, 0, 0, 0, 0, 0, 0, 0, 0, 0, 1], rfl⟩, 65535⟩, [9]⟩]

theorem downlink_framing_lossless_sample :
    ∃ bytes, relayResponses sampleReplies = .ok bytes ∧
      readUdpResponses IpText.std [7, 7] bytes =
        ([⟨"192.0.2.1", 53, [1, 2, 3]⟩, ⟨"192.0.2.7", 443, []⟩, ⟨"2001:db8::1", 65535, [9]⟩],
          []) := by
  obtain ⟨bytes, written, read⟩ := downlink_framing_lossless IpText.std sampleReplies (by decide)
  refine ⟨bytes, written, (read [7, 7]).1.trans ?_⟩
  decide +kernel

end Juicity.Server.UdpRelay
