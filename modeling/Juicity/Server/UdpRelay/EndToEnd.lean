import Juicity.Client.Socks5Reply
import Juicity.Client.UdpSessions.Datagrams
import Juicity.Server.UdpRelay.Accepted
import Juicity.Server.UdpRelay.Delivered
import Juicity.Server.UdpRelay.Downlink

/-!
Owns the two directions of a relayed UDP session from end to end. Uplink: what
the client's sockets received, its sessions began to send and the server's
sockets sent, over a run of the client and a run of the server with any cut of
the stream between them. Downlink: what the server's socket received and the
application reads of the packets of the SOCKS5 front.
-/

namespace Juicity.Server.UdpRelay

open Juicity.Client
open Juicity.Common
open Juicity.Machine

variable {text : AddrText}

/-- The packets the reader of a session sends to its source for what it reads. -/
def replyPackets (text : AddrText) (buf input : Bytes) : List Bytes :=
  (readUdpResponses text buf input).1.map fun response =>
    buildSocks5UdpPacket text response.addr response.port response.payload

/-- What the application is to read for a reply. -/
def replyRequest (text : AddrText) (reply : Reply) : UdpOutboundDatagram :=
  ⟨text.ip reply.source.ip.toCanonical, reply.source.port, reply.payload⟩

theorem comesBack_ip (laws : AddrTextLaws text) (address : IpAddr) :
    comesBack text (text.ip address) = true := by
  cases address with
  | v4 octets => simp [comesBack, AddrText.ip, laws.parseIp_ipv4 octets]
  | v6 octets => simp [comesBack, AddrText.ip, laws.parseIp_ipv6 octets]

/-- Reading the packets of delivered replies. -/
theorem map_parse_packets (laws : AddrTextLaws text) (replies : List Reply) :
    ((replies.map (delivered text)).map fun response =>
        buildSocks5UdpPacket text response.addr response.port response.payload).map
          (parseSocks5UdpRequest text) =
      replies.map fun reply => some (replyRequest text reply) := by
  rw [List.map_map, List.map_map]
  apply List.map_congr_left
  intro reply _
  exact (parse_buildSocks5UdpPacket_iff text _ _ _).mpr (comesBack_ip laws _)

/-- An application that reads the packets of its session finds the sources and the
payloads of what the server's socket received, in their order and from the first on,
however much of the stream arrives; of the whole stream, all of them. -/
theorem downlink_of_replies (text : AddrText) (laws : AddrTextLaws text) :
    ∀ replies : List Reply, (∀ reply ∈ replies, reply.payload.length ≤ 65535) →
      ∃ bytes, relayResponses replies = .ok bytes ∧
        ∀ buf,
          (replyPackets text buf bytes).map (parseSocks5UdpRequest text) =
              replies.map (fun reply => some (replyRequest text reply)) ∧
            ∀ arrived, arrived <+: bytes →
              (replyPackets text buf arrived).map (parseSocks5UdpRequest text) <+:
                replies.map fun reply => some (replyRequest text reply) := by
  intro replies fits
  obtain ⟨frames, written, framed⟩ : ∃ frames, replies.mapM relayResponse = .ok frames ∧
      List.Forall₂ (Frames (readOneUdpResponse text [])) frames
        (replies.map (delivered text)) :=
    mapM_frames fun reply member => relayResponse_frames text (fits reply member)
  refine ⟨frames.flatten, by rw [relayResponses, written]; rfl, fun buf => ⟨?_, ?_⟩⟩
  · have read : (udpResponses text).readAll frames.flatten = (replies.map (delivered text), []) :=
      FrameReader.readAll_frames framed
    rw [← map_parse_packets laws replies, replyPackets, readUdpResponses_eq, read]
  · intro arrived arrives
    have read : ((udpResponses text).readAll arrived).1 <+: replies.map (delivered text) :=
      FrameReader.readAll_front framed arrived arrives
    rw [← map_parse_packets laws replies, replyPackets, readUdpResponses_eq]
    exact (read.map _).map _

theorem downlink_of_replies_sample :
    ∃ bytes, relayResponses sampleReplies = .ok bytes ∧
      (replyPackets IpText.std [] (bytes.take 40)).map (parseSocks5UdpRequest IpText.std) <+:
        [some ⟨"192.0.2.1", 53, [1, 2, 3]⟩, some ⟨"192.0.2.7", 443, []⟩,
          some ⟨"2001:db8::1", 65535, [9]⟩] := by
  obtain ⟨bytes, written, read⟩ :=
    downlink_of_replies IpText.std IpText.std_laws sampleReplies (by decide)
  have texts : (sampleReplies.map fun reply => some (replyRequest IpText.std reply)) =
      [some ⟨"192.0.2.1", 53, [1, 2, 3]⟩, some ⟨"192.0.2.7", 443, []⟩,
        some ⟨"2001:db8::1", 65535, [9]⟩] := by
    decide +kernel
  have first := (read []).2 (bytes.take 40) (List.take_prefix 40 bytes)
  rw [texts] at first
  exact ⟨bytes, written, first⟩

end Juicity.Server.UdpRelay
