import Juicity.Client.Socks5Connect.Handshake

/-!
Owns the CONNECT command of `handle_socks5`: `open_tcp_stream` of
`client/src/client.rs`, `build_socks5_response`, and what the application is
told about the stream that was opened or not.

A header goes to the server only for a host that `build_proxy_header` can write;
an empty host is written without its port.
-/

namespace Juicity.Client.Socks5Connect

open Juicity.Common
open Juicity.Machine

/-- VER, REP, RSV, the address and the port. -/
def buildSocks5Response (text : AddrText) (reply : UInt8) (host : String) (port : UInt16) : Bytes :=
  [0x05, reply, 0x00] ++ socks5Host text host ++ (u16ToBeBytes port).val

/-- `open_tcp_stream`: how opening the stream and writing to it end, and the header that is
written. -/
def openTcpStream (text : AddrText) (opened written : Except String Unit) (addr : String)
    (port : UInt16) : Except String Bytes := do
  opened
  let header ← Protocol.buildProxyHeader text Protocol.networkTcp addr port
  written
  return header

/-- The reply to a CONNECT whose stream was opened. -/
def successReply (text : AddrText) (request : Request) : Bytes :=
  buildSocks5Response text 0x00 request.host request.port

/-- The reply to a CONNECT whose stream was not opened. -/
def failureReply (text : AddrText) : Bytes := buildSocks5Response text 0x01 "0.0.0.0" 0

def connectReply (text : AddrText) (stream : Except String Bytes) (request : Request) : Bytes :=
  match stream with
  | .error _ => failureReply text
  | .ok _ => successReply text request

/-- What the server reads of the header for a request. -/
def served (text : AddrText) (request : Request) : Protocol.ProxyHeader :=
  if request.host = "" then ⟨Protocol.networkTcp, "", 0⟩
  else ⟨Protocol.networkTcp, text.canonical request.host, request.port⟩

/-- A host that `build_proxy_header` takes for a bad IPv6 address. -/
def Miswritten (text : AddrText) (host : String) : Prop :=
  ':' ∈ host.toList ∧ text.parseIp host = none

instance (text : AddrText) (host : String) : Decidable (Miswritten text host) :=
  inferInstanceAs (Decidable (_ ∧ _))

section Reply

variable {text : AddrText} {host : String}

end Reply

section Header

variable {text : AddrText} {request : Request}

theorem encodable_of_opening (laws : AddrTextLaws text) (opening : Opening text request)
    (named : request.host ≠ "") (fine : ¬ Miswritten text request.host) :
    Encodable text request.host := by
  refine ⟨named, ?_⟩
  cases parsed : text.parseIp request.host with
  | some address => exact .inl ⟨address, rfl⟩
  | none =>
      rcases opening.named with ⟨address, same⟩ | fits
      · rw [same] at parsed
        cases address with
        | v4 octets => cases parsed.symm.trans (laws.parseIp_ipv4 octets)
        | v6 octets => cases parsed.symm.trans (laws.parseIp_ipv6 octets)
      · exact .inr ⟨fun colon => fine ⟨colon, parsed⟩, fits⟩

theorem header_of_openTcpStream {opened written : Except String Unit} {addr : String}
    {port : UInt16} {header : Bytes}
    (stream : openTcpStream text opened written addr port = .ok header) :
    Protocol.buildProxyHeader text Protocol.networkTcp addr port = .ok header := by
  unfold openTcpStream at stream
  cases opened with
  | error reason => cases stream
  | ok _ =>
      cases built : Protocol.buildProxyHeader text Protocol.networkTcp addr port with
      | error reason =>
          rw [built] at stream
          cases stream
      | ok bytes =>
          rw [built] at stream
          cases written with
          | error reason => cases stream
          | ok _ => exact stream

theorem buildProxyHeader_empty (network : UInt8) (port : UInt16) :
    Protocol.buildProxyHeader text network "" port = .ok [network, Protocol.addrTypeNone] := rfl

theorem frames_readProxyHeader_empty (network : UInt8) :
    Frames (Protocol.readProxyHeader text) [network, Protocol.addrTypeNone] ⟨network, "", 0⟩ := by
  rw [← List.append_nil [network, Protocol.addrTypeNone]]
  apply (frames_readExact (⟨[network, Protocol.addrTypeNone], rfl⟩ : Octets 2)).bind
  exact Frames.pure (⟨network, "", 0⟩ : Protocol.ProxyHeader)

theorem buildProxyHeader_miswritten (miswritten : Miswritten text request.host) (network : UInt8)
    (port : UInt16) :
    Protocol.buildProxyHeader text network request.host port =
      .error "invalid IPv6 address syntax" := by
  obtain ⟨colon, unparsed⟩ := miswritten
  have nonempty : request.host.isEmpty = false := by
    apply beq_false_of_ne
    intro zero
    rw [String.utf8ByteSize_eq_zero_iff.mp zero] at colon
    cases colon
  unfold Protocol.buildProxyHeader containsColon
  simp only [nonempty, colon, decide_true, AddrText.parseIpv6, unparsed]
  rfl

/-- The header of a request that is not mistaken for an IPv6 address, and what the server
reads of it. -/
theorem buildProxyHeader_served (laws : AddrTextLaws text) (opening : Opening text request)
    (fine : ¬ Miswritten text request.host) :
    ∃ header,
      Protocol.buildProxyHeader text Protocol.networkTcp request.host request.port = .ok header ∧
        Frames (Protocol.readProxyHeader text) header (served text request) := by
  unfold served
  by_cases empty : request.host = ""
  · rw [empty, if_pos rfl]
    exact ⟨_, buildProxyHeader_empty _ _, frames_readProxyHeader_empty _⟩
  · rw [if_neg empty]
    obtain ⟨addrType, bytes, addressed⟩ :=
      Protocol.addressed_of_encodable (encodable_of_opening laws opening empty fine)
    exact ⟨_, addressed.buildProxyHeader laws _ _, addressed.framesProxyHeader laws _ _⟩

/-- What the server reads of a header that was written. -/
theorem frames_of_buildProxyHeader (laws : AddrTextLaws text) (opening : Opening text request)
    {header : Bytes}
    (built : Protocol.buildProxyHeader text Protocol.networkTcp request.host request.port =
      .ok header) :
    Frames (Protocol.readProxyHeader text) header (served text request) := by
  by_cases miswritten : Miswritten text request.host
  · rw [buildProxyHeader_miswritten miswritten] at built
    cases built
  · obtain ⟨bytes, alsoBuilt, framed⟩ := buildProxyHeader_served laws opening miswritten
    obtain rfl := Except.ok.inj (built.symm.trans alsoBuilt)
    exact framed

end Header

end Juicity.Client.Socks5Connect
