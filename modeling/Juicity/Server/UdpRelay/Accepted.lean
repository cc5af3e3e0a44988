import Juicity.Client.Socks5Udp
import Juicity.Server.UdpRelay.Uplink

/-!
Owns what becomes of the requests the SOCKS5 UDP front accepts. The front takes
any UTF-8 domain, the writer only what a trojanc address can carry: a request
with an empty domain, or with a colon in a domain that is no IPv6 literal, is
accepted and then ends the writer of its session.
-/

namespace Juicity.Server.UdpRelay

open Juicity.Client
open Juicity.Common
open Juicity.Machine

variable {text : AddrText}

/-- The writer loop of a session over what its channel delivers: the frames it
writes, and the datagrams left when an encoding error ends it. -/
def writeQueue (text : AddrText) :
    List UdpOutboundDatagram → List Bytes × List UdpOutboundDatagram
  | [] => ([], [])
  | datagram :: queue =>
      match sendUdpDatagram (.fromHostPort text datagram.addr datagram.port) datagram.payload with
      | .ok frame =>
          let later := writeQueue text queue
          (frame :: later.1, later.2)
      | .error _ => ([], datagram :: queue)

/-- The datagram can open a stream and follow on one, the server reads it as it
was accepted, and no writer ends at it. -/
structure Carried (text : AddrText) (datagram : UdpOutboundDatagram) : Prop where
  opens : ∃ bytes,
    openUdpStream text datagram.addr datagram.port datagram.payload = .ok bytes ∧
    receive text bytes =
      ⟨some ⟨Protocol.networkUdp, text.canonical datagram.addr, datagram.port⟩,
        [expected text datagram], []⟩
  sends : ∃ tokens,
    sendUdpDatagram (.fromHostPort text datagram.addr datagram.port) datagram.payload =
      .ok tokens ∧
    readDatagram text tokens = .ok (expected text datagram, [])
  survives : ∀ queue, (writeQueue text (datagram :: queue)).2 = (writeQueue text queue).2

/-- The host is not empty, and a colon in it belongs to an IPv6 literal. -/
def FitsTrojanc (text : AddrText) (host : String) : Prop :=
  host ≠ "" ∧ (':' ∈ host.toList → ∃ octets, text.parseIp host = some (.v6 octets))

/-! ## What the front accepts -/

theorem ip_or_short_of_parse (laws : AddrTextLaws text) {packet : Bytes}
    {datagram : UdpOutboundDatagram}
    (accepted : parseSocks5UdpRequest text packet = some datagram) :
    (∃ address, text.parseIp datagram.addr = some address) ∨
      (utf8 datagram.addr).length ≤ 255 := by
  unfold parseSocks5UdpRequest at accepted
  simp only [Option.bind_eq_bind, Option.bind_eq_some_iff] at accepted
  obtain ⟨_, _, _, _, atyp, _, branch⟩ := accepted
  split at branch
  · simp only [Option.bind_eq_some_iff] at branch
    obtain ⟨ip, _, _, _, returned⟩ := branch
    obtain rfl := Option.some.inj returned
    exact .inl ⟨_, laws.parseIp_ipv4 ip⟩
  · split at branch
    · simp only [Option.bind_eq_some_iff] at branch
      obtain ⟨dlen, _, _, _, domain, decoded, _, _, returned⟩ := branch
      obtain rfl := Option.some.inj returned
      right
      show (utf8 domain).length ≤ 255
      rw [fromUtf8_eq_some_iff.mp decoded, List.length_take]
      have bound := dlen.toNat_lt
      omega
    · split at branch
      · simp only [Option.bind_eq_some_iff] at branch
        obtain ⟨ip, _, _, _, returned⟩ := branch
        obtain rfl := Option.some.inj returned
        exact .inl ⟨_, laws.parseIp_ipv6 ip⟩
      · cases branch

theorem encodable_of_fits (laws : AddrTextLaws text) {packet : Bytes}
    {datagram : UdpOutboundDatagram}
    (accepted : parseSocks5UdpRequest text packet = some datagram)
    (fits : FitsTrojanc text datagram.addr) : Encodable text datagram.addr := by
  refine ⟨fits.1, ?_⟩
  by_cases colon : ':' ∈ datagram.addr.toList
  · obtain ⟨octets, parsed⟩ := fits.2 colon
    exact .inl ⟨_, parsed⟩
  · rcases ip_or_short_of_parse laws accepted with address | short
    · exact .inl address
    · exact .inr ⟨colon, short⟩

theorem fits_of_encodable (laws : AddrTextLaws text) {host : String}
    (encodable : Encodable text host) : FitsTrojanc text host := by
  refine ⟨encodable.1, fun colon => ?_⟩
  rcases encodable.2 with ⟨address, parsed⟩ | ⟨plain, -⟩
  · cases address with
    | v4 octets => exact absurd colon (laws.ipv4_colon host octets parsed)
    | v6 octets => exact ⟨octets, parsed⟩
  · exact absurd colon plain

/-! ## What can be carried -/

theorem carried_of_sendable (laws : AddrTextLaws text) {datagram : UdpOutboundDatagram}
    (sendable : Sendable text datagram) : Carried text datagram where
  opens := by
    obtain ⟨header, tokens, opened, headerFrame, firstFrame⟩ := openUdpStream_frames laws sendable
    refine ⟨header ++ tokens, opened, ?_⟩
    have read : relayDatagrams text tokens = ([expected text datagram], []) := by
      have whole := relayDatagrams_frames firstFrame .nil
      rwa [List.flatten_nil, List.append_nil] at whole
    unfold receive
    rw [headerFrame.whole]
    simp only [if_true, read]
  sends := by
    obtain ⟨tokens, sent, frame⟩ := sendUdpDatagram_frames laws sendable
    have whole := frame.whole []
    rw [List.append_nil] at whole
    exact ⟨tokens, sent, whole⟩
  survives := by
    obtain ⟨tokens, sent, -⟩ := sendUdpDatagram_frames laws sendable
    intro queue
    rw [writeQueue, sent]

theorem encodable_of_sent (laws : AddrTextLaws text) {datagram : UdpOutboundDatagram}
    {tokens : Bytes}
    (sent : sendUdpDatagram (.fromHostPort text datagram.addr datagram.port) datagram.payload =
      .ok tokens) : Encodable text datagram.addr := by
  unfold sendUdpDatagram at sent
  cases packetLen : udpPacketLen datagram.payload with
  | error error =>
      rw [packetLen] at sent
      cases sent
  | ok len =>
      cases built : Protocol.buildTrojancAddrCached
          (.fromHostPort text datagram.addr datagram.port) with
      | error error =>
          rw [packetLen, built] at sent
          cases sent
      | ok addrBuf =>
          obtain ⟨_, _, addressed⟩ := Protocol.addressed_of_buildTrojancAddr built
          exact Protocol.encodable_of_addressed laws addressed

/-- An accepted request with a payload of at most 65535 bytes can be carried
exactly if its host fits a trojanc address. -/
theorem accepted_carried_iff (text : AddrText) (laws : AddrTextLaws text) :
    ∀ packet datagram, parseSocks5UdpRequest text packet = some datagram →
      datagram.payload.length ≤ 65535 →
      (Carried text datagram ↔ FitsTrojanc text datagram.addr) := by
  intro packet datagram accepted short
  constructor
  · intro carried
    obtain ⟨tokens, sent, -⟩ := carried.sends
    exact fits_of_encodable laws (encodable_of_sent laws sent)
  · intro fits
    exact carried_of_sendable laws ⟨encodable_of_fits laws accepted fits, short⟩

/-- A writer that ends at a datagram does not carry it. -/
theorem not_carried_of_ended {datagram : UdpOutboundDatagram}
    (ended : (writeQueue text [datagram]).2 = [datagram]) : ¬ Carried text datagram := by
  intro carried
  have survived := carried.survives []
  rw [ended] at survived
  cases survived

/-- A request for an empty domain. -/
def emptyDomain : Bytes := [0, 0, 0, 3, 0, 0, 53]

/-- A request for the domain `a:b`. -/
def colonDomain : Bytes := [0, 0, 0, 3, 3, 97, 58, 98, 0, 53, 1]

theorem accepted_not_carried :
    (parseSocks5UdpRequest IpText.std emptyDomain = some ⟨"", 53, []⟩ ∧
      ¬ Carried IpText.std ⟨"", 53, []⟩) ∧
    (parseSocks5UdpRequest IpText.std colonDomain = some ⟨"a:b", 53, [1]⟩ ∧
      ¬ Carried IpText.std ⟨"a:b", 53, [1]⟩) := by
  refine ⟨⟨?_, not_carried_of_ended ?_⟩, ?_, not_carried_of_ended ?_⟩
  all_goals decide +kernel

/-- A request for the domain `a.b`. -/
theorem accepted_carried_iff_sample :
    ∃ datagram, parseSocks5UdpRequest IpText.std [0, 0, 0, 3, 3, 97, 46, 98, 0, 53, 1] =
        some datagram ∧
      (Carried IpText.std datagram ↔ FitsTrojanc IpText.std datagram.addr) ∧
      Carried IpText.std datagram := by
  have accepted : parseSocks5UdpRequest IpText.std [0, 0, 0, 3, 3, 97, 46, 98, 0, 53, 1] =
      some ⟨"a.b", 53, [1]⟩ := by
    decide +kernel
  have iff := accepted_carried_iff IpText.std IpText.std_laws _ _ accepted (by decide)
  have plain : ':' ∉ "a.b".toList := by
    decide +kernel
  exact ⟨_, accepted, iff, iff.mpr ⟨by decide, fun colon => absurd colon plain⟩⟩

end Juicity.Server.UdpRelay
