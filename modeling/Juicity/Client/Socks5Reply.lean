import Juicity.Client.Socks5Udp
import Juicity.Common.LossyText

/-!
Owns `build_socks5_udp_packet` of `client/src/local.rs`, and what is read back of
the replies it makes.

A domain of a reply is read as text first. The text of bytes that are no UTF-8 is
longer than they are, and the packet has one byte for its length; a text that is
an address goes out as the address.
-/

namespace Juicity.Client

open Juicity.Common
open Juicity.Machine

/-- ATYP(1) + DST.ADDR; the length of a domain is cut to one byte. -/
def socks5Host (text : AddrText) (addr : String) : Bytes :=
  match text.parseIpv4 addr with
  | some ipv4 => 1 :: ipv4.val
  | none =>
      match text.parseIpv6 addr with
      | some ipv6 => 4 :: ipv6.val
      | none => 3 :: UInt8.ofNat (utf8 addr).length :: utf8 addr

/-- RSV, RSV, FRAG, the address, the port and the payload. -/
def buildSocks5UdpPacket (text : AddrText) (addr : String) (port : UInt16) (payload : Bytes) :
    Bytes :=
  [0, 0, 0] ++ socks5Host text addr ++ (u16ToBeBytes port).val ++ payload

/-- A host that comes back as it is: an address in its canonical form, or a domain whose
length fits in one byte. -/
def comesBack (text : AddrText) (host : String) : Bool :=
  match text.parseIp host with
  | some address => text.ip address = host
  | none => (utf8 host).length ≤ 255

/-- The bytes of the domain of a reply. -/
def replyDomain (input : Bytes) : Option Bytes :=
  match input with
  | addrType :: len :: rest =>
      if addrType = Protocol.addrTypeDomain then some (rest.take len.toNat) else none
  | _ => none

section Packet

variable {text : AddrText} {host : String}

theorem slice_append {n offset : Nat} (front rest : Bytes) (octets : Octets n)
    (width : front.length = offset) :
    slice n (front ++ (octets.val ++ rest)) offset = some octets := by
  have enough : offset + n ≤ (front ++ (octets.val ++ rest)).length := by
    simp only [List.length_append, octets.length_val]
    omega
  unfold slice
  rw [dif_pos enough]
  refine congrArg some (Subtype.ext ?_)
  show ((front ++ (octets.val ++ rest)).drop offset).take n = octets.val
  rw [List.drop_left' width, List.take_left' octets.length_val]

/-- The host, the port and the payload of a packet, behind some bytes in front. -/
theorem slices_packet {width offset : Nat} (front payload : Bytes) (octets : Octets width)
    (port : UInt16) (length : front.length = offset) :
    slice width (front ++ (octets.val ++ ((u16ToBeBytes port).val ++ payload))) offset =
        some octets ∧
      slice 2 (front ++ (octets.val ++ ((u16ToBeBytes port).val ++ payload))) (offset + width) =
        some (u16ToBeBytes port) ∧
      (front ++ (octets.val ++ ((u16ToBeBytes port).val ++ payload))).drop (offset + width + 2) =
        payload := by
  have hostWidth : (front ++ octets.val).length = offset + width := by
    rw [List.length_append, octets.length_val, length]
  have portWidth : (front ++ octets.val ++ (u16ToBeBytes port).val).length =
      offset + width + 2 := by
    rw [List.length_append, hostWidth, (u16ToBeBytes port).length_val]
  refine ⟨slice_append front _ octets length, ?_, ?_⟩
  · rw [← List.append_assoc]
    exact slice_append _ payload (u16ToBeBytes port) hostWidth
  · rw [← List.append_assoc, ← List.append_assoc]
    exact List.drop_left' portWidth

/-- A packet with an IPv4 address is read as its canonical text. -/
theorem parse_ipv4 (octets : Octets 4) (port : UInt16) (payload : Bytes) :
    parseSocks5UdpRequest text
        ([0, 0, 0] ++ (1 :: octets.val) ++ (u16ToBeBytes port).val ++ payload) =
      some ⟨text.ipv4 octets, port, payload⟩ := by
  have width : [0, 0, 0, (1 : UInt8)].length = 4 := rfl
  obtain ⟨hostAt, portAt, behind⟩ := slices_packet [0, 0, 0, 1] payload octets port width
  simp only [List.cons_append, List.nil_append, Nat.reduceAdd] at hostAt portAt
  simpa [parseSocks5UdpRequest, hostAt, portAt, u16FromBeBytes_toBeBytes] using behind

/-- A packet with an IPv6 address is read as its canonical text. -/
theorem parse_ipv6 (octets : Octets 16) (port : UInt16) (payload : Bytes) :
    parseSocks5UdpRequest text
        ([0, 0, 0] ++ (4 :: octets.val) ++ (u16ToBeBytes port).val ++ payload) =
      some ⟨text.ipv6 octets, port, payload⟩ := by
  have width : [0, 0, 0, (4 : UInt8)].length = 4 := rfl
  obtain ⟨hostAt, portAt, behind⟩ := slices_packet [0, 0, 0, 4] payload octets port width
  simp only [List.cons_append, List.nil_append, Nat.reduceAdd] at hostAt portAt
  simpa [parseSocks5UdpRequest, hostAt, portAt, u16FromBeBytes_toBeBytes] using behind

/-- A packet with a domain that fits is read as the domain. -/
theorem parse_domain (short : (utf8 host).length ≤ 255) (port : UInt16) (payload : Bytes) :
    parseSocks5UdpRequest text
        ([0, 0, 0] ++ (3 :: UInt8.ofNat (utf8 host).length :: utf8 host) ++
          (u16ToBeBytes port).val ++ payload) =
      some ⟨host, port, payload⟩ := by
  have length : (UInt8.ofNat (utf8 host).length).toNat = (utf8 host).length :=
    Protocol.toNat_ofNat_length short
  have width : [0, 0, 0, 3, UInt8.ofNat (utf8 host).length].length = 5 := rfl
  obtain ⟨_, portAt, behind⟩ := slices_packet [0, 0, 0, 3, UInt8.ofNat (utf8 host).length] payload
    (⟨utf8 host, rfl⟩ : Octets (utf8 host).length) port width
  have decoded : fromUtf8 (utf8 host) = some host := fromUtf8_eq_some_iff.mpr rfl
  have enough : 5 + (utf8 host).length ≤ (utf8 host).length + (2 + payload.length) + 3 := by
    omega
  simp only [List.cons_append, List.nil_append] at portAt
  simpa [parseSocks5UdpRequest, length, decoded, portAt, enough, u16FromBeBytes_toBeBytes]
    using behind

/-- A domain is read from no more bytes than its length byte says. -/
theorem domain_of_parse {dlen : UInt8} {rest : Bytes} {datagram : UdpOutboundDatagram}
    (accepted : parseSocks5UdpRequest text ([0, 0, 0, 3, dlen] ++ rest) = some datagram) :
    (utf8 datagram.addr).length ≤ dlen.toNat := by
  simp only [parseSocks5UdpRequest, Option.bind_eq_bind, Option.bind_eq_some_iff] at accepted
  obtain ⟨_, _, _, _, atyp, typed, branch⟩ := accepted
  obtain rfl : 3 = atyp := Option.some.inj typed
  rw [if_neg (by decide), if_pos rfl] at branch
  simp only [Option.bind_eq_some_iff] at branch
  obtain ⟨len, measured, _, _, domain, decoded, _, _, returned⟩ := branch
  obtain rfl : dlen = len := Option.some.inj measured
  obtain rfl := Option.some.inj returned
  show (utf8 domain).length ≤ dlen.toNat
  rw [fromUtf8_eq_some_iff.mp decoded, List.length_take]
  exact Nat.min_le_left _ _

/-- A reply is read back as it was exactly when its host comes back. -/
theorem parse_buildSocks5UdpPacket_iff (text : AddrText) (host : String) (port : UInt16)
    (payload : Bytes) :
    parseSocks5UdpRequest text (buildSocks5UdpPacket text host port payload) =
        some ⟨host, port, payload⟩ ↔ comesBack text host = true := by
  unfold buildSocks5UdpPacket socks5Host comesBack AddrText.parseIpv4 AddrText.parseIpv6
  cases parsed : text.parseIp host with
  | none =>
      dsimp only
      rw [decide_eq_true_eq]
      constructor
      · intro accepted
        have short : (utf8 host).length ≤ (UInt8.ofNat (utf8 host).length).toNat :=
          domain_of_parse accepted
        have byte := (UInt8.ofNat (utf8 host).length).toNat_lt
        omega
      · exact fun short => parse_domain short port payload
  | some address =>
      dsimp only
      rw [decide_eq_true_eq]
      cases address with
      | v4 octets =>
          rw [parse_ipv4, Option.some_inj, UdpOutboundDatagram.mk.injEq]
          exact and_iff_left ⟨rfl, rfl⟩
      | v6 octets =>
          rw [parse_ipv6, Option.some_inj, UdpOutboundDatagram.mk.injEq]
          exact and_iff_left ⟨rfl, rfl⟩

end Packet

/-! ## The wire -/

section Wire

variable {text : AddrText}

theorem shape_of_readExact {n : Nat} {input rest : Bytes} {octets : Octets n}
    (taken : readExact n input = .ok (octets, rest)) : input = octets.val ++ rest := by
  unfold readExact at taken
  split at taken
  · obtain ⟨rfl, rfl⟩ := Prod.mk.inj (Except.ok.inj taken)
    exact (List.take_append_drop n input).symm
  · cases taken

/-- The first byte of what is read. -/
theorem cons_of_readExact {input rest : Bytes} {octets : Octets 1}
    (taken : readExact 1 input = .ok (octets, rest)) : input = octets.get 0 :: rest := by
  rw [shape_of_readExact taken]
  obtain ⟨bytes, one⟩ := octets
  obtain ⟨byte, rfl⟩ := List.length_eq_one_iff.mp one
  rfl

/-- A host is the text of the octets, or of the domain, behind its type. -/
theorem host_of_readHost {addrType : UInt8} {input rest : Bytes} {host : String}
    (taken : Protocol.readHost text addrType input = .ok (host, rest)) :
    (addrType ≠ Protocol.addrTypeDomain ∧ ∃ address, host = text.ip address) ∨
      addrType = Protocol.addrTypeDomain ∧
        ∃ len domain, input = len :: (domain ++ rest) ∧ domain.length = len.toNat ∧
          host = text.utf8Lossy domain := by
  unfold Protocol.readHost at taken
  split at taken
  · rename_i ipv4
    obtain ⟨octets, middle, _, given⟩ := parts_of_bind taken
    obtain ⟨rfl, -⟩ := Prod.mk.inj (Except.ok.inj given)
    exact .inl ⟨by rw [ipv4]; decide, .v4 octets, rfl⟩
  split at taken
  · rename_i ipv6
    obtain ⟨octets, middle, _, given⟩ := parts_of_bind taken
    obtain ⟨rfl, -⟩ := Prod.mk.inj (Except.ok.inj given)
    exact .inl ⟨by rw [ipv6]; decide, .v6 octets, rfl⟩
  split at taken
  · rename_i domainType
    obtain ⟨len, middle, measured, named⟩ := parts_of_bind taken
    change (if len.get 0 = 0 then _ else _ : Reader String) middle = _ at named
    split at named
    · cases named
    · obtain ⟨domain, last, read, given⟩ := parts_of_bind named
      obtain ⟨rfl, rfl⟩ := Prod.mk.inj (Except.ok.inj given)
      refine .inr ⟨domainType, len.get 0, domain.val, ?_, domain.length_val, rfl⟩
      rw [cons_of_readExact measured, shape_of_readExact read]
  · cases taken

/-- The host of a response is an address in its canonical form, or the text of its domain. -/
theorem host_of_readOneUdpResponse {buf input rest : Bytes} {response : UdpResponse}
    (taken : readOneUdpResponse text buf input = .ok (response, rest)) :
    (replyDomain input = none ∧ ∃ address, response.addr = text.ip address) ∨
      ∃ domain, replyDomain input = some domain ∧ response.addr = text.utf8Lossy domain := by
  obtain ⟨⟨addr, port⟩, behindAddr, addressed, taken⟩ := parts_of_bind taken
  obtain ⟨len, behindLen, _, taken⟩ := parts_of_bind taken
  obtain ⟨filled, last, _, given⟩ := parts_of_bind taken
  obtain ⟨rfl, -⟩ := Prod.mk.inj (Except.ok.inj given)
  obtain ⟨addrType, behindType, typed, addressed⟩ := parts_of_bind addressed
  obtain ⟨host, behindHost, hosted, addressed⟩ := parts_of_bind addressed
  obtain ⟨_, _, _, given⟩ := parts_of_bind addressed
  obtain ⟨same, -⟩ := Prod.mk.inj (Except.ok.inj given)
  obtain ⟨rfl, -⟩ := Prod.mk.inj same
  have shape := cons_of_readExact typed
  rcases host_of_readHost hosted with
    ⟨noDomain, address⟩ | ⟨isDomain, len, domain, behind, fits, named⟩
  · refine .inl ⟨?_, address⟩
    rw [shape]
    cases behindType with
    | nil => rfl
    | cons first later => exact if_neg noDomain
  · refine .inr ⟨domain, ?_, named⟩
    rw [shape, behind]
    show (if addrType.get 0 = Protocol.addrTypeDomain then _ else _) = _
    rw [if_pos isDomain, List.take_left' fits]

/-- A reply is read back as the response that was relayed exactly when its domain, if it has
one, comes back as its text. -/
theorem relayedReply_iff (text : AddrText) (laws : AddrTextLaws text) (buf input rest : Bytes)
    (response : UdpResponse)
    (decoded : readOneUdpResponse text buf input = .ok (response, rest)) :
    parseSocks5UdpRequest text
          (buildSocks5UdpPacket text response.addr response.port response.payload) =
        some ⟨response.addr, response.port, response.payload⟩ ↔
      ∀ domain ∈ replyDomain input, comesBack text (text.utf8Lossy domain) = true := by
  rw [parse_buildSocks5UdpPacket_iff]
  rcases host_of_readOneUdpResponse decoded with ⟨none, address, named⟩ | ⟨domain, given, named⟩
  · rw [none, named]
    refine iff_of_true ?_ fun _ member => nomatch member
    cases address with
    | v4 octets =>
        have parsed : text.parseIp (text.ip (.v4 octets)) = some (.v4 octets) :=
          laws.parseIp_ipv4 octets
        rw [comesBack, parsed]
        exact decide_eq_true rfl
    | v6 octets =>
        have parsed : text.parseIp (text.ip (.v6 octets)) = some (.v6 octets) :=
          laws.parseIp_ipv6 octets
        rw [comesBack, parsed]
        exact decide_eq_true rfl
  · rw [given, named]
    simp

end Wire

/-! ## Domains that do not come back -/

/-- A response from a domain of 86 bytes, whose text has 256. -/
def longResponse : Bytes :=
  [3, 86] ++ List.replicate 85 0xff ++ [97] ++ [0, 53] ++ [0, 1] ++ [7]

/-- A response from a domain that reads as an IPv6 address. -/
def literalResponse : Bytes := [3, 6] ++ utf8 "0:0::1" ++ [0, 53] ++ [0, 1] ++ [7]

/-- The text of the long domain. -/
def longText : String := String.ofList (List.replicate 85 '\uFFFD' ++ ['a'])

theorem reply_cut :
    readOneUdpResponse LossyText.std [] longResponse = .ok (⟨longText, 53, [7]⟩, []) ∧
      parseSocks5UdpRequest LossyText.std (buildSocks5UdpPacket LossyText.std longText 53 [7]) =
        some ⟨"", 0xefbf, (utf8 longText).drop 2 ++ [0, 53, 7]⟩ ∧
      readOneUdpResponse LossyText.std [] literalResponse = .ok (⟨"0:0::1", 53, [7]⟩, []) ∧
      parseSocks5UdpRequest LossyText.std (buildSocks5UdpPacket LossyText.std "0:0::1" 53 [7]) =
        some ⟨"::1", 53, [7]⟩ := by
  refine ⟨?_, ?_, ?_, ?_⟩
  all_goals decide +kernel

/-- A response from a domain that is no UTF-8 and comes back as its text. -/
theorem relayedReply_iff_lossy :
    parseSocks5UdpRequest LossyText.std
        (buildSocks5UdpPacket LossyText.std "\uFFFDb" 53 [7]) = some ⟨"\uFFFDb", 53, [7]⟩ := by
  have decoded : readOneUdpResponse LossyText.std [] [3, 3, 0xe2, 0x82, 98, 0, 53, 0, 1, 7] =
      .ok (⟨"\uFFFDb", 53, [7]⟩, []) := by
    decide +kernel
  exact (relayedReply_iff LossyText.std LossyText.std_laws [] _ _ _ decoded).mpr
    (by decide +kernel)

end Juicity.Client
