import Juicity.Client.UdpStream
import Juicity.Common.AddressCodec

/-!
Owns the datagram side of the SOCKS5 UDP front in `client/src/local.rs`: the
parser of requests, and the reads of the responses of a session, whose loop
reuses one buffer.
-/

namespace Juicity.Client

open Juicity.Common
open Juicity.Machine

/-! ## Requests -/

/-- The `n` bytes of the packet from `offset` on. -/
def slice (n : Nat) (packet : Bytes) (offset : Nat) : Option (Octets n) :=
  if enough : offset + n ≤ packet.length then
    some ⟨(packet.drop offset).take n, by
      rw [List.length_take, List.length_drop]
      omega⟩
  else none

/-- RSV(2) + FRAG(1) + ATYP(1) + DST.ADDR + DST.PORT(2) + DATA -/
def parseSocks5UdpRequest (text : AddrText) (packet : Bytes) : Option UdpOutboundDatagram := do
  guard (4 ≤ packet.length)
  -- Fragmented UDP is not supported.
  guard (packet[2]? = some 0)
  let atyp ← packet[3]?
  if atyp = 1 then
    let ip ← slice 4 packet 4
    let p ← slice 2 packet 8
    return ⟨text.ipv4 ip, u16FromBeBytes p, packet.drop 10⟩
  else if atyp = 3 then
    let dlen ← packet[4]?
    guard (5 + dlen.toNat + 2 ≤ packet.length)
    let domain ← fromUtf8 ((packet.drop 5).take dlen.toNat)
    let p ← slice 2 packet (5 + dlen.toNat)
    return ⟨domain, u16FromBeBytes p, packet.drop (5 + dlen.toNat + 2)⟩
  else if atyp = 4 then
    let ip ← slice 16 packet 4
    let p ← slice 2 packet 20
    return ⟨text.ipv6 ip, u16FromBeBytes p, packet.drop 22⟩
  else
    none

/-! ## Responses -/

/-- What the client reads of one response. -/
structure UdpResponse where
  addr : String
  port : UInt16
  payload : Bytes
deriving DecidableEq

/-- `Vec::resize(len, 0)`. -/
def resize (buf : Bytes) (len : Nat) : Bytes := buf.take len ++ List.replicate (len - buf.length) 0

/-- `read_one_udp_response`; the payload is what the buffer holds then. -/
def readOneUdpResponse (text : AddrText) (buf : Bytes) : Reader UdpResponse := do
  let (addr, port) ← Protocol.readTrojancAddr text
  let pktLen := (u16FromBeBytes (← readExact 2)).toNat
  let resized := resize buf pktLen
  let filled ← readExact pktLen
  return ⟨addr, port, filled.val ++ resized.drop pktLen⟩

theorem length_resize (buf : Bytes) (len : Nat) : (resize buf len).length = len := by
  unfold resize
  rw [List.length_append, List.length_take, List.length_replicate]
  omega

/-- The old contents of the buffer do not matter. -/
theorem readOneUdpResponse_buf (text : AddrText) (buf : Bytes) :
    readOneUdpResponse text buf = readOneUdpResponse text [] := by
  have cut : ∀ buf len, (resize buf len).drop len = [] := fun buf len =>
    List.drop_of_length_le (Nat.le_of_eq (length_resize buf len))
  unfold readOneUdpResponse
  simp only [cut]

theorem consumes_readOneUdpResponse {text : AddrText} {buf : Bytes} :
    Consumes (readOneUdpResponse text buf) 1 :=
  Protocol.consumes_readTrojancAddr.bind fun _ =>
    consumes_readThen 2 fun _ => consumes_readThen _ fun _ => .pure _

/-- The loop of the session's reader: the responses, and what the failing read met. -/
def readUdpResponses (text : AddrText) (buf input : Bytes) : List UdpResponse × Bytes :=
  match taken : readOneUdpResponse text buf input with
  | .ok (response, rest) =>
      have : rest.length < input.length := consumes_readOneUdpResponse _ _ _ taken
      let later := readUdpResponses text response.payload rest
      (response :: later.1, later.2)
  | .error _ => ([], input)
termination_by input.length

def udpResponses (text : AddrText) : FrameReader UInt8 String UdpResponse :=
  ⟨readOneUdpResponse text [], consumes_readOneUdpResponse⟩

theorem readUdpResponses_eq (text : AddrText) (buf input : Bytes) :
    readUdpResponses text buf input = (udpResponses text).readAll input := by
  fun_induction readUdpResponses text buf input with
  | case1 buf input response rest taken fewer later inductionHypothesis =>
      rw [readOneUdpResponse_buf] at taken
      rw [FrameReader.readAll_of_ok taken, ← inductionHypothesis]
  | case2 buf input error failed =>
      rw [readOneUdpResponse_buf] at failed
      rw [FrameReader.readAll_of_error failed]

end Juicity.Client
