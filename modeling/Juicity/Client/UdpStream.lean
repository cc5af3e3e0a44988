import Juicity.Common.CachedAddr

/-!
Owns the UDP half of `client/src/client.rs`: the bytes that `open_udp_stream`
and `send_udp_datagram` hand to the stream in their one `write_all`. The
connection itself is taken as given.
-/

namespace Juicity.Client

open Juicity.Common

/-- `u16::try_from(len)`, big endian. -/
def udpPacketLen (data : Bytes) : Except String (Octets 2) :=
  if data.length ≤ 65535 then .ok (u16ToBeBytes (UInt16.ofNat data.length))
  else .error "UDP payload exceeds 65535 bytes"

/-- `[network=3][trojanc_addr]`, then `[trojanc_addr][len(2)][payload]`. -/
def openUdpStream (text : AddrText) (addr : String) (port : UInt16) (firstPacket : Bytes) :
    Except String Bytes := do
  let pktLen ← udpPacketLen firstPacket
  let streamHeader ← Protocol.buildProxyHeader text Protocol.networkUdp addr port
  let dgramAddr ← Protocol.buildTrojancAddr text addr port
  return streamHeader ++ (dgramAddr ++ (pktLen.val ++ firstPacket))

/-- `[trojanc_addr][len(2)][payload]`. -/
def sendUdpDatagram (cached : Protocol.CachedAddr) (data : Bytes) : Except String Bytes := do
  let len ← udpPacketLen data
  let addrBuf ← Protocol.buildTrojancAddrCached cached
  return addrBuf ++ (len.val ++ data)

/-- `UdpOutboundDatagram`: what the local fronts hand to a UDP session. -/
structure UdpOutboundDatagram where
  addr : String
  port : UInt16
  payload : Bytes
deriving DecidableEq

/-- The session's writer opens the stream with the first datagram and sends the
others on it, each with its own cached address. -/
def writeUdpSession (text : AddrText) (first : UdpOutboundDatagram)
    (later : List UdpOutboundDatagram) : Except String Bytes := do
  let opened ← openUdpStream text first.addr first.port first.payload
  let sent ← later.mapM fun datagram =>
    sendUdpDatagram (.fromHostPort text datagram.addr datagram.port) datagram.payload
  return opened ++ sent.flatten

end Juicity.Client
