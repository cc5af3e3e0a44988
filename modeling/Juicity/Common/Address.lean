import Juicity.Common.Bytes

/-!
Owns byte readers and the readers of trojanc addresses, proxy headers and
underlay metadata in `common/src/protocol.rs`. A reader consumes what a stream still delivers before
it ends. The conversions of `std` between octets and text are a parameter.
-/

namespace Juicity.Common

/-- `Ipv4Addr::to_string`, `Ipv6Addr::to_string`, `String::from_utf8_lossy` and
`str::parse::<IpAddr>`. -/
structure AddrText where
  ipv4 : Octets 4 → String
  ipv6 : Octets 16 → String
  utf8Lossy : Bytes → String
  parseIp : String → Option IpAddr

/-- Reads from the bytes a stream still delivers. -/
abbrev Reader (α : Type) := StateT Bytes (Except String) α

/-- `read_exact` into an array. -/
def readExact (n : Nat) : Reader (Octets n) := fun input =>
  if enough : n ≤ input.length then
    .ok (⟨input.take n, List.length_take_of_le enough⟩, input.drop n)
  else
    .error "early eof"

/-- `u16::from_be_bytes`. -/
def u16FromBeBytes (bytes : Octets 2) : UInt16 :=
  (bytes.get 0).toUInt16 <<< 8 ||| (bytes.get 1).toUInt16

/-- `n` octets from `offset` on. -/
def Octets.part {length : Nat} (octets : Octets length) (offset n : Nat)
    (fits : offset + n ≤ length) : Octets n :=
  ⟨(octets.val.drop offset).take n, by
    rw [List.length_take, List.length_drop, octets.length_val]
    omega⟩

namespace Protocol

def addrTypeIpv4 : UInt8 := 1
def addrTypeDomain : UInt8 := 3
def addrTypeIpv6 : UInt8 := 4
def addrTypeNone : UInt8 := 255
def trojanMetadataTypeMsg : UInt8 := 2

/-- The host of a trojanc address, after its type. -/
def readHost (text : AddrText) (addrType : UInt8) : Reader String := do
  if addrType = addrTypeIpv4 then
    return text.ipv4 (← readExact 4)
  else if addrType = addrTypeIpv6 then
    return text.ipv6 (← readExact 16)
  else if addrType = addrTypeDomain then
    let len := (← readExact 1).get 0
    if len = 0 then
      throw "trojanc domain length is zero"
    return text.utf8Lossy (← readExact len.toNat).val
  else
    throw ("unknown trojanc address type: " ++ toString addrType)

/-- `[addr_type][addr][port]`. -/
def readTrojancAddr (text : AddrText) : Reader (String × UInt16) := do
  let host ← readHost text ((← readExact 1).get 0)
  return (host, u16FromBeBytes (← readExact 2))

/-- The variant with a buffer: the port, and what the buffer holds then. -/
def readTrojancAddrInto (text : AddrText) : Reader (UInt16 × String) := do
  let host ← readHost text ((← readExact 1).get 0)
  return (u16FromBeBytes (← readExact 2), host)

structure ProxyHeader where
  network : UInt8
  addr : String
  port : UInt16
deriving DecidableEq

/-- The address of a proxy header, after its type. -/
def readProxyHost (text : AddrText) (addrType : UInt8) : Reader String := do
  if addrType = addrTypeIpv4 then
    return text.ipv4 (← readExact 4)
  else if addrType = addrTypeIpv6 then
    return text.ipv6 (← readExact 16)
  else if addrType = addrTypeDomain then
    let len := (← readExact 1).get 0
    return text.utf8Lossy (← readExact len.toNat).val
  else if addrType = addrTypeNone then
    return ""
  else
    throw ("unknown address type: " ++ toString addrType)

def readProxyHeader (text : AddrText) : Reader ProxyHeader := do
  let buf ← readExact 2
  let network := buf.get 0
  let addrType := buf.get 1
  let addr ← readProxyHost text addrType
  if addrType = addrTypeNone then
    return ⟨network, addr, 0⟩
  else
    return ⟨network, addr, u16FromBeBytes (← readExact 2)⟩

/-- The hostname and port of an underlay auth message. -/
def readUnderlayMetadata (text : AddrText) : Reader (String × UInt16) := do
  let typ := (← readExact 1).get 0
  if typ = addrTypeIpv4 then
    let raw ← readExact 6
    return (text.ipv4 (raw.part 0 4 (by omega)), u16FromBeBytes (raw.part 4 2 (by omega)))
  else if typ = addrTypeIpv6 then
    let raw ← readExact 18
    return (text.ipv6 (raw.part 0 16 (by omega)), u16FromBeBytes (raw.part 16 2 (by omega)))
  else if typ = addrTypeDomain then
    let dlen := ((← readExact 1).get 0).toNat
    if dlen = 0 then
      throw "underlay metadata domain length is zero"
    let domain ← readExact (dlen + 2)
    return (text.utf8Lossy (domain.part 0 dlen (by omega)).val,
      u16FromBeBytes (domain.part dlen 2 (by omega)))
  else if typ = trojanMetadataTypeMsg then
    let _cmd ← readExact 1
    throw "underlay metadata message type is not supported"
  else
    throw ("unknown underlay metadata type: " ++ toString typ)

end Protocol

end Juicity.Common
