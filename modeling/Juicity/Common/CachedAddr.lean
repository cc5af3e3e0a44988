import Juicity.Common.Address

/-!
Owns the writers of trojanc addresses and proxy headers in
`common/src/protocol.rs`. A writer returns the bytes it appends.
-/

namespace Juicity.Common

/-- `str::as_bytes`. -/
def utf8 (text : String) : Bytes := text.toByteArray.data.toList

/-- `String::from_utf8`. -/
def fromUtf8 (bytes : Bytes) : Option String := String.fromUTF8? ⟨bytes.toArray⟩

/-- `str::contains(':')`. -/
def containsColon (text : String) : Bool := decide (':' ∈ text.toList)

/-- `u16::to_be_bytes`. -/
def u16ToBeBytes (value : UInt16) : Octets 2 :=
  ⟨[(value >>> 8).toUInt8, value.toUInt8], rfl⟩

namespace AddrText

/-- `str::parse::<Ipv4Addr>`, which accepts what `parse::<IpAddr>` accepts as IPv4. -/
def parseIpv4 (text : AddrText) (host : String) : Option (Octets 4) :=
  match text.parseIp host with
  | some (.v4 octets) => some octets
  | _ => none

/-- `str::parse::<Ipv6Addr>`, which accepts what `parse::<IpAddr>` accepts as IPv6. -/
def parseIpv6 (text : AddrText) (host : String) : Option (Octets 16) :=
  match text.parseIp host with
  | some (.v6 octets) => some octets
  | _ => none

/-- `IpAddr::to_string`. -/
def ip (text : AddrText) : IpAddr → String
  | .v4 octets => text.ipv4 octets
  | .v6 octets => text.ipv6 octets

end AddrText

/-- `[0u8; n]` with `source` copied to its front. -/
def Octets.padded (n : Nat) (source : Bytes) (fits : source.length ≤ n) : Octets n :=
  ⟨source ++ List.replicate (n - source.length) 0, by
    rw [List.length_append, List.length_replicate]
    omega⟩

/-- The octets of an IPv4-mapped address. -/
def Octets.lastFour (octets : Octets 16) : Octets 4 :=
  ⟨octets.val.drop 12, by rw [List.length_drop, octets.length_val]⟩

/-- `IpAddr::to_canonical`: an IPv4-mapped address is the IPv4 address. -/
def IpAddr.toCanonical : IpAddr → IpAddr
  | .v4 octets => .v4 octets
  | .v6 octets =>
      if octets.val.take 12 = [0, 0, 0, 0, 0, 0, 0, 0, 0, 0, 0xff, 0xff] then
        .v4 octets.lastFour
      else
        .v6 octets

namespace Protocol

def networkTcp : UInt8 := 1
def networkUdp : UInt8 := 3

/-- Pre-parsed address type. -/
inductive AddrType where
  | v4
  | v6
  | domain
deriving DecidableEq

def AddrType.fromHost (text : AddrText) (host : String) : AddrType :=
  if containsColon host then .v6
  else if (text.parseIpv4 host).isSome then .v4
  else .domain

def AddrType.toWireByte : AddrType → UInt8
  | .v4 => addrTypeIpv4
  | .v6 => addrTypeIpv6
  | .domain => addrTypeDomain

/-- Cached target address with pre-parsed address type and raw octets. -/
structure CachedAddr where
  addrType : AddrType
  hostBytes : Octets 255
  hostLen : UInt8
  port : UInt16
deriving DecidableEq

namespace CachedAddr

/-- Invalid hosts have zero length. -/
def fromHostPort (text : AddrText) (host : String) (port : UInt16) : CachedAddr :=
  match AddrType.fromHost text host with
  | .v4 =>
      match text.parseIpv4 host with
      | some ip => ⟨.v4, .padded 255 ip.val (by simp), 4, port⟩
      | none => ⟨.v4, .replicate 255 0, 0, port⟩
  | .v6 =>
      match text.parseIpv6 host with
      | some ip => ⟨.v6, .padded 255 ip.val (by simp), 16, port⟩
      | none => ⟨.v6, .replicate 255 0, 0, port⟩
  | .domain =>
      if fits : (utf8 host).length ≤ 255 then
        ⟨.domain, .padded 255 (utf8 host) fits, UInt8.ofNat (utf8 host).length, port⟩
      else
        ⟨.domain, .replicate 255 0, 0, port⟩

def fromSocketAddr (addr : SocketAddr) : CachedAddr :=
  match addr.ip with
  | .v4 octets => ⟨.v4, .padded 255 octets.val (by simp), 4, addr.port⟩
  | .v6 octets => ⟨.v6, .padded 255 octets.val (by simp), 16, addr.port⟩

end CachedAddr

/-- The check of `build_trojanc_addr_cached`. -/
def hostLenValid (cached : CachedAddr) : Bool :=
  match cached.addrType with
  | .v4 => cached.hostLen == 4
  | .v6 => cached.hostLen == 16
  | .domain => decide (0 < cached.hostLen)

/-- `[addr_type][addr][port]`. -/
def buildTrojancAddrCached (cached : CachedAddr) : Except String Bytes :=
  if hostLenValid cached then
    let host :=
      match cached.addrType with
      | .v4 => cached.hostBytes.val.take 4
      | .v6 => cached.hostBytes.val.take 16
      | .domain => cached.hostLen :: cached.hostBytes.val.take cached.hostLen.toNat
    .ok (cached.addrType.toWireByte :: host ++ (u16ToBeBytes cached.port).val)
  else
    .error "invalid cached host"

def buildTrojancAddr (text : AddrText) (addr : String) (port : UInt16) : Except String Bytes :=
  buildTrojancAddrCached (CachedAddr.fromHostPort text addr port)

/-- `[network][addr_type][addr][port]`, without address and port for an empty
address. -/
def buildProxyHeader (text : AddrText) (network : UInt8) (addr : String) (port : UInt16) :
    Except String Bytes :=
  if addr.isEmpty then
    .ok [network, addrTypeNone]
  else if containsColon addr then
    match text.parseIpv6 addr with
    | some ip => .ok (network :: addrTypeIpv6 :: ip.val ++ (u16ToBeBytes port).val)
    | none => .error "invalid IPv6 address syntax"
  else
    match text.parseIpv4 addr with
    | some ip => .ok (network :: addrTypeIpv4 :: ip.val ++ (u16ToBeBytes port).val)
    | none =>
        if (utf8 addr).length ≤ 255 then
          .ok (network :: addrTypeDomain :: UInt8.ofNat (utf8 addr).length ::
            utf8 addr ++ (u16ToBeBytes port).val)
        else
          .error ("proxy host too long: " ++ toString (utf8 addr).length)

end Protocol

end Juicity.Common
