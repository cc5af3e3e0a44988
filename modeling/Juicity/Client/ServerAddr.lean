import Juicity.Common.HostPort
import Juicity.Common.SocketAddrText

/-!
Owns `parse_server` of `client/src/client.rs`: the address of the server and the
name its certificate is checked for. A socket address is read by the standard
library; another text is split at its last colon, and neither brackets nor a
second colon may be left.
-/

namespace Juicity.Client

open Juicity.Common Juicity.Machine

def serverHostPort (server : String) : Except String (String × UInt16) :=
  match IpText.parseSocketAddr server with
  | some addr => .ok (IpText.std.ip addr.ip, addr.port)
  | none => do
      let (host, port) ← Link.parseHostPort server
      if host.isEmpty ∨ containsColon host ∨ server.toList.head? = some '[' then
        throw ("Invalid server address: " ++ server)
      return (host, port)

def parseServer (server sni : String) : Except String (String × UInt16 × String) := do
  let (host, port) ← serverHostPort server
  return (host, port, if sni.isEmpty then host else sni)

section Host

variable {host : String} {port : UInt16}

theorem canonical_of_parseIp {ip : IpAddr} (parsed : IpText.parseIp host = some ip) :
    IpText.std.canonical host = IpText.std.ip ip := by
  have read : IpText.std.parseIp host = some ip := parsed
  rw [AddrText.canonical, read]

/-- The canonical text is of the same address. -/
theorem parseIp_canonical (host : String) :
    IpText.parseIp (IpText.std.canonical host) = IpText.parseIp host := by
  cases parsed : IpText.parseIp host with
  | none =>
      have read : IpText.std.parseIp host = none := parsed
      rw [AddrText.canonical, read]
      exact parsed
  | some ip =>
      rw [canonical_of_parseIp parsed]
      change IpText.std.parseIp (IpText.std.ip ip) = some ip
      cases ip with
      | v4 octets => exact IpText.std_laws.parseIp_ipv4 octets
      | v6 octets => exact IpText.std_laws.parseIp_ipv6 octets

theorem head?_hostPort_ne {host : List Char} (plain : '[' ∉ host) (port : UInt16) :
    (host ++ ':' :: Nat.toDigits 10 port.toNat).head? ≠ some '[' := by
  intro bracket
  rcases List.mem_append.mp (List.mem_of_head? bracket) with inHost | inPort
  · exact plain inHost
  · rcases List.mem_cons.mp inPort with colon | digit
    · cases colon
    · have decimal := IpText.toDigits_decimal port '[' digit
      cases decimal

/-- A name with a port is split at the colon in front of the port. -/
theorem parseHostPort_hostPort (plain : '[' ∉ host.toList) (port : UInt16) :
    Link.parseHostPort (IpText.hostPort host port) = .ok (host, port) := by
  refine (Link.parseHostPort_bare ?_).mpr
    ⟨_, IpText.toList_hostPort host port, isPort_toDigits port⟩
  rw [IpText.toList_hostPort]
  exact head?_hostPort_ne plain port

/-- A host that is an IP address, in brackets if it is of the sixth version, is dialed at
that address. -/
theorem serverHostPort_socket {ip : IpAddr} (socket : IpText.SocketHost host ip)
    (port : UInt16) :
    serverHostPort (IpText.hostPort host port) = .ok (IpText.std.ip ip, port) := by
  rw [serverHostPort, socket.parseSocketAddr]

/-- A name is dialed as it stands. -/
theorem serverHostPort_name (nonempty : host ≠ "") (noColon : ':' ∉ host.toList)
    (noBracket : '[' ∉ host.toList) (port : UInt16) :
    serverHostPort (IpText.hostPort host port) = .ok (IpText.std.canonical host, port) := by
  cases parsed : IpText.parseIp host with
  | some ip =>
      rw [canonical_of_parseIp parsed]
      cases ip with
      | v4 octets => exact serverHostPort_socket (.v4 parsed) port
      | v6 octets => exact absurd (IpText.std_laws.ipv6_colon host octets parsed) noColon
  | none =>
      have unread : IpText.parseSocketAddr (IpText.hostPort host port) = none := by
        by_contra read
        obtain ⟨addr, read⟩ := Option.ne_none_iff_exists'.mp read
        have socket := IpText.socketHost_of_parseSocketAddr read
        generalize addr.ip = ip at socket
        cases socket with
        | v4 address => cases parsed.symm.trans address
        | v6 address valid => exact noBracket (by simp)
      have named : IpText.std.canonical host = host := by
        have read : IpText.std.parseIp host = none := parsed
        rw [AddrText.canonical, read]
      have filled : host.isEmpty = false := by simpa using nonempty
      have bare : ¬(IpText.hostPort host port).toList.head? = some '[' := by
        rw [IpText.toList_hostPort]
        exact head?_hostPort_ne noBracket port
      rw [serverHostPort, unread, named]
      dsimp only
      rw [parseHostPort_hostPort noBracket port]
      have accepted : ¬(host.isEmpty = true ∨ containsColon host = true ∨
          (IpText.hostPort host port).toList.head? = some '[') := by
        simp [filled, containsColon, noColon, bare]
      show (if _ then _ else _) = _
      exact if_neg accepted

end Host

end Juicity.Client
