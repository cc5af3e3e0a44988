import Juicity.Common.SocketAddrText

/-!
Owns the TCP side of `server/src/dialer.rs` and the target that `handle_stream`
forms for it: which addresses a dialer attempts to connect to for the host and
port of a proxy header. The name service is a parameter that both dialers share.

The dialer with a bound address parses its target and never resolves it, so only
hosts that make a socket address are dialed.
-/

namespace Juicity.Server.Dial

open Juicity.Common
open Juicity.Common.IpText

/-- `DefaultDialer`, and `BindDialer` with its `bind_addr`. -/
inductive Dialer where
  | default
  | bind (bindAddr : IpAddr)

/-- The addresses `dial_tcp` attempts to connect to, one after the other until one accepts;
none when it fails before connecting. -/
def Dialer.dialTcp (lookup : String → List IpAddr) (addr : String) : Dialer → List SocketAddr
  | .default => toSocketAddrs lookup addr
  | .bind _ => (parseSocketAddr addr).toList

/-- The target of `handle_stream`: the host as the proxy header has it, without brackets. -/
def target (hostname : String) (port : UInt16) : String := hostPort hostname port

def isIpv4 : IpAddr → Bool
  | .v4 _ => true
  | .v6 _ => false

/-- The hostname is the address, or resolves to it behind the port. -/
def Denotes (lookup : String → List IpAddr) (hostname : String) (port : UInt16) (ip : IpAddr) :
    Prop :=
  parseIp hostname = some ip ∨ ⟨ip, port⟩ ∈ toSocketAddrs lookup (target hostname port)

/-- Every address of the bound family that the hostname denotes is attempted by both
dialers. -/
def SameDestination (lookup : String → List IpAddr) (bindAddr : IpAddr) (hostname : String)
    (port : UInt16) : Prop :=
  ∀ ip, isIpv4 ip = isIpv4 bindAddr → Denotes lookup hostname port ip →
    ⟨ip, port⟩ ∈ Dialer.default.dialTcp lookup (target hostname port) ∧
      ⟨ip, port⟩ ∈ (Dialer.bind bindAddr).dialTcp lookup (target hostname port)

variable {lookup : String → List IpAddr} {bindAddr ip : IpAddr} {hostname : String}
  {port : UInt16}

/-- A bracketed text is not the text of an address. -/
theorem parseIp_bracketed (rest : List Char) : parseIp (String.ofList ('[' :: rest)) = none := by
  cases parsed : parseIp (String.ofList ('[' :: rest)) with
  | none => rfl
  | some address =>
      cases address with
      | v4 octets =>
          have read := parseIp_eq_v4 parsed
          rw [String.toList_ofList, readIpv4Addr_of_stops (stops_cons (by decide))] at read
          cases read
      | v6 octets =>
          have plain := isAddressChar_of_ipv6 parsed '[' (by simp)
          cases plain

theorem eq_of_socketHost {other : IpAddr} (socket : SocketHost hostname ip)
    (parsed : parseIp hostname = some other) : other = ip := by
  cases socket with
  | v4 address => exact Option.some.inj (parsed.symm.trans address)
  | v6 address valid =>
      rw [parseIp_bracketed] at parsed
      cases parsed

theorem toSocketAddrs_of_socketHost (socket : SocketHost hostname ip) :
    toSocketAddrs lookup (target hostname port) = [⟨ip, port⟩] := by
  unfold toSocketAddrs target
  rw [socket.parseSocketAddr]

/-- A host that makes a socket address is dialed by both. -/
theorem sameDestination_of_socketHost (socket : SocketHost hostname ip) :
    SameDestination lookup bindAddr hostname port := by
  intro other _ denotes
  have resolved : toSocketAddrs lookup (target hostname port) = [⟨ip, port⟩] :=
    toSocketAddrs_of_socketHost socket
  have same : other = ip := by
    rcases denotes with parsed | member
    · exact eq_of_socketHost socket parsed
    · rw [resolved] at member
      exact congrArg SocketAddr.ip (List.mem_singleton.mp member)
  subst same
  constructor
  · show _ ∈ toSocketAddrs lookup (target hostname port)
    rw [resolved]
    exact List.mem_singleton_self _
  · show _ ∈ (parseSocketAddr (target hostname port)).toList
    rw [target, socket.parseSocketAddr]
    exact List.mem_singleton_self _

/-- Both dialers attempt the same addresses of the bound family exactly when the hostname is
an IPv4 address or a bracketed IPv6 address, or neither is nor is looked up as an address of
that family. -/
theorem sameDestination_iff (lookup : String → List IpAddr) (bindAddr : IpAddr)
    (hostname : String) (port : UInt16) :
    SameDestination lookup bindAddr hostname port ↔
      (∃ ip, SocketHost hostname ip) ∨
        ∀ ip, isIpv4 ip = isIpv4 bindAddr →
          parseIp hostname ≠ some ip ∧ ip ∉ lookup hostname := by
  by_cases socket : ∃ ip, SocketHost hostname ip
  · obtain ⟨ip, socket⟩ := socket
    exact ⟨fun _ => .inl ⟨ip, socket⟩, fun _ => sameDestination_of_socketHost socket⟩
  · obtain ⟨ip, other, _⟩ | ⟨unparsed, resolved⟩ := toSocketAddrs_hostPort lookup hostname port
    · exact absurd ⟨ip, other⟩ socket
    have nothing : (Dialer.bind bindAddr).dialTcp lookup (target hostname port) = [] := by
      show (parseSocketAddr (target hostname port)).toList = []
      rw [target, unparsed]
      rfl
    have found : ∀ ip, ⟨ip, port⟩ ∈ toSocketAddrs lookup (target hostname port) ↔
        ip ∈ lookup hostname := by
      intro ip
      rw [target, resolved]
      simp
    constructor
    · intro same
      right
      intro ip family
      have never : ¬ Denotes lookup hostname port ip := by
        intro denotes
        have attempted := (same ip family denotes).2
        rw [nothing] at attempted
        cases attempted
      exact ⟨fun parsed => never (.inl parsed), fun member => never (.inr ((found ip).mpr member))⟩
    · rintro (other | none)
      · exact absurd other socket
      · intro ip family denotes
        rcases denotes with parsed | member
        · exact absurd parsed (none ip family).1
        · exact absurd ((found ip).mp member) (none ip family).2

/-! ## A name, and an IPv6 address -/

/-- An address that is dialed without a bound address only. -/
theorem not_sameDestination
    (dialed : Dialer.default.dialTcp lookup (target hostname port) = [⟨ip, port⟩])
    (bound : (Dialer.bind bindAddr).dialTcp lookup (target hostname port) = [])
    (family : isIpv4 ip = isIpv4 bindAddr) :
    ¬ SameDestination lookup bindAddr hostname port := by
  intro same
  have member : ⟨ip, port⟩ ∈ Dialer.default.dialTcp lookup (target hostname port) := by
    rw [dialed]
    exact List.mem_singleton_self _
  have attempted := (same ip family (.inr member)).2
  rw [bound] at attempted
  cases attempted

def exampleIpv4 : IpAddr := .v4 ⟨[93, 184, 216, 34], rfl⟩

def exampleIpv6 : IpAddr := .v6 ⟨[32, 1, 13, 184] ++ (List.replicate 11 0 ++ [1]), rfl⟩

/-- A name service that knows one name. -/
def exampleLookup (host : String) : List IpAddr :=
  if host = "example.org" then [exampleIpv4] else (parseIp host).toList

/-- `example.org:443` over TCP. -/
def nameHeader : Bytes :=
  [1, 3, 11, 101, 120, 97, 109, 112, 108, 101, 46, 111, 114, 103, 1, 187]

/-- `[2001:db8::1]:443` over TCP. -/
def ipv6Header : Bytes :=
  [1, 4, 32, 1, 13, 184, 0, 0, 0, 0, 0, 0, 0, 0, 0, 0, 0, 1, 1, 187]

/-- The proxy headers of a name and of an IPv6 address give targets that are dialed without a
bound address and not with one. -/
theorem bound_notDialed :
    (Protocol.readProxyHeader IpText.std nameHeader).toOption =
        some (⟨1, "example.org", 443⟩, []) ∧
      Dialer.default.dialTcp exampleLookup (target "example.org" 443) = [⟨exampleIpv4, 443⟩] ∧
      (Dialer.bind (.v4 (.replicate 4 0))).dialTcp exampleLookup (target "example.org" 443) = [] ∧
      ¬ SameDestination exampleLookup (.v4 (.replicate 4 0)) "example.org" 443 ∧
      (Protocol.readProxyHeader IpText.std ipv6Header).toOption =
        some (⟨1, "2001:db8::1", 443⟩, []) ∧
      Dialer.default.dialTcp exampleLookup (target "2001:db8::1" 443) = [⟨exampleIpv6, 443⟩] ∧
      (Dialer.bind (.v6 (.replicate 16 0))).dialTcp exampleLookup (target "2001:db8::1" 443) =
        [] ∧
      ¬ SameDestination exampleLookup (.v6 (.replicate 16 0)) "2001:db8::1" 443 := by
  have name : Dialer.default.dialTcp exampleLookup (target "example.org" 443) =
      [⟨exampleIpv4, 443⟩] := by
    decide +kernel
  have boundName : (Dialer.bind (.v4 (.replicate 4 0))).dialTcp exampleLookup
      (target "example.org" 443) = [] := by
    decide +kernel
  have literal : Dialer.default.dialTcp exampleLookup (target "2001:db8::1" 443) =
      [⟨exampleIpv6, 443⟩] := by
    decide +kernel
  have boundLiteral : (Dialer.bind (.v6 (.replicate 16 0))).dialTcp exampleLookup
      (target "2001:db8::1" 443) = [] := by
    decide +kernel
  exact ⟨by decide +kernel, name, boundName, not_sameDestination name boundName rfl,
    by decide +kernel, literal, boundLiteral, not_sameDestination literal boundLiteral rfl⟩

end Juicity.Server.Dial
