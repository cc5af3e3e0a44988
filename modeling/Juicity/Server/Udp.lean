import Juicity.Common.Bytes

/-!
Owns the endpoint types of `server/src/udp.rs` and `UdpEndpoint::new`. Binding
and resolving are the operating system's, so their results are arguments.
-/

namespace Juicity.Server

open Juicity.Common

/-- A UDP endpoint representing a full-cone NAT session; `socket` names a bound
socket. -/
structure UdpEndpoint where
  socket : Nat
  target : SocketAddr
  socketIsIpv6 : Bool
  dialTarget : String
deriving DecidableEq

/-- Cheap-to-clone snapshot of a pooled endpoint. -/
structure PooledUdpEndpoint where
  socket : Nat
  target : SocketAddr
  socketIsIpv6 : Bool
deriving DecidableEq

def PooledUdpEndpoint.fromEndpoint (endpoint : UdpEndpoint) : PooledUdpEndpoint :=
  ⟨endpoint.socket, endpoint.target, endpoint.socketIsIpv6⟩

/-- `UdpEndpoint::new`: bind first, then take the first resolved address. -/
def UdpEndpoint.new (dialTarget : String) (bound : Except String (Nat × Bool))
    (lookup : Except String (List SocketAddr)) : Except String UdpEndpoint := do
  let (socket, socketIsIpv6) ← bound
  match ← lookup with
  | target :: _ => pure ⟨socket, target, socketIsIpv6, dialTarget⟩
  | [] => throw ("no address found for " ++ dialTarget)

end Juicity.Server
