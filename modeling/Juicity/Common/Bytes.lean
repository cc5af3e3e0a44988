import Mathlib.Data.List.Basic
import Mathlib.Tactic.Common

/-!
Owns byte strings. `Bytes` is a byte slice or vector; `Octets n` is the array
`[u8; n]`, whose length is part of the type. Socket addresses are the two
families of `std::net` with the port; the flow label and scope of an IPv6
address are left out because nothing modelled reads them.
-/

namespace Juicity.Common

abbrev Bytes := List UInt8

/-- The array `[u8; n]`. -/
def Octets (n : Nat) := { bytes : Bytes // bytes.length = n }

namespace Octets

variable {n : Nat}

instance : DecidableEq (Octets n) :=
  inferInstanceAs (DecidableEq { bytes : Bytes // bytes.length = n })

/-- `[byte; n]`. -/
def replicate (n : Nat) (byte : UInt8) : Octets n :=
  ⟨List.replicate n byte, List.length_replicate⟩

def get (octets : Octets n) (index : Fin n) : UInt8 :=
  octets.val.get (index.cast octets.property.symm)

/-- `octets[index]`, for an index within the array. -/
def byte (octets : Octets n) (index : Nat) : UInt8 := octets.val.getD index 0

theorem byte_eq_get (octets : Octets n) (index : Fin n) : octets.byte index = octets.get index := by
  have within : index.val < octets.val.length := by rw [octets.property]; exact index.isLt
  rw [byte, List.getD_eq_getElem?_getD, List.getElem?_eq_getElem within]
  rfl

@[simp] theorem length_val (octets : Octets n) : octets.val.length = n := octets.property

end Octets

/-- `std::net::IpAddr`. -/
inductive IpAddr where
  | v4 (octets : Octets 4)
  | v6 (octets : Octets 16)
deriving DecidableEq

/-- `std::net::SocketAddr`. -/
structure SocketAddr where
  ip : IpAddr
  port : UInt16
deriving DecidableEq

end Juicity.Common
