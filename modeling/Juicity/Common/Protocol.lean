import Juicity.Common.Bytes

/-!
Owns the data types of `common/src/protocol.rs` that the server passes around:
the network kind, the metadata of a proxied connection and the underlay
authentication message.
-/

namespace Juicity.Common

/-- A `uuid::Uuid`. -/
abbrev Uuid := Octets 16

/-- Network type for proxied connections. -/
inductive Network where
  | tcp
  | udp
deriving DecidableEq, Repr

/-- Metadata of a proxied connection. -/
structure ProxyMetadata where
  network : Network
  hostname : String
  port : UInt16
  uuid : Uuid
deriving DecidableEq

/-- `host:port`, as it is handed to the resolver. -/
def ProxyMetadata.targetAddr (metadata : ProxyMetadata) : String :=
  metadata.hostname ++ ":" ++ toString metadata.port.toNat

/-- The text after the last colon of `host:port`. -/
theorem lastField_targetAddr (metadata : ProxyMetadata) :
    metadata.targetAddr.toList.reverse.takeWhile (fun char => char != ':') =
      (toString metadata.port.toNat).toList.reverse := by
  have digits : ∀ char ∈ (toString metadata.port.toNat).toList.reverse, (char != ':') = true := by
    intro char member
    have listed : char ∈ Nat.toDigits 10 metadata.port.toNat := by
      simpa [Nat.repr] using member
    have digit := Nat.isDigit_of_mem_toDigits (by omega) (by omega) listed
    by_contra colon
    simp only [bne_iff_ne, ne_eq, Decidable.not_not] at colon
    rw [colon] at digit
    cases digit
  simp only [ProxyMetadata.targetAddr, String.toList_append, List.reverse_append, List.append_assoc]
  rw [List.takeWhile_append_of_pos digits]
  simp

/-- `host:port` names one port. -/
theorem ProxyMetadata.port_eq_of_targetAddr_eq {metadata other : ProxyMetadata}
    (same : metadata.targetAddr = other.targetAddr) : metadata.port = other.port := by
  have fields := lastField_targetAddr metadata
  rw [same, lastField_targetAddr other] at fields
  have digits : Nat.toDigits 10 other.port.toNat = Nat.toDigits 10 metadata.port.toNat := by
    simpa [Nat.repr] using fields
  apply UInt16.toNat_inj.mp
  calc
    metadata.port.toNat = Nat.ofDigitChars 10 (Nat.toDigits 10 metadata.port.toNat) 0 := by simp
    _ = Nat.ofDigitChars 10 (Nat.toDigits 10 other.port.toNat) 0 := by rw [digits]
    _ = other.port.toNat := by simp
/-- Underlay authentication information for full-cone NAT UDP. -/
structure UnderlayAuth where
  iv : Octets 32
  psk : Bytes
  metadata : ProxyMetadata
  uuid : Uuid
deriving DecidableEq

end Juicity.Common
