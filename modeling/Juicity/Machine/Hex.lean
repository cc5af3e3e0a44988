import Juicity.Machine.Numeral

/-!
Contract: bytes as pairs of hexadecimal digits.

The two digits of a byte, in one of the two cases, are read back as the byte
whatever the case; texts of whole pairs are read back as their bytes.
-/

namespace Juicity.Machine.Hex

def digitChar (upper : Bool) (nibble : Nat) : Char :=
  if nibble < 10 then Char.ofNat (48 + nibble)
  else if upper then Char.ofNat (55 + nibble)
  else Char.ofNat (87 + nibble)

/-- The two digits of a byte. -/
def digits (upper : Bool) (byte : UInt8) : List Char :=
  [digitChar upper (byte.toNat / 16), digitChar upper (byte.toNat % 16)]

def encode (upper : Bool) (bytes : List UInt8) : List Char := bytes.flatMap (digits upper)

/-- The byte of two digits. -/
def byteOf (high low : Char) : Option UInt8 := do
  let high ← digitValue 16 high
  let low ← digitValue 16 low
  return UInt8.ofNat (high * 16 + low)

def decode : List Char → Option (List UInt8)
  | [] => some []
  | [_] => none
  | high :: low :: rest => do
      let byte ← byteOf high low
      let later ← decode rest
      return byte :: later

/-- A property of the digits that is checked for each of them. -/
theorem forall_nibbles {holds : Bool → Nat → Prop}
    (checked : ∀ (upper : Bool) (nibble : Fin 16), holds upper nibble) :
    ∀ (upper : Bool) (nibble : Nat), nibble < 16 → holds upper nibble :=
  fun upper nibble small => checked upper ⟨nibble, small⟩

theorem digitValue_digitChar (upper : Bool) (nibble : Nat) (small : nibble < 16) :
    digitValue 16 (digitChar upper nibble) = some nibble := by
  revert upper nibble
  exact forall_nibbles (by decide +kernel)

/-- The digits of a byte are read back. -/
theorem byteOf_digits (upper : Bool) (byte : UInt8) :
    byteOf (digitChar upper (byte.toNat / 16)) (digitChar upper (byte.toNat % 16)) = some byte := by
  have small : byte.toNat < 256 := byte.toNat_lt
  have joined : byte.toNat / 16 * 16 + byte.toNat % 16 = byte.toNat := by omega
  simp only [byteOf, digitValue_digitChar upper (byte.toNat / 16) (by omega),
    digitValue_digitChar upper (byte.toNat % 16) (by omega), Option.bind_eq_bind,
    Option.bind_some, joined, UInt8.ofNat_toNat, Option.pure_def]

theorem decode_encode (upper : Bool) (bytes : List UInt8) :
    decode (encode upper bytes) = some bytes := by
  induction bytes with
  | nil => rfl
  | cons byte rest hypothesis =>
    show (do
      let byte ← byteOf (digitChar upper (byte.toNat / 16)) (digitChar upper (byte.toNat % 16))
      let later ← decode (encode upper rest)
      return byte :: later) = _
    rw [byteOf_digits, hypothesis]
    rfl

theorem length_encode (upper : Bool) (bytes : List UInt8) :
    (encode upper bytes).length = 2 * bytes.length := by
  induction bytes with
  | nil => rfl
  | cons byte rest hypothesis =>
    have unfolded : encode upper (byte :: rest) = digits upper byte ++ encode upper rest := rfl
    rw [unfolded, List.length_append, hypothesis, List.length_cons, digits, List.length_cons,
      List.length_cons, List.length_nil]
    omega

/-- Every character of a text is a digit. -/
theorem exists_digit_of_mem_encode (upper : Bool) (bytes : List UInt8) :
    ∀ char ∈ encode upper bytes, ∃ nibble < 16, char = digitChar upper nibble := by
  intro char member
  obtain ⟨byte, _, digit⟩ := List.mem_flatMap.mp member
  have small : byte.toNat < 256 := byte.toNat_lt
  rcases List.mem_cons.mp digit with high | low
  · exact ⟨byte.toNat / 16, by omega, high⟩
  · exact ⟨byte.toNat % 16, by omega, List.mem_singleton.mp low⟩

end Juicity.Machine.Hex
