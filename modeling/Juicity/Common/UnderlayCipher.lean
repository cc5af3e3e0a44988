import Juicity.Common.Crypto

/-!
Owns the agreement of the two ciphers for underlay packets in
`common/src/crypto.rs`: the cached one works in place with a detached tag,
`juicity_underlay` on copies with the tag attached. They seal alike; they open
alike all packets but the genuine ones without a plaintext, which the length
guard of the cached one rejects.
-/

namespace Juicity.Common

open JuicityUnderlay

namespace UnderlayCipher

/-- Both open the packet to the same plaintext, or neither does. -/
def DecryptsAlike (crypto : Crypto) (cipher : UnderlayCipher) (psk : Bytes) (salt : Salt)
    (packet : Bytes) : Prop :=
  match cipher.decryptInPlace crypto packet, decryptUdp crypto psk packet with
  | .ok buffer, .ok plaintext => buffer = salt.val ++ plaintext
  | .error _, .error _ => True
  | _, _ => False

/-- A salt and a genuine tag, and nothing between them. -/
def SealsNothing (crypto : Crypto) (cipher : UnderlayCipher) (salt : Salt) (packet : Bytes) : Prop :=
  ∃ tag, packet = frame salt [] tag ∧
    (crypto.decryptDetached cipher.subkey zeroNonce [] tag).isSome = true

variable {crypto : Crypto} {psk packet ciphertext : Bytes} {salt : Salt} {subkey : Key} {tag : Tag}

theorem sized_of_derived (derived : deriveSubkey crypto psk salt = .ok subkey) :
    psk.length = keyLen := by
  by_contra other
  rw [deriveSubkey, if_neg other] at derived
  cases derived

/-- The subkey of a cipher made from the key derived for the salt. -/
theorem subkey_eq (derived : deriveSubkey crypto psk salt = .ok subkey) :
    (fromSubkey subkey).subkey = crypto.hkdf psk salt reusedInfo :=
  subkey_of_derived (sized_of_derived derived) derived

/-- Sealing in place gives the bytes of `encrypt_udp`. -/
theorem encryptInPlace_eq (derived : deriveSubkey crypto psk salt = .ok subkey)
    {reserved : Bytes} (room : reserved.length = saltLen) (plaintext : Bytes) :
    (fromSubkey subkey).encryptInPlace crypto (reserved ++ plaintext) salt =
      encryptUdp crypto psk plaintext salt := by
  have body : (reserved ++ plaintext).drop saltLen = plaintext := List.drop_left' room
  unfold encryptInPlace encryptUdp
  rw [derived, body]
  rfl

/-! ## Opening -/

/-- A packet that starts with the salt is too short for a tag or has one at its end. -/
theorem short_or_framed (starts : packet.take saltLen = salt.val) :
    packet.length < saltLen + tagLen ∨ ∃ ciphertext tag, packet = frame salt ciphertext tag := by
  by_cases short : packet.length < saltLen + tagLen
  · exact Or.inl short
  · have long : tagLen ≤ packet.length := by omega
    refine Or.inr ⟨(packet.drop saltLen).take (packet.length - saltLen - tagLen),
      tagOf packet long, ?_⟩
    have rest : (packet.drop saltLen).drop (packet.length - saltLen - tagLen) =
        packet.drop (packet.length - tagLen) := by
      rw [List.drop_drop]
      congr 1
      omega
    show packet = salt.val ++ (_ ++ packet.drop (packet.length - tagLen))
    rw [← rest, List.take_append_drop, ← starts, List.take_append_drop]

/-- Both length guards reject a packet without room for a tag. -/
theorem decryptsAlike_of_short (cipher : UnderlayCipher) (psk : Bytes) (salt : Salt)
    (short : packet.length < saltLen + tagLen) : DecryptsAlike crypto cipher psk salt packet := by
  unfold DecryptsAlike decryptInPlace decryptUdp
  rw [dif_pos (Nat.le_of_lt short), dif_neg (Nat.not_le_of_lt short)]
  trivial

/-- A packet with a ciphertext passes both guards. -/
theorem decryptsAlike_of_carries (derived : deriveSubkey crypto psk salt = .ok subkey)
    (carries : ciphertext ≠ []) :
    DecryptsAlike crypto (fromSubkey subkey) psk salt (frame salt ciphertext tag) := by
  unfold DecryptsAlike
  rw [decryptInPlace_frame carries, decryptUdp_frame (sized_of_derived derived), subkey_eq derived]
  cases crypto.decryptDetached (crypto.hkdf psk salt reusedInfo) zeroNonce ciphertext tag with
  | none => trivial
  | some plaintext => rfl

/-- The guard of the cached cipher asks for more than salt and tag. -/
theorem decryptInPlace_empty (crypto : Crypto) (cipher : UnderlayCipher) (salt : Salt) (tag : Tag) :
    ∃ error, cipher.decryptInPlace crypto (frame salt [] tag) = .error error :=
  ⟨_, dif_pos (by rw [length_frame]; exact Nat.le_refl _)⟩

/-- So without a ciphertext they agree exactly when the tag is not genuine. -/
theorem decryptsAlike_empty_iff (derived : deriveSubkey crypto psk salt = .ok subkey) :
    DecryptsAlike crypto (fromSubkey subkey) psk salt (frame salt [] tag) ↔
      crypto.decryptDetached (fromSubkey subkey).subkey zeroNonce [] tag = none := by
  obtain ⟨error, rejected⟩ := decryptInPlace_empty crypto (fromSubkey subkey) salt tag
  unfold DecryptsAlike
  rw [rejected, decryptUdp_frame (sized_of_derived derived), subkey_eq derived]
  cases crypto.decryptDetached (crypto.hkdf psk salt reusedInfo) zeroNonce [] tag with
  | none => simp
  | some plaintext => simp

theorem sealsNothing_frame_iff (cipher : UnderlayCipher) :
    SealsNothing crypto cipher salt (frame salt ciphertext tag) ↔ ciphertext = [] ∧
      (crypto.decryptDetached cipher.subkey zeroNonce [] tag).isSome = true := by
  constructor
  · rintro ⟨other, same, genuine⟩
    have parts := List.append_cancel_left same
    have empty : ciphertext = [] := by
      have lengths := congrArg List.length parts
      simp only [List.length_append, Octets.length_val, List.length_nil] at lengths
      exact List.length_eq_zero_iff.mp (by omega)
    subst empty
    obtain rfl : tag = other := Subtype.ext parts
    exact ⟨rfl, genuine⟩
  · rintro ⟨rfl, genuine⟩
    exact ⟨tag, rfl, genuine⟩

/-- Sealing agrees always; opening a packet agrees unless it is a genuine one without
a plaintext. -/
theorem in_place_agrees_iff (derived : deriveSubkey crypto psk salt = .ok subkey)
    (starts : packet.take saltLen = salt.val) :
    (∀ reserved plaintext, reserved.length = saltLen →
        (fromSubkey subkey).encryptInPlace crypto (reserved ++ plaintext) salt =
          encryptUdp crypto psk plaintext salt) ∧
      (DecryptsAlike crypto (fromSubkey subkey) psk salt packet ↔
        ¬ SealsNothing crypto (fromSubkey subkey) salt packet) := by
  refine ⟨fun reserved plaintext room => encryptInPlace_eq derived room plaintext, ?_⟩
  rcases short_or_framed starts with short | ⟨ciphertext, tag, rfl⟩
  · refine iff_of_true (decryptsAlike_of_short _ psk salt short) ?_
    rintro ⟨tag, rfl, -⟩
    rw [length_frame] at short
    exact Nat.lt_irrefl _ short
  · rw [sealsNothing_frame_iff]
    by_cases empty : ciphertext = []
    · subst empty
      rw [decryptsAlike_empty_iff derived]
      simp
    · exact iff_of_true (decryptsAlike_of_carries derived empty) fun nothing => empty nothing.1

/-! ## One byte and none -/

/-- A packet that seals one byte. -/
theorem in_place_agrees_iff_byte :
    DecryptsAlike echoCrypto (fromSubkey (.replicate 32 0)) (List.replicate 32 7) (.replicate 32 0)
      (frame (.replicate 32 0) [1] (.replicate 16 0)) := by
  have derived : deriveSubkey echoCrypto (List.replicate 32 7) (.replicate 32 0) =
      .ok (.replicate 32 0) := rfl
  refine (in_place_agrees_iff derived take_frame).2.mpr fun nothing => ?_
  cases ((sealsNothing_frame_iff _).mp nothing).1

/-- The datagram without a payload: sealed in place it is opened by `decrypt_udp`,
and rejected in place. -/
theorem empty_datagram_rejected_in_place :
    ∃ packet, (fromSubkey (.replicate 32 0)).encryptInPlace echoCrypto (List.replicate 32 0)
        (.replicate 32 0) = .ok packet ∧
      decryptUdp echoCrypto (List.replicate 32 7) packet = .ok [] ∧
      (fromSubkey (.replicate 32 0)).decryptInPlace echoCrypto packet =
        .error "underlay packet too short to contain salt and tag" ∧
      ¬ DecryptsAlike echoCrypto (fromSubkey (.replicate 32 0)) (List.replicate 32 7)
        (.replicate 32 0) packet := by
  have opened : decryptUdp echoCrypto (List.replicate 32 7)
      (frame (.replicate 32 0) [] (.replicate 16 0)) = .ok [] := by
    decide +kernel
  refine ⟨frame (.replicate 32 0) [] (.replicate 16 0), rfl, opened, rfl, ?_⟩
  unfold DecryptsAlike
  rw [opened]
  exact id

end UnderlayCipher

end Juicity.Common
