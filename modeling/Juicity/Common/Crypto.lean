import Juicity.Common.Bytes

/-!
Owns the underlay cryptography of `common/src/crypto.rs`: the subkey, the cached
`UnderlayCipher` and the per-packet functions of `juicity_underlay`. HKDF and
ChaCha20-Poly1305 are a parameter, given by their detached interface, and
`CryptoLaws` says what is relied on.
-/

namespace Juicity.Common

abbrev Salt := Octets 32

abbrev Key := Octets 32

abbrev Nonce := Octets 12

abbrev Tag := Octets 16

/-- HKDF-SHA1 expanded to 32 bytes, which is within its limit, and the detached
AEAD. -/
structure Crypto where
  hkdf : Bytes → Salt → Bytes → Key
  encryptDetached : Key → Nonce → Bytes → Option (Bytes × Tag)
  decryptDetached : Key → Nonce → Bytes → Tag → Option Bytes

namespace JuicityUnderlay

def saltLen : Nat := 32
def keyLen : Nat := 32
def tagLen : Nat := 16

/-- The bytes of `juicity-reused-info`. -/
def reusedInfo : Bytes :=
  [106, 117, 105, 99, 105, 116, 121, 45, 114, 101, 117, 115, 101, 100, 45, 105, 110, 102, 111]

/-- The nonce of every packet: the key changes instead. -/
def zeroNonce : Nonce := .replicate 12 0

/-- `[salt][ciphertext][tag]`. -/
def frame (salt : Salt) (ciphertext : Bytes) (tag : Tag) : Bytes :=
  salt.val ++ (ciphertext ++ tag.val)

/-- The last 16 bytes. -/
def tagOf (sealed : Bytes) (long : tagLen ≤ sealed.length) : Tag :=
  ⟨sealed.drop (sealed.length - tagLen), by rw [List.length_drop]; simp only [tagLen] at *; omega⟩

/-- The first 32 bytes. -/
def saltOf (packet : Bytes) (long : saltLen ≤ packet.length) : Salt :=
  ⟨packet.take saltLen, by rw [List.length_take]; simp only [saltLen] at *; omega⟩

def deriveSubkey (crypto : Crypto) (psk : Bytes) (salt : Salt) : Except String Key :=
  if psk.length = keyLen then
    .ok (crypto.hkdf psk salt reusedInfo)
  else
    .error ("invalid underlay psk length: expected " ++ toString keyLen ++ ", got " ++
      toString psk.length)

/-- `Aead::decrypt`: the tag is the end of the ciphertext. -/
def decrypt (crypto : Crypto) (key : Key) (sealed : Bytes) : Except String Bytes :=
  if long : tagLen ≤ sealed.length then
    let ciphertext := sealed.take (sealed.length - tagLen)
    match crypto.decryptDetached key zeroNonce ciphertext (tagOf sealed long) with
    | some plaintext => .ok plaintext
    | none => .error "underlay decrypt failed: Error"
  else
    .error "underlay decrypt failed: Error"

def decryptUdp (crypto : Crypto) (psk packet : Bytes) : Except String Bytes :=
  if long : saltLen + tagLen ≤ packet.length then do
    let subkey ← deriveSubkey crypto psk
      (saltOf packet (Nat.le_trans (Nat.le_add_right saltLen tagLen) long))
    decrypt crypto subkey (packet.drop saltLen)
  else
    .error ("underlay packet too short: " ++ toString packet.length)

def encryptUdp (crypto : Crypto) (psk plaintext : Bytes) (salt : Salt) : Except String Bytes := do
  let subkey ← deriveSubkey crypto psk salt
  match crypto.encryptDetached subkey zeroNonce plaintext with
  | some (ciphertext, tag) => .ok (frame salt ciphertext tag)
  | none => .error "underlay encrypt failed: Error"

end JuicityUnderlay

open JuicityUnderlay

/-- A cipher for a given subkey. -/
structure UnderlayCipher where
  subkey : Key
deriving DecidableEq

namespace UnderlayCipher

def fromSubkey (subkey : Key) : UnderlayCipher := ⟨subkey⟩

/-- `[salt][ciphertext][tag]` to `[salt][plaintext]`; whatever the salt is, the
key is the cached one. -/
def decryptInPlace (crypto : Crypto) (cipher : UnderlayCipher) (packet : Bytes) :
    Except String Bytes :=
  if short : packet.length ≤ saltLen + tagLen then
    .error "underlay packet too short to contain salt and tag"
  else
    let ciphertextEnd := packet.length - tagLen
    let tag := tagOf packet (by simp only [saltLen, tagLen] at *; omega)
    let ciphertext := (packet.take ciphertextEnd).drop saltLen
    match crypto.decryptDetached cipher.subkey zeroNonce ciphertext tag with
    | some plaintext => .ok (packet.take saltLen ++ plaintext)
    | none => .error "underlay decrypt failed: Error"

/-- `[reserved][plaintext]` to `[salt][ciphertext][tag]`. -/
def encryptInPlace (crypto : Crypto) (cipher : UnderlayCipher) (buffer : Bytes) (salt : Salt) :
    Except String Bytes :=
  match crypto.encryptDetached cipher.subkey zeroNonce (buffer.drop saltLen) with
  | some (ciphertext, tag) => .ok (frame salt ciphertext tag)
  | none => .error "underlay encrypt failed: Error"

end UnderlayCipher

/-- What is relied on for one pre-shared key and the salts that occur with it.
Key separation is asked only of the keys these salts give: tags of 16 bytes
cannot tell all keys of 32 bytes apart. -/
structure CryptoLaws (crypto : Crypto) (psk : Bytes) (salts : Salt → Prop) : Prop where
  keeps_length : ∀ key nonce plaintext ciphertext tag,
    crypto.encryptDetached key nonce plaintext = some (ciphertext, tag) →
      ciphertext.length = plaintext.length
  round_trip : ∀ key nonce plaintext ciphertext tag,
    crypto.encryptDetached key nonce plaintext = some (ciphertext, tag) →
      crypto.decryptDetached key nonce ciphertext tag = some plaintext
  other_key : ∀ salt other, salts salt → salts other →
    crypto.hkdf psk salt reusedInfo ≠ crypto.hkdf psk other reusedInfo →
      ∀ nonce plaintext ciphertext tag,
        crypto.encryptDetached (crypto.hkdf psk salt reusedInfo) nonce plaintext =
            some (ciphertext, tag) →
          crypto.decryptDetached (crypto.hkdf psk other reusedInfo) nonce ciphertext tag = none
  distinct : ∀ salt other, salts salt → salts other → salt ≠ other →
    crypto.hkdf psk salt reusedInfo ≠ crypto.hkdf psk other reusedInfo

namespace JuicityUnderlay

variable {crypto : Crypto}

/-! ## Frames -/

section Frames

variable {salt : Salt} {ciphertext : Bytes} {tag : Tag}

@[simp] theorem length_frame :
    (frame salt ciphertext tag).length = saltLen + (ciphertext.length + tagLen) := by
  simp [frame, saltLen, tagLen]

@[simp] theorem take_frame : (frame salt ciphertext tag).take saltLen = salt.val :=
  List.take_left' salt.property

@[simp] theorem drop_frame : (frame salt ciphertext tag).drop saltLen = ciphertext ++ tag.val :=
  List.drop_left' salt.property

theorem saltOf_frame (long : saltLen ≤ (frame salt ciphertext tag).length) :
    saltOf (frame salt ciphertext tag) long = salt :=
  Subtype.ext take_frame

theorem tagOf_append {start : Bytes} (long : tagLen ≤ (start ++ tag.val).length) :
    tagOf (start ++ tag.val) long = tag := by
  apply Subtype.ext
  have split : (start ++ tag.val).length - tagLen = start.length := by
    simp [tagLen]
  show (start ++ tag.val).drop _ = tag.val
  rw [split, List.drop_left]

theorem tagOf_frame (long : tagLen ≤ (frame salt ciphertext tag).length) :
    tagOf (frame salt ciphertext tag) long = tag := by
  have shape : frame salt ciphertext tag = (salt.val ++ ciphertext) ++ tag.val :=
    (List.append_assoc _ _ _).symm
  simp only [shape]
  exact tagOf_append _

/-- The ciphertext between salt and tag. -/
theorem body_frame :
    ((frame salt ciphertext tag).take ((frame salt ciphertext tag).length - tagLen)).drop saltLen =
      ciphertext := by
  have shape : frame salt ciphertext tag = (salt.val ++ ciphertext) ++ tag.val :=
    (List.append_assoc _ _ _).symm
  have split : (frame salt ciphertext tag).length - tagLen = (salt.val ++ ciphertext).length := by
    simp only [length_frame, List.length_append, Octets.length_val, saltLen]
    omega
  rw [split, shape, List.take_left]
  exact List.drop_left' salt.property

/-- `decrypt_udp` takes the key from the salt of the packet. -/
theorem decryptUdp_frame {psk : Bytes} (sized : psk.length = keyLen) :
    decryptUdp crypto psk (frame salt ciphertext tag) =
      match crypto.decryptDetached (crypto.hkdf psk salt reusedInfo) zeroNonce ciphertext tag with
      | some plaintext => .ok plaintext
      | none => .error "underlay decrypt failed: Error" := by
  have long : saltLen + tagLen ≤ (frame salt ciphertext tag).length := by
    rw [length_frame]
    omega
  have sealedLong : tagLen ≤ (ciphertext ++ tag.val).length := by simp [tagLen]
  have start : (ciphertext ++ tag.val).take ((ciphertext ++ tag.val).length - tagLen) =
      ciphertext := by
    have split : (ciphertext ++ tag.val).length - tagLen = ciphertext.length := by simp [tagLen]
    rw [split, List.take_left]
  simp only [decryptUdp, dif_pos long, saltOf_frame, deriveSubkey, if_pos sized, drop_frame,
    decrypt, dif_pos sealedLong, start, tagOf_append]
  rfl

/-- A cached cipher uses its own key for any packet that carries a plaintext. -/
theorem decryptInPlace_frame {cipher : UnderlayCipher} (carries : ciphertext ≠ []) :
    cipher.decryptInPlace crypto (frame salt ciphertext tag) =
      match crypto.decryptDetached cipher.subkey zeroNonce ciphertext tag with
      | some plaintext => .ok (salt.val ++ plaintext)
      | none => .error "underlay decrypt failed: Error" := by
  have long : ¬ (frame salt ciphertext tag).length ≤ saltLen + tagLen := by
    have positive := List.length_pos_iff.mpr carries
    rw [length_frame]
    omega
  simp only [UnderlayCipher.decryptInPlace, dif_neg long, body_frame, tagOf_frame, take_frame]

end Frames

/-! ## Sealing under one key and opening under another -/

section Laws

variable {psk : Bytes} {salts : Salt → Prop} {salt header : Salt} {plaintext packet : Bytes}

theorem encryptInPlace_eq_ok_iff {cipher : UnderlayCipher} {buffer : Bytes} :
    cipher.encryptInPlace crypto buffer header = .ok packet ↔ ∃ ciphertext tag,
      crypto.encryptDetached cipher.subkey zeroNonce (buffer.drop saltLen) =
        some (ciphertext, tag) ∧ packet = frame header ciphertext tag := by
  unfold UnderlayCipher.encryptInPlace
  cases crypto.encryptDetached cipher.subkey zeroNonce (buffer.drop saltLen) with
  | none => simp
  | some box =>
      obtain ⟨ciphertext, tag⟩ := box
      simp [eq_comm]

theorem encryptUdp_eq_ok_iff (sized : psk.length = keyLen) :
    encryptUdp crypto psk plaintext header = .ok packet ↔ ∃ ciphertext tag,
      crypto.encryptDetached (crypto.hkdf psk header reusedInfo) zeroNonce plaintext =
        some (ciphertext, tag) ∧ packet = frame header ciphertext tag := by
  simp only [encryptUdp, deriveSubkey, if_pos sized]
  show (match crypto.encryptDetached _ zeroNonce plaintext with
    | some (ciphertext, tag) => Except.ok (frame header ciphertext tag)
    | none => .error "underlay encrypt failed: Error") = .ok packet ↔ _
  cases crypto.encryptDetached (crypto.hkdf psk header reusedInfo) zeroNonce plaintext with
  | none => simp
  | some box =>
      obtain ⟨ciphertext, tag⟩ := box
      simp [eq_comm]

/-- What is sealed under the key of one salt opens under the key of another
exactly when the salts are the same. -/
theorem decryptDetached_eq_some_iff (laws : CryptoLaws crypto psk salts)
    (sealing : salts salt) (opening : salts header) {ciphertext : Bytes} {tag : Tag}
    (boxed : crypto.encryptDetached (crypto.hkdf psk salt reusedInfo) zeroNonce plaintext =
      some (ciphertext, tag)) {result : Bytes} :
    crypto.decryptDetached (crypto.hkdf psk header reusedInfo) zeroNonce ciphertext tag =
      some result ↔ salt = header ∧ plaintext = result := by
  constructor
  · intro unboxed
    by_cases same : salt = header
    · subst same
      rw [laws.round_trip _ _ _ _ _ boxed] at unboxed
      exact ⟨rfl, Option.some.inj unboxed⟩
    · have different := laws.distinct salt header sealing opening same
      rw [laws.other_key salt header sealing opening different _ _ _ _ boxed] at unboxed
      cases unboxed
  · rintro ⟨rfl, rfl⟩
    exact laws.round_trip _ _ _ _ _ boxed

theorem subkey_of_derived (sized : psk.length = keyLen) {cipher : UnderlayCipher}
    (derived : deriveSubkey crypto psk salt = .ok cipher.subkey) :
    cipher.subkey = crypto.hkdf psk salt reusedInfo := by
  rw [deriveSubkey, if_pos sized] at derived
  exact (Except.ok.inj derived).symm

/-- A packet sealed by the cipher of `salt` under the header of another salt is
read back by `decrypt_udp` exactly when the two salts are the same. -/
theorem decryptUdp_encryptInPlace_iff (laws : CryptoLaws crypto psk salts)
    (sized : psk.length = keyLen) (sealing : salts salt) (opening : salts header)
    {cipher : UnderlayCipher} (derived : deriveSubkey crypto psk salt = .ok cipher.subkey)
    {buffer : Bytes} (written : cipher.encryptInPlace crypto buffer header = .ok packet) :
    decryptUdp crypto psk packet = .ok (buffer.drop saltLen) ↔ header = salt := by
  obtain ⟨ciphertext, tag, boxed, rfl⟩ := encryptInPlace_eq_ok_iff.mp written
  rw [subkey_of_derived sized derived] at boxed
  rw [decryptUdp_frame sized]
  constructor
  · intro read
    cases unboxed : crypto.decryptDetached (crypto.hkdf psk header reusedInfo) zeroNonce
        ciphertext tag with
    | none =>
        rw [unboxed] at read
        cases read
    | some result =>
        exact ((decryptDetached_eq_some_iff laws sealing opening boxed).mp unboxed).1.symm
  · intro same
    have unboxed := (decryptDetached_eq_some_iff laws sealing opening boxed).mpr ⟨same.symm, rfl⟩
    rw [unboxed]

end Laws

end JuicityUnderlay

/-- A stand-in for the third-party functions: the subkey is the salt, a sealed
text is the plain one, and its tag is the first half of the key. -/
def echoCrypto : Crypto where
  hkdf := fun _ salt _ => salt
  encryptDetached := fun key _ plaintext => some (plaintext, ⟨key.val.take 16, by simp⟩)
  decryptDetached := fun key _ ciphertext tag =>
    if tag.val = key.val.take 16 then some ciphertext else none

/-- The stand-in keeps the laws for salts told apart by their first half. -/
theorem echo_laws (psk : Bytes) {salts : Salt → Prop}
    (apart : ∀ salt other, salts salt → salts other → salt ≠ other →
      salt.val.take 16 ≠ other.val.take 16) : CryptoLaws echoCrypto psk salts where
  keeps_length := by
    intro key nonce plaintext ciphertext tag boxed
    rw [← (Prod.mk.inj (Option.some.inj boxed)).1]
  round_trip := by
    intro key nonce plaintext ciphertext tag boxed
    obtain ⟨rfl, rfl⟩ := Prod.mk.inj (Option.some.inj boxed)
    simp [echoCrypto]
  other_key := by
    intro salt other sealing opening different nonce plaintext ciphertext tag boxed
    obtain ⟨rfl, rfl⟩ := Prod.mk.inj (Option.some.inj boxed)
    simp only [echoCrypto]
    rw [if_neg (apart salt other sealing opening different)]
  distinct := fun salt other _ _ different => different

end Juicity.Common
