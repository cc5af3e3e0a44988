import Juicity.Common.Bytes
import Juicity.Machine.Base64
import Juicity.Machine.Hex

/-!
Owns the pinned certificate chain: `generate_cert_chain_hash` of
`common/src/crypto.rs`, the pin of `JuicityClient::new`, the verifiers of
`client/src/client.rs` and the pins the server writes. SHA-256, the base64 and
hex crates and the WebPKI verifier are parameters. Three decoders read the pin
in turn, and the digits of a hexadecimal hash are base64 digits too: a pin is
honoured exactly when it is in base64.
-/

namespace Juicity.Common

variable (sha256 : Bytes → Octets 32)

/-- The hash of a certificate joins the hash of those before it. -/
def extendChain (chain : Option (Octets 32)) (cert : Bytes) : Option (Octets 32) :=
  let certHash := sha256 cert
  match chain with
  | none => some certHash
  | some prev => some (sha256 (prev.val ++ certHash.val))

def generateCertChainHash (rawCerts : List Bytes) : Bytes :=
  match rawCerts.foldl (extendChain sha256) none with
  | none => []
  | some hash => hash.val

variable {sha256}

theorem foldl_extendChain_some (rawCerts : List Bytes) (prev : Octets 32) :
    ∃ hash, rawCerts.foldl (extendChain sha256) (some prev) = some hash := by
  induction rawCerts generalizing prev with
  | nil => exact ⟨prev, rfl⟩
  | cons cert rest hypothesis => exact hypothesis (sha256 (prev.val ++ (sha256 cert).val))

/-- The hash of a chain is an output of SHA-256. -/
theorem length_generateCertChainHash (endEntity : Bytes) (intermediates : List Bytes) :
    (generateCertChainHash sha256 (endEntity :: intermediates)).length = 32 := by
  have folded : ∃ hash, (endEntity :: intermediates).foldl (extendChain sha256) none =
      some hash := foldl_extendChain_some intermediates (sha256 endEntity)
  obtain ⟨hash, start⟩ := folded
  rw [generateCertChainHash, start]
  exact hash.length_val

end Juicity.Common

namespace Juicity.Client

open Juicity.Common Juicity.Machine

/-- The codecs of the base64 and hex crates. -/
structure PinCodecs where
  /-- `base64::engine::general_purpose::URL_SAFE`. -/
  urlSafeEncode : Bytes → String
  urlSafeDecode : String → Option Bytes
  /-- `base64::engine::general_purpose::STANDARD`. -/
  standardDecode : String → Option Bytes
  hexEncode : Bytes → String
  hexDecode : String → Option Bytes

/-- The crates implement their standard strict codecs. -/
structure PinCodecs.Strict (codecs : PinCodecs) : Prop where
  urlSafeEncode : ∀ bytes,
    codecs.urlSafeEncode bytes = String.ofList (Base64.encode Base64.urlSafe true bytes)
  urlSafeDecode : ∀ text,
    codecs.urlSafeDecode text = Base64.decode Base64.urlSafe true text.toList
  standardDecode : ∀ text,
    codecs.standardDecode text = Base64.decode Base64.standard true text.toList
  hexEncode : ∀ bytes, codecs.hexEncode bytes = String.ofList (Hex.encode false bytes)
  hexDecode : ∀ text, codecs.hexDecode text = Hex.decode text.toList

variable (sha256 : Bytes → Octets 32) (codecs : PinCodecs)

/-- The pin of `JuicityClient::new`, which fails as a whole where no decoder reads the text. -/
def pinnedHash (pinnedCertchainSha256 : String) : Option Bytes :=
  if pinnedCertchainSha256.isEmpty then
    some []
  else
    match codecs.urlSafeDecode pinnedCertchainSha256 with
    | some hash => some hash
    | none =>
        match codecs.standardDecode pinnedCertchainSha256 with
        | some hash => some hash
        | none => codecs.hexDecode pinnedCertchainSha256

/-- The certificate verifier of a TLS configuration. -/
inductive Verifier where
  | skipVerify
  | pinVerify (pinnedHash : Bytes)
  | webpki
deriving DecidableEq

/-- The verifier `build_tls_config` installs. -/
def buildTlsConfig (allowInsecure : Bool) (pinnedHash : Bytes) : Verifier :=
  if allowInsecure then .skipVerify
  else if ¬pinnedHash.isEmpty then .pinVerify pinnedHash
  else .webpki

/-- `PinVerify::verify_server_cert`. -/
def PinVerify.verifyServerCert (pinnedHash : Bytes) (endEntity : Bytes)
    (intermediates : List Bytes) : Except String Unit :=
  let rawCerts := endEntity :: intermediates
  let computedHash := generateCertChainHash sha256 rawCerts
  if computedHash = pinnedHash then .ok () else .error "pinned cert chain hash mismatch"

def Verifier.verifyServerCert (webpki : Bytes → List Bytes → Except String Unit) :
    Verifier → Bytes → List Bytes → Except String Unit
  | .skipVerify, _, _ => .ok ()
  | .pinVerify pinnedHash, endEntity, intermediates =>
      PinVerify.verifyServerCert sha256 pinnedHash endEntity intermediates
  | .webpki, endEntity, intermediates => webpki endEntity intermediates

/-! ## The pins of the server -/

/-- What a PEM file is read as, one item a section. -/
inductive PemItem where
  | x509Certificate (der : Bytes)
  | other
deriving DecidableEq

/-- The hash of the first certificate of a file. -/
def computeCertSha256 (certPath : String) : List PemItem → Except String String
  | [] => .error ("No PEM data found in " ++ certPath)
  | .other :: _ => .error ("Expected X509 certificate in " ++ certPath)
  | .x509Certificate der :: _ => .ok (codecs.hexEncode (sha256 der).val)

/-- The hash of all certificates of a file. -/
def computeCertChainHash (certPath : String) (items : List PemItem) : Except String String :=
  let rawCerts := items.filterMap fun item =>
    match item with
    | .x509Certificate der => some der
    | .other => none
  if rawCerts.isEmpty then
    .error ("No certificates found in " ++ certPath)
  else
    .ok (codecs.urlSafeEncode (generateCertChainHash sha256 rawCerts))

/-! ## Pins and their texts -/

/-- The encodings a pin is documented in. -/
inductive PinEncoding where
  | base64Url
  | base64Standard
  | hexLower
  | hexUpper
deriving DecidableEq

namespace PinEncoding

def text : PinEncoding → Bytes → String
  | base64Url, hash => String.ofList (Base64.encode Base64.urlSafe true hash)
  | base64Standard, hash => String.ofList (Base64.encode Base64.standard true hash)
  | hexLower, hash => String.ofList (Hex.encode false hash)
  | hexUpper, hash => String.ofList (Hex.encode true hash)

/-- The encoding is one of the two of base64. -/
def isBase64 : PinEncoding → Bool
  | base64Url => true
  | base64Standard => true
  | hexLower => false
  | hexUpper => false

end PinEncoding

/-- The verifier of a client that does not allow insecure servers. -/
def certVerifier (pinnedCertchainSha256 : String) : Option Verifier :=
  (pinnedHash codecs pinnedCertchainSha256).map (buildTlsConfig false)

/-- A text pins a chain: it is read as the hash of the chain, and the verifier it
gives accepts the chain and refuses every chain of another hash. -/
structure Honoured (webpki : Bytes → List Bytes → Except String Unit) (endEntity : Bytes)
    (intermediates : List Bytes) (text : String) : Prop where
  decoded : pinnedHash codecs text =
    some (generateCertChainHash sha256 (endEntity :: intermediates))
  accepted : ∀ verifier ∈ certVerifier codecs text,
    verifier.verifyServerCert sha256 webpki endEntity intermediates = .ok ()
  rejected : ∀ verifier ∈ certVerifier codecs text, ∀ otherEntity otherIntermediates,
    generateCertChainHash sha256 (otherEntity :: otherIntermediates) ≠
        generateCertChainHash sha256 (endEntity :: intermediates) →
      verifier.verifyServerCert sha256 webpki otherEntity otherIntermediates =
        .error "pinned cert chain hash mismatch"

variable {sha256} {codecs} {webpki : Bytes → List Bytes → Except String Unit} {endEntity : Bytes}
  {intermediates : List Bytes}

/-- A text that is read as the hash pins the chain. -/
theorem honoured_of_decoded {text : String}
    (decoded : pinnedHash codecs text =
      some (generateCertChainHash sha256 (endEntity :: intermediates))) :
    Honoured sha256 codecs webpki endEntity intermediates text := by
  have notEmpty :
      ¬(generateCertChainHash sha256 (endEntity :: intermediates)).isEmpty := by
    intro empty
    have length : (generateCertChainHash sha256 (endEntity :: intermediates)).length = 32 :=
      length_generateCertChainHash endEntity intermediates
    rw [List.isEmpty_iff.mp empty] at length
    cases length
  have installed : certVerifier codecs text = some
      (.pinVerify (generateCertChainHash sha256 (endEntity :: intermediates))) := by
    rw [certVerifier, decoded, Option.map_some, buildTlsConfig, if_neg Bool.false_ne_true,
      if_pos notEmpty]
  refine ⟨decoded, fun verifier chosen => ?_,
    fun verifier chosen otherEntity otherIntermediates differs => ?_⟩
  · rw [installed] at chosen
    obtain rfl := Option.some.inj chosen
    exact if_pos rfl
  · rw [installed] at chosen
    obtain rfl := Option.some.inj chosen
    exact if_neg differs

/-! ## Base64 -/

theorem pinnedHash_of_urlSafe {text : String} {hash : Bytes} (notEmpty : text ≠ "")
    (decoded : codecs.urlSafeDecode text = some hash) : pinnedHash codecs text = some hash := by
  rw [pinnedHash, if_neg (by rwa [String.isEmpty_iff]), decoded]

/-- The two alphabets of base64 differ in characters the other lacks. -/
theorem urlSafe_agrees_standard : Base64.Agrees Base64.urlSafe Base64.standard :=
  Base64.forall_digits (by decide +kernel)

theorem encode_ne_empty (alphabet : Base64.Alphabet) {hash : Bytes} (length : hash.length = 32) :
    String.ofList (Base64.encode alphabet true hash) ≠ "" := by
  intro empty
  have filled : hash ≠ [] := List.ne_nil_of_length_pos (by omega)
  exact Base64.encode_ne_nil alphabet true filled (by simpa using congrArg String.toList empty)

/-- Both base64 texts of a hash are read as the hash. -/
theorem pinnedHash_base64 (strict : codecs.Strict) {hash : Bytes} (length : hash.length = 32)
    (encoding : PinEncoding) (isBase64 : encoding.isBase64) :
    pinnedHash codecs (encoding.text hash) = some hash := by
  cases encoding with
  | base64Url =>
    refine pinnedHash_of_urlSafe (encode_ne_empty _ length) ?_
    rw [strict.urlSafeDecode, PinEncoding.text, String.toList_ofList]
    exact Base64.decode_encode _ _ _
  | base64Standard =>
    have notEmpty := encode_ne_empty Base64.standard length
    have standard : codecs.standardDecode (PinEncoding.base64Standard.text hash) = some hash := by
      rw [strict.standardDecode, PinEncoding.text, String.toList_ofList]
      exact Base64.decode_encode _ _ _
    have urlSafe : codecs.urlSafeDecode (PinEncoding.base64Standard.text hash) = none ∨
        codecs.urlSafeDecode (PinEncoding.base64Standard.text hash) = some hash := by
      rw [strict.urlSafeDecode, PinEncoding.text, String.toList_ofList]
      exact Base64.decode_agrees urlSafe_agrees_standard true hash
    rcases urlSafe with refused | read
    · rw [pinnedHash, if_neg (by rwa [String.isEmpty_iff]), refused, standard]
    · exact pinnedHash_of_urlSafe notEmpty read
  | hexLower => cases isBase64
  | hexUpper => cases isBase64

/-! ## Hexadecimal -/

/-- A hexadecimal digit is a digit of base64. -/
theorem urlSafe_value_digitChar (upper : Bool) (nibble : Nat) (small : nibble < 16) :
    (Base64.urlSafe.value (Hex.digitChar upper nibble)).isSome := by
  revert upper nibble
  exact Hex.forall_nibbles (by decide +kernel)

/-- The sixty-four digits of a hash are read as forty-eight bytes. -/
theorem pinnedHash_hex (strict : codecs.Strict) {hash : Bytes} (length : hash.length = 32)
    (upper : Bool) :
    ∃ bytes, pinnedHash codecs (String.ofList (Hex.encode upper hash)) = some bytes ∧
      bytes.length = 48 := by
  have textLength := Hex.length_encode upper hash
  have digits : ∀ char ∈ Hex.encode upper hash, ∃ digit,
      Base64.urlSafe.value char = some digit := by
    intro char member
    obtain ⟨nibble, small, rfl⟩ := Hex.exists_digit_of_mem_encode upper hash char member
    exact Option.isSome_iff_exists.mp (urlSafe_value_digitChar upper nibble small)
  obtain ⟨bytes, decoded, bytesLength⟩ := Base64.decode_digits Base64.urlSafe true 16
    (Hex.encode upper hash) (by omega) digits
  have notEmpty : String.ofList (Hex.encode upper hash) ≠ "" := by
    intro empty
    have nil : Hex.encode upper hash = [] := by simpa using congrArg String.toList empty
    rw [nil, length] at textLength
    cases textLength
  refine ⟨bytes, pinnedHash_of_urlSafe notEmpty ?_, bytesLength⟩
  rw [strict.urlSafeDecode, String.toList_ofList]
  exact decoded

theorem not_honoured_hex (strict : codecs.Strict) (upper : Bool) :
    ¬Honoured sha256 codecs webpki endEntity intermediates (String.ofList (Hex.encode upper
      (generateCertChainHash sha256 (endEntity :: intermediates)))) := by
  intro honoured
  have length : (generateCertChainHash sha256 (endEntity :: intermediates)).length = 32 :=
    length_generateCertChainHash endEntity intermediates
  obtain ⟨bytes, decoded, bytesLength⟩ := pinnedHash_hex strict length upper
  rw [honoured.decoded] at decoded
  rw [← Option.some.inj decoded, length] at bytesLength
  cases bytesLength

/-! ## Pins are honoured in base64 -/

theorem honoured_iff (strict : codecs.Strict) (encoding : PinEncoding) :
    Honoured sha256 codecs webpki endEntity intermediates
        (encoding.text (generateCertChainHash sha256 (endEntity :: intermediates))) ↔
      encoding.isBase64 := by
  constructor
  · intro honoured
    cases encoding with
    | base64Url => rfl
    | base64Standard => rfl
    | hexLower => exact (not_honoured_hex strict false honoured).elim
    | hexUpper => exact (not_honoured_hex strict true honoured).elim
  · intro isBase64
    exact honoured_of_decoded
      (pinnedHash_base64 strict (length_generateCertChainHash _ _) _ isBase64)

/-- The certificates of a chain, each a section of its file. -/
def chainFile (endEntity : Bytes) (intermediates : List Bytes) : List PemItem :=
  (endEntity :: intermediates).map .x509Certificate

theorem computeCertChainHash_chainFile (strict : codecs.Strict) (certPath : String) :
    computeCertChainHash sha256 codecs certPath (chainFile endEntity intermediates) =
      .ok (PinEncoding.base64Url.text
        (generateCertChainHash sha256 (endEntity :: intermediates))) := by
  have certs : (chainFile endEntity intermediates).filterMap (fun item =>
      match item with
      | .x509Certificate der => some der
      | .other => none) = endEntity :: intermediates := by
    rw [chainFile, List.filterMap_map]
    exact List.filterMap_some
  rw [computeCertChainHash, certs, PinEncoding.text, ← strict.urlSafeEncode]
  rfl

/-- For a chain of one certificate its hash is the hash of the chain. -/
theorem computeCertSha256_chainFile (strict : codecs.Strict) (certPath : String) :
    computeCertSha256 sha256 codecs certPath (chainFile endEntity []) =
      .ok (PinEncoding.hexLower.text (generateCertChainHash sha256 [endEntity])) := by
  rw [PinEncoding.text, ← strict.hexEncode]
  rfl

/-- A pin is honoured exactly when it is in base64, whatever the chain. The server's
chain hash is, and its hash of a single certificate is not. -/
theorem pin_honoured_iff (sha256 : Bytes → Octets 32) (codecs : PinCodecs)
    (strict : codecs.Strict) (webpki : Bytes → List Bytes → Except String Unit)
    (certPath : String) (endEntity : Bytes) (intermediates : List Bytes)
    (encoding : PinEncoding) :
    (Honoured sha256 codecs webpki endEntity intermediates
        (encoding.text (generateCertChainHash sha256 (endEntity :: intermediates))) ↔
      encoding.isBase64) ∧
    (∃ pin,
      computeCertChainHash sha256 codecs certPath (chainFile endEntity intermediates) = .ok pin ∧
      Honoured sha256 codecs webpki endEntity intermediates pin) ∧
    (∃ pin, computeCertSha256 sha256 codecs certPath (chainFile endEntity []) = .ok pin ∧
      ¬Honoured sha256 codecs webpki endEntity [] pin) :=
  ⟨honoured_iff strict encoding,
    ⟨_, computeCertChainHash_chainFile strict certPath, (honoured_iff strict .base64Url).mpr rfl⟩,
    ⟨_, computeCertSha256_chainFile strict certPath, not_honoured_hex strict false⟩⟩

/-- The standard strict codecs. -/
def PinCodecs.std : PinCodecs where
  urlSafeEncode bytes := String.ofList (Base64.encode Base64.urlSafe true bytes)
  urlSafeDecode text := Base64.decode Base64.urlSafe true text.toList
  standardDecode text := Base64.decode Base64.standard true text.toList
  hexEncode bytes := String.ofList (Hex.encode false bytes)
  hexDecode text := Hex.decode text.toList

theorem PinCodecs.std_strict : PinCodecs.std.Strict :=
  ⟨fun _ => rfl, fun _ => rfl, fun _ => rfl, fun _ => rfl, fun _ => rfl⟩

/-- The SHA-256 of an empty DER sequence. -/
def emptySequenceHash : Octets 32 :=
  ⟨[228, 246, 13, 10, 166, 215, 243, 211, 182, 166, 73, 75, 28, 134, 27, 153,
    246, 73, 198, 249, 236, 81, 171, 175, 32, 27, 32, 242, 151, 50, 124, 149], rfl⟩

/-- An instance: the standard base64 text of a hash is honoured. -/
theorem pin_honoured_standard :
    Honoured (fun _ => emptySequenceHash) PinCodecs.std (fun _ _ => .ok ()) [48, 0] []
      (PinEncoding.base64Standard.text emptySequenceHash.val) :=
  (pin_honoured_iff (fun _ => emptySequenceHash) PinCodecs.std PinCodecs.std_strict
    (fun _ _ => .ok ()) "cert.pem" [48, 0] [] .base64Standard).1.mpr rfl

/-- The hexadecimal hash the server prints for a single certificate is not honoured. -/
theorem hexPin_not_honoured :
    computeCertSha256 (fun _ => emptySequenceHash) PinCodecs.std "cert.pem"
          (chainFile [48, 0] []) =
        .ok "e4f60d0aa6d7f3d3b6a6494b1c861b99f649c6f9ec51abaf201b20f297327c95" ∧
      ¬Honoured (fun _ => emptySequenceHash) PinCodecs.std (fun _ _ => .ok ()) [48, 0] []
        "e4f60d0aa6d7f3d3b6a6494b1c861b99f649c6f9ec51abaf201b20f297327c95" := by
  have written : computeCertSha256 (fun _ => emptySequenceHash) PinCodecs.std "cert.pem"
      (chainFile [48, 0] []) =
      .ok "e4f60d0aa6d7f3d3b6a6494b1c861b99f649c6f9ec51abaf201b20f297327c95" := by
    decide +kernel
  refine ⟨written, fun honoured => ?_⟩
  have decoded : (pinnedHash PinCodecs.std
      "e4f60d0aa6d7f3d3b6a6494b1c861b99f649c6f9ec51abaf201b20f297327c95").map List.length =
      some 48 := by decide +kernel
  rw [honoured.decoded, Option.map_some, length_generateCertChainHash] at decoded
  cases decoded

end Juicity.Client
