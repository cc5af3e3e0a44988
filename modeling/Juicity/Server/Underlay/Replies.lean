import Juicity.Server.Underlay.Steps

/-!
Owns what the relay-back tasks send. A task seals every datagram under the key
of the first packet of its session, with the nonce of all packets, and writes a
salt of its own pool in front. So a reply can be read with the per-packet key of
the wire format only when that salt is the one of the first packet, and two
different replies of a task always share key and nonce.
-/

namespace Juicity.Server.Underlay

open Juicity.Common
open Juicity.Machine

variable {crypto : Crypto} {setting : Setting}

/-- A key exists only for a pre-shared key of the right length. -/
theorem SessionKey.psk_length (key : SessionKey crypto) :
    key.auth.psk.length = JuicityUnderlay.keyLen := by
  by_contra wrong
  have derived := key.derived
  rw [JuicityUnderlay.deriveSubkey, if_neg wrong] at derived
  cases derived

/-- The salt of a session whose first packet was made by `encrypt_udp`. -/
theorem SessionKey.salt_of_first {key : SessionKey crypto} {plaintext : Bytes} {salt : Salt}
    (first : JuicityUnderlay.encryptUdp crypto key.auth.psk plaintext salt = .ok key.first) :
    key.salt = salt := by
  obtain ⟨ciphertext, tag, _, framed⟩ :=
    (JuicityUnderlay.encryptUdp_eq_ok_iff key.psk_length).mp first
  apply Subtype.ext
  show key.first.take JuicityUnderlay.saltLen = salt.val
  rw [framed, JuicityUnderlay.take_frame]

/-- The bytes of a reply before they are sealed: room for the salt, then the datagram. -/
def outbuf (datagram : Bytes) : Bytes :=
  List.replicate JuicityUnderlay.saltLen 0 ++ datagram

theorem drop_outbuf (datagram : Bytes) :
    (outbuf datagram).drop JuicityUnderlay.saltLen = datagram :=
  List.drop_left' List.length_replicate

/-- Every reply was sealed with the key of its session, and each relay-back task
sealed exactly the datagrams it relayed. -/
structure Logged (state : State crypto) : Prop where
  replies : ∀ key salt datagram source packet,
    Send.reply key salt datagram source packet ∈ state.sends →
      key.cipher.encryptInPlace crypto (outbuf datagram) salt = .ok packet
  sealed : ∀ relay ∈ state.relays, relay.sealed = relay.relayed.map fun datagram =>
    (relay.key.cipher.subkey, JuicityUnderlay.zeroNonce, datagram)

theorem logged_initial : Logged (initial crypto) where
  replies := by simp [initial]
  sealed := by simp [initial]

section Preservation

variable {state after : State crypto}

theorem Logged.of_same (logged : Logged state) (same : SameRelays state after)
    (sends : ∀ key salt datagram source packet,
      Send.reply key salt datagram source packet ∈ after.sends →
        Send.reply key salt datagram source packet ∈ state.sends) : Logged after where
  replies := fun key salt datagram source packet member =>
    logged.replies key salt datagram source packet (sends key salt datagram source packet member)
  sealed := by
    intro kept member
    obtain ⟨relay, relayMember, _, _, key, relayed, sealed⟩ := same kept member
    rw [key, relayed, sealed]
    exact logged.sealed relay relayMember

theorem Logged.preserved {action : Action} (logged : Logged state)
    (taken : step setting state action = some after) : Logged after := by
  cases took_of_step taken with
  | environment weakens same tasks sends sockets =>
      apply logged.of_same same
      simp [sends]
  | arrived task source payload =>
      exact logged.of_same (.of_eq rfl) fun _ _ _ _ _ member => member
  | moved task pc weakens same moves sends sockets ran flow =>
      apply logged.of_same same
      simp [sends]
  | forwarded task session endpoint opened here pooled opens =>
      refine logged.of_same (.of_eq rfl) ?_
      simp
  | spawned task key endpoint plaintext here =>
      constructor
      case replies => exact logged.replies
      case sealed =>
        intro relay member
        rcases List.mem_append.mp member with old | new
        · exact logged.sealed relay old
        · rw [List.mem_singleton.mp new]
          rfl
  | established task key endpoint relayAbort plaintext here =>
      exact logged.of_same (.of_eq rfl) fun _ _ _ _ _ member => member
  | sent task key endpoint plaintext here =>
      refine logged.of_same (.of_eq rfl) ?_
      simp
  | created task purpose plaintext isIpv6 target rest here resolved =>
      cases purpose with
      | recover session => exact logged.of_same (.of_eq rfl) fun _ _ _ _ _ member => member
      | establish key => exact logged.of_same (.of_eq rfl) fun _ _ _ _ _ member => member
  | replied id relay kept salt datagram packet found weakens relays tasks sockets source socket
      key relayed sealed sends written =>
      constructor
      case replies =>
        intro otherKey otherSalt otherDatagram otherSource otherPacket member
        rw [sends] at member
        rcases List.mem_append.mp member with old | new
        · exact logged.replies _ _ _ _ _ old
        · obtain ⟨rfl, rfl, rfl, rfl, rfl⟩ := Send.reply.inj (List.mem_singleton.mp new)
          exact written
      case sealed =>
        intro other member
        rw [relays] at member
        rcases List.mem_or_eq_of_mem_set member with old | rfl
        · exact logged.sealed other old
        · have whole := logged.sealed relay (List.mem_iff_getElem?.mpr ⟨id, found⟩)
          rw [relayed, sealed, key, whole, List.map_append, List.map_singleton]

end Preservation

theorem logged_of_reachable {state : State crypto}
    (reached : Reachable (step setting) (initial crypto) state) : Logged state :=
  reached.invariant logged_initial fun _ _ _ logged taken => logged.preserved taken

/-! ## Readable replies -/

/-- A reply of a session whose first packet carried `first` is decoded by
`decrypt_udp` to the relayed datagram exactly when it was sealed under `first`. -/
theorem reply_readable_iff_first_salt {state : State crypto}
    (reached : Reachable (step setting) (initial crypto) state)
    {psk plaintext datagram packet : Bytes} {first salt : Salt} {source : SocketAddr}
    {key : SessionKey crypto} {salts : Salt → Prop} (laws : CryptoLaws crypto psk salts)
    (firstInUse : salts first) (saltInUse : salts salt) (shared : key.auth.psk = psk)
    (opening : JuicityUnderlay.encryptUdp crypto psk plaintext first = .ok key.first)
    (replied : Send.reply key salt datagram source packet ∈ state.sends) :
    JuicityUnderlay.decryptUdp crypto psk packet = .ok datagram ↔ salt = first := by
  subst shared
  have named := key.salt_of_first opening
  have derived := key.derived
  have written := (logged_of_reachable reached).replies _ _ _ _ _ replied
  have read := JuicityUnderlay.decryptUdp_encryptInPlace_iff laws key.psk_length
    (by rw [← named] at firstInUse; exact firstInUse) saltInUse derived written
  rw [drop_outbuf] at read
  rw [read, ← named]
  rfl

/-- The sample session relays one datagram under a salt of its pool. -/
def replySchedule : List Action :=
  sampleSchedule ++ [.relayFill 0 (some (.replicate _ 0)), .relayReceive 0 [9]]

/-- The reply of the sample session is there, under a salt of the pool. -/
def isSampleReply : Send echoCrypto → Bool
  | .reply key salt datagram _ _ =>
      key.auth.psk = samplePsk && key.first = samplePacket firstSalt [5] && salt = poolSalt &&
        datagram = [9]
  | .outbound _ _ _ => false

theorem sample_reply : ∃ state, Reachable (step sampleSetting) (initial echoCrypto) state ∧
    ∃ key source packet, key.auth.psk = samplePsk ∧ key.first = samplePacket firstSalt [5] ∧
      Send.reply key poolSalt [9] source packet ∈ state.sends := by
  have executed : (exec (step sampleSetting) (initial echoCrypto) replySchedule).any
      (fun state => state.sends.any isSampleReply) = true := by
    decide +kernel
  obtain ⟨state, ended, facts⟩ := (Option.any_eq_true _ _).mp executed
  obtain ⟨send, member, isReply⟩ := List.any_eq_true.mp facts
  cases send with
  | outbound key target payload => cases isReply
  | reply key salt datagram source packet =>
      simp only [isSampleReply, Bool.and_eq_true, decide_eq_true_eq] at isReply
      obtain ⟨⟨⟨psk, first⟩, rfl⟩, rfl⟩ := isReply
      exact ⟨state, reachable_of_exec ended, key, source, packet, psk, first, member⟩

/-- The salt of the pool is not the one of the first packet, and the reply cannot
be read. -/
theorem reply_not_always_readable :
    ¬ ∀ (crypto : Crypto) (setting : Setting) (state : State crypto)
        (psk plaintext datagram packet : Bytes) (first salt : Salt) (source : SocketAddr)
        (key : SessionKey crypto) (salts : Salt → Prop),
      Reachable (step setting) (initial crypto) state → CryptoLaws crypto psk salts →
      salts first → salts salt → key.auth.psk = psk →
      JuicityUnderlay.encryptUdp crypto psk plaintext first = .ok key.first →
      Send.reply key salt datagram source packet ∈ state.sends →
      JuicityUnderlay.decryptUdp crypto psk packet = .ok datagram := by
  intro always
  obtain ⟨state, reached, key, source, packet, psk, first, member⟩ := sample_reply
  have opening : JuicityUnderlay.encryptUdp echoCrypto samplePsk [5] firstSalt = .ok key.first := by
    rw [first, sample_packet]
  have read := always echoCrypto sampleSetting state samplePsk [5] [9] packet firstSalt poolSalt
    source key SampleSalts reached sample_laws (.inl rfl) (.inr rfl) psk opening member
  have written := (logged_of_reachable reached).replies _ _ _ _ _ member
  have named := key.salt_of_first (by rw [psk]; exact opening)
  have laws : CryptoLaws echoCrypto key.auth.psk SampleSalts := by
    rw [psk]
    exact sample_laws
  rw [← drop_outbuf [9], ← psk] at read
  have same := (JuicityUnderlay.decryptUdp_encryptInPlace_iff laws key.psk_length (.inl named)
    (.inr rfl) key.derived written).mp read
  have different : poolSalt ≠ firstSalt := by decide
  exact different (same.trans named)

theorem reply_readable_iff_first_salt_sample :
    ∃ (state : State echoCrypto) (key : SessionKey echoCrypto) (source : SocketAddr)
      (packet : Bytes), Send.reply key poolSalt [9] source packet ∈ state.sends ∧
        (JuicityUnderlay.decryptUdp echoCrypto samplePsk packet = .ok [9] ↔
          poolSalt = firstSalt) := by
  obtain ⟨state, reached, key, source, packet, psk, first, member⟩ := sample_reply
  have opening : JuicityUnderlay.encryptUdp echoCrypto samplePsk [5] firstSalt = .ok key.first := by
    rw [first, sample_packet]
  exact ⟨state, key, source, packet, member,
    reply_readable_iff_first_salt reached sample_laws (.inl rfl) (.inr rfl) psk opening member⟩

/-! ## Nonces -/

end Juicity.Server.Underlay
