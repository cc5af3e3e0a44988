import Juicity.Common.AddressCodec
import Juicity.Common.IpText

/-!
Owns the agreement of the duplicated writers and readers of addresses in
`common/src/protocol.rs`: proxy headers and datagram addresses, socket addresses
and their texts, and the variants that work on a buffer of the caller, whatever
it holds.
-/

namespace Juicity.Common.Protocol

open Juicity.Common

variable {text : AddrText} {host : String} {port : UInt16}

/-! ## Writing into a buffer -/

/-- Appends to a buffer; what was appended before an error stays there. -/
abbrev Building (α : Type) := ExceptT String (StateM Bytes) α

/-- `Vec::extend_from_slice`, and `Vec::push` for a single byte. -/
def extendFromSlice (bytes : Bytes) : Building Unit := modify (· ++ bytes)

/-- `build_trojanc_addr_cached` with its buffer. -/
def buildTrojancAddrCachedInto (cached : CachedAddr) : Building Unit := do
  if hostLenValid cached then
    extendFromSlice [cached.addrType.toWireByte]
    match cached.addrType with
    | .v4 => extendFromSlice (cached.hostBytes.val.take 4)
    | .v6 => extendFromSlice (cached.hostBytes.val.take 16)
    | .domain =>
        extendFromSlice [cached.hostLen]
        extendFromSlice (cached.hostBytes.val.take cached.hostLen.toNat)
    extendFromSlice (u16ToBeBytes cached.port).val
  else
    throw "invalid cached host"

/-- The buffer gets the whole address or nothing. -/
theorem buildTrojancAddrCachedInto_eq (cached : CachedAddr) (buffer : Bytes) :
    buildTrojancAddrCachedInto cached buffer =
      match buildTrojancAddrCached cached with
      | .ok bytes => (.ok (), buffer ++ bytes)
      | .error reason => (.error reason, buffer) := by
  obtain ⟨addrType, hostBytes, hostLen, port⟩ := cached
  unfold buildTrojancAddrCachedInto buildTrojancAddrCached
  by_cases valid : hostLenValid ⟨addrType, hostBytes, hostLen, port⟩
  · rw [if_pos valid, if_pos valid]
    cases addrType with
    | v4 | v6 =>
        show (Except.ok (), ((buffer ++ _) ++ _) ++ _) = _
        simp only [List.append_assoc, List.cons_append, List.nil_append]
    | domain =>
        show (Except.ok (), (((buffer ++ _) ++ _) ++ _) ++ _) = _
        simp only [List.append_assoc, List.cons_append, List.nil_append]
  · rw [if_neg valid, if_neg valid]
    rfl

/-! ## Proxy headers and datagram addresses -/

/-- The writer of proxy headers accepts no other hosts. -/
theorem addressed_of_buildProxyHeader {network : UInt8} {bytes : Bytes} (named : host ≠ "")
    (built : buildProxyHeader text network host port = .ok bytes) :
    ∃ addrType bytes, Addressed text host addrType bytes := by
  cases parsed : text.parseIp host with
  | some address => exact addressed_of_parse parsed
  | none =>
      have nonempty : host.isEmpty = false :=
        beq_false_of_ne fun zero => named (String.utf8ByteSize_eq_zero_iff.mp zero)
      unfold buildProxyHeader containsColon at built
      by_cases colon : ':' ∈ host.toList
      · simp only [nonempty, colon, decide_true, AddrText.parseIpv6, parsed] at built
        cases built
      · simp only [nonempty, colon, decide_false, AddrText.parseIpv4, parsed] at built
        change (if (utf8 host).length ≤ 255 then _ else _) = Except.ok bytes at built
        by_cases fits : (utf8 host).length ≤ 255
        · exact ⟨_, _, .domain parsed colon (length_utf8_pos_iff.mpr named) fits⟩
        · rw [if_neg fits] at built
          cases built

/-- The two writers accept the same hosts. -/
theorem buildProxyHeader_ok_iff (laws : AddrTextLaws text) (named : host ≠ "")
    (network : UInt8) (port : UInt16) :
    (∃ header, buildProxyHeader text network host port = .ok header) ↔
      ∃ bytes, buildTrojancAddr text host port = .ok bytes := by
  constructor
  · rintro ⟨header, built⟩
    obtain ⟨addrType, bytes, addressed⟩ := addressed_of_buildProxyHeader named built
    exact ⟨_, addressed.buildTrojancAddr laws port⟩
  · rintro ⟨bytes, built⟩
    obtain ⟨addrType, bytes, addressed⟩ := addressed_of_buildTrojancAddr built
    exact ⟨_, addressed.buildProxyHeader laws network port⟩

theorem buildProxyHeader_of_buildTrojancAddr (laws : AddrTextLaws text) {bytes : Bytes}
    (built : buildTrojancAddr text host port = .ok bytes) (network : UInt8) :
    buildProxyHeader text network host port = .ok (network :: bytes) := by
  obtain ⟨addrType, octets, addressed⟩ := addressed_of_buildTrojancAddr built
  rw [addressed.buildTrojancAddr laws] at built
  rw [addressed.buildProxyHeader laws, ← Except.ok.inj built]
  rfl

/-! ## Socket addresses and their texts -/

theorem addressed_ip (laws : AddrTextLaws text) (ip : IpAddr) :
    ∃ addrType bytes, Addressed text (text.ip ip) addrType bytes ∧
      ∀ port, buildTrojancAddrCached (.fromSocketAddr ⟨ip, port⟩) =
        .ok (addrType :: bytes ++ (u16ToBeBytes port).val) := by
  cases ip with
  | v4 octets =>
      exact ⟨_, _, .ipv4 (laws.parseIp_ipv4 octets), fun port => build_ipv4 octets _ port⟩
  | v6 octets =>
      exact ⟨_, _, .ipv6 (laws.parseIp_ipv6 octets), fun port => build_ipv6 octets _ port⟩

/-- Formatting and parsing the address changes nothing on the wire. -/
theorem buildTrojancAddrCached_ip (laws : AddrTextLaws text) (addr : SocketAddr) :
    ∃ bytes,
      buildTrojancAddrCached (.fromSocketAddr addr) = .ok bytes ∧
      buildTrojancAddrCached (.fromHostPort text (text.ip addr.ip) addr.port) = .ok bytes := by
  obtain ⟨addrType, bytes, addressed, built⟩ := addressed_ip laws addr.ip
  exact ⟨_, built addr.port, addressed.buildTrojancAddr laws addr.port⟩

/-! ## Reading into a buffer -/

/-- Reads with a buffer for the host at hand. -/
abbrev HostReader (α : Type) := StateT String Reader α

/-- `read_exact` leaves the buffer as it is. -/
def readBeside (n : Nat) : HostReader (Octets n) := StateT.lift (readExact n)

/-- The byte of a field of one byte. -/
def only (octets : Octets 1) : UInt8 := octets.get ⟨0, Nat.one_pos⟩

/-- `String::clear`, then the host is pushed. -/
def refill (host : String) : HostReader Unit := do
  set ""
  modify (· ++ host)

/-- The address of `read_trojanc_addr_into_async`, after its type. -/
def readHostInto (text : AddrText) (addrType : UInt8) : HostReader Unit := do
  if addrType = addrTypeIpv4 then
    refill (text.ipv4 (← readBeside 4))
  else if addrType = addrTypeIpv6 then
    refill (text.ipv6 (← readBeside 16))
  else if addrType = addrTypeDomain then
    let len := only (← readBeside 1)
    if len = 0 then
      throw "trojanc domain length is zero"
    refill (text.utf8Lossy (← readBeside len.toNat).val)
  else
    throw ("unknown trojanc address type: " ++ toString addrType)

/-- `read_trojanc_addr_into_async` with its buffer. -/
def readTrojancAddrIntoAsync (text : AddrText) : HostReader UInt16 := do
  readHostInto text (only (← readBeside 1))
  return u16FromBeBytes (← readBeside 2)

section HostReader

variable {β : Type}

theorem readBeside_bind_run {n : Nat} (next : Octets n → HostReader β) (buffer : String) :
    (readBeside n >>= next) buffer = readExact n >>= fun octets => next octets buffer := by
  funext input
  show (Except.bind (Except.bind (readExact n input) _) _) = Except.bind (readExact n input) _
  cases readExact n input with
  | error reason => rfl
  | ok taken => rfl

theorem refill_run (host buffer : String) :
    refill host buffer = (pure ((), host) : Reader (Unit × String)) := by
  show (pure ((), "" ++ host) : Reader (Unit × String)) = _
  rw [String.empty_append]

end HostReader

/-- What the buffer held before does not matter. -/
theorem readHostInto_run (text : AddrText) (addrType : UInt8) (buffer : String) :
    readHostInto text addrType buffer = (fun host => ((), host)) <$> readHost text addrType := by
  have refilled : ∀ {n : Nat} (toText : Octets n → String),
      (readBeside n >>= fun octets => refill (toText octets)) buffer =
        (fun host => ((), host)) <$> (toText <$> readExact n) := by
    intro n toText
    rw [readBeside_bind_run]
    simp only [refill_run, map_eq_pure_bind, bind_assoc, pure_bind]
  unfold readHostInto readHost
  by_cases ipv4 : addrType = addrTypeIpv4
  · rw [if_pos ipv4, if_pos ipv4]
    exact refilled text.ipv4
  · rw [if_neg ipv4, if_neg ipv4]
    by_cases ipv6 : addrType = addrTypeIpv6
    · rw [if_pos ipv6, if_pos ipv6]
      exact refilled text.ipv6
    · rw [if_neg ipv6, if_neg ipv6]
      by_cases domain : addrType = addrTypeDomain
      · rw [if_pos domain, if_pos domain, readBeside_bind_run, map_bind]
        congr 1
        funext len
        show (ite (len.get 0 = 0) _ _ : HostReader Unit) buffer = _
        by_cases zero : len.get 0 = 0
        · simp only [if_pos zero]
          rfl
        · simp only [if_neg zero]
          exact refilled fun octets => text.utf8Lossy octets.val
      · rw [if_neg domain, if_neg domain]
        rfl

theorem readTrojancAddrIntoAsync_run (text : AddrText) (buffer : String) :
    readTrojancAddrIntoAsync text buffer = readTrojancAddrInto text := by
  unfold readTrojancAddrIntoAsync readTrojancAddrInto
  rw [readBeside_bind_run]
  congr 1
  funext addrType input
  show Except.bind (readHostInto text (addrType.get 0) buffer input) _ =
    Except.bind (readHost text (addrType.get 0) input) _
  rw [readHostInto_run]
  show Except.bind (Except.map _ (readHost text (addrType.get 0) input)) _ = _
  cases readHost text (addrType.get 0) input with
  | error reason => rfl
  | ok taken =>
    show Except.bind (Except.bind (readExact 2 taken.2) _) _ = Except.bind (readExact 2 taken.2) _
    cases readExact 2 taken.2 with
    | error reason => rfl
    | ok port => rfl

theorem readTrojancAddrInto_eq (text : AddrText) :
    readTrojancAddrInto text = Prod.swap <$> readTrojancAddr text := by
  unfold readTrojancAddrInto readTrojancAddr
  simp only [map_eq_pure_bind, bind_assoc, pure_bind, Prod.swap_prod_mk]

/-- Both readers fail, or they return the same host and port and leave the same bytes. -/
theorem readers_agree (text : AddrText) (input : Bytes) (buffer host : String) (port : UInt16)
    (rest : Bytes) :
    readTrojancAddrIntoAsync text buffer input = .ok ((port, host), rest) ↔
      readTrojancAddr text input = .ok ((host, port), rest) := by
  rw [readTrojancAddrIntoAsync_run, readTrojancAddrInto_eq]
  show Except.bind (readTrojancAddr text input) _ = _ ↔ _
  cases readTrojancAddr text input with
  | error reason =>
      constructor
      · intro read
        cases read
      · intro read
        cases read
  | ok taken =>
      obtain ⟨⟨hostRead, portRead⟩, left⟩ := taken
      constructor
      · intro read
        cases read
        rfl
      · intro read
        cases read
        rfl

/-! ## Agreement -/

theorem addresses_agree (laws : AddrTextLaws text) :
    (∀ network host port, host ≠ "" →
      ((∃ header, buildProxyHeader text network host port = .ok header) ↔
        ∃ bytes, buildTrojancAddr text host port = .ok bytes) ∧
      ∀ bytes, buildTrojancAddr text host port = .ok bytes →
        buildProxyHeader text network host port = .ok (network :: bytes)) ∧
    (∀ addr : SocketAddr, ∃ bytes, ∀ buffer,
      buildTrojancAddrCachedInto (.fromSocketAddr addr) buffer = (.ok (), buffer ++ bytes) ∧
      buildTrojancAddrCachedInto (.fromHostPort text (text.ip addr.ip) addr.port) buffer =
        (.ok (), buffer ++ bytes)) ∧
    (∀ cached buffer reason after,
      buildTrojancAddrCachedInto cached buffer = (.error reason, after) → after = buffer) ∧
    ∀ input buffer host port rest,
      readTrojancAddrIntoAsync text buffer input = .ok ((port, host), rest) ↔
        readTrojancAddr text input = .ok ((host, port), rest) := by
  refine ⟨fun network host port named => ⟨buildProxyHeader_ok_iff laws named network port,
    fun bytes built => buildProxyHeader_of_buildTrojancAddr laws built network⟩, ?_, ?_,
    readers_agree text⟩
  · intro addr
    obtain ⟨bytes, direct, formatted⟩ := buildTrojancAddrCached_ip laws addr
    refine ⟨bytes, fun buffer => ⟨?_, ?_⟩⟩
    · rw [buildTrojancAddrCachedInto_eq, direct]
    · rw [buildTrojancAddrCachedInto_eq, formatted]
  · intro cached buffer reason after failed
    rw [buildTrojancAddrCachedInto_eq] at failed
    cases built : buildTrojancAddrCached cached with
    | ok bytes =>
        rw [built] at failed
        cases failed
    | error other =>
        rw [built] at failed
        exact (Prod.mk.inj failed).2.symm

theorem addresses_agree_std :
    buildProxyHeader IpText.std networkTcp "192.0.2.1" 443 =
      .ok [1, 1, 192, 0, 2, 1, 1, 187] :=
  ((addresses_agree IpText.std_laws).1 networkTcp "192.0.2.1" 443 (by decide)).2 _ (by
    decide +kernel)

end Juicity.Common.Protocol
