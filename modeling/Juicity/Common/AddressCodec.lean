import Juicity.Common.CachedAddr
import Juicity.Machine.Framing

/-!
Owns the round trips of addresses: what the writers accept, and that what they
write is a frame of the readers. A host comes back as it was, an IP literal as
its canonical text.
-/

namespace Juicity.Common

open Juicity.Machine

/-- What the protocol relies on of the conversions of `std`: `Display` and
`FromStr` of IP addresses are inverse, exactly the IPv6 texts have colons, and
the lossy conversion of valid UTF-8 is exact. -/
structure AddrTextLaws (text : AddrText) : Prop where
  parseIp_empty : text.parseIp "" = none
  parseIp_ipv4 : ∀ octets, text.parseIp (text.ipv4 octets) = some (.v4 octets)
  parseIp_ipv6 : ∀ octets, text.parseIp (text.ipv6 octets) = some (.v6 octets)
  ipv4_colon : ∀ host octets, text.parseIp host = some (.v4 octets) → ':' ∉ host.toList
  ipv6_colon : ∀ host octets, text.parseIp host = some (.v6 octets) → ':' ∈ host.toList
  utf8Lossy_utf8 : ∀ host, text.utf8Lossy (utf8 host) = host

/-- The canonical text of an IP literal, and any other host itself. -/
def AddrText.canonical (text : AddrText) (host : String) : String :=
  match text.parseIp host with
  | some address => text.ip address
  | none => host

/-- A host the writers can carry. -/
def Encodable (text : AddrText) (host : String) : Prop :=
  host ≠ "" ∧ ((∃ address, text.parseIp host = some address) ∨
    (':' ∉ host.toList ∧ (utf8 host).length ≤ 255))

instance (text : AddrText) (host : String) : Decidable (Encodable text host) :=
  decidable_of_iff
    (host ≠ "" ∧ ((text.parseIp host).isSome ∨ (':' ∉ host.toList ∧ (utf8 host).length ≤ 255)))
    (by rw [Encodable, Option.isSome_iff_exists])

/-! ## UTF-8 -/

theorem length_utf8 (host : String) : (utf8 host).length = host.utf8ByteSize := rfl

theorem length_utf8_pos_iff {host : String} : 0 < (utf8 host).length ↔ host ≠ "" := by
  rw [length_utf8, Nat.pos_iff_ne_zero, not_iff_not]
  exact String.utf8ByteSize_eq_zero_iff

theorem fromUtf8_eq_some_iff {bytes : Bytes} {host : String} :
    fromUtf8 bytes = some host ↔ utf8 host = bytes := by
  unfold fromUtf8 String.fromUTF8? utf8
  constructor
  · intro decoded
    split at decoded
    · rw [← Option.some.inj decoded]
      rfl
    · cases decoded
  · intro encoded
    have same : host.toByteArray = ⟨bytes.toArray⟩ := by
      rw [← encoded]
    have valid : ByteArray.IsValidUTF8 ⟨bytes.toArray⟩ := same ▸ host.isValidUTF8
    rw [dif_pos valid]
    exact congrArg some (String.toByteArray_inj.mp same.symm)

/-! ## Primitive frames -/

theorem frames_readExact {n : Nat} (octets : Octets n) :
    Frames (readExact n) octets.val octets where
  whole := by
    intro rest
    have enough : n ≤ (octets.val ++ rest).length := by
      rw [List.length_append, octets.length_val]
      omega
    unfold readExact
    rw [dif_pos enough]
    have front : (octets.val ++ rest).take n = octets.val := by
      rw [List.take_append_of_le_length (by simp), List.take_of_length_le (by simp)]
    have back : (octets.val ++ rest).drop n = rest := by
      rw [List.drop_append_of_le_length (by simp), List.drop_of_length_le (by simp),
        List.nil_append]
    simp only [front, back]
    rfl
  short := by
    intro front before strict
    have fewer : ¬ n ≤ front.length := by
      intro enough
      apply strict
      apply before.eq_of_length_le
      rw [octets.length_val]
      exact enough
    exact ⟨"early eof", dif_neg fewer⟩

theorem consumes_readExact (n : Nat) : Consumes (readExact n) n := by
  intro input octets rest taken
  unfold readExact at taken
  split at taken
  · obtain ⟨-, rfl⟩ := Prod.mk.inj (Except.ok.inj taken)
    rw [List.length_drop]
    omega
  · cases taken

theorem consumes_readThen {α : Type} (n : Nat) {next : Octets n → Reader α}
    (tail : ∀ octets, Consumes (next octets) 0) : Consumes (readExact n >>= next) 0 :=
  ((consumes_readExact n).bind tail).mono (Nat.zero_le _)

@[simp] theorem u16FromBeBytes_toBeBytes (value : UInt16) :
    u16FromBeBytes (u16ToBeBytes value) = value := by
  show (value >>> 8).toUInt8.toUInt16 <<< 8 ||| value.toUInt8.toUInt16 = value
  apply UInt16.toNat_inj.mp
  have bound : value.toNat < 65536 := value.toNat_lt
  have high : ((value.toNat >>> 8 % 256) <<< 8) % 65536 = (value.toNat / 256) <<< 8 := by
    simp only [Nat.shiftRight_eq_div_pow, Nat.shiftLeft_eq]
    omega
  have join := Nat.shiftLeft_add_eq_or_of_lt (b := value.toNat % 256) (i := 8) (by omega)
    (value.toNat / 256)
  have eight : (8 : UInt16).toNat % 16 = 8 := rfl
  simp only [UInt16.toNat_or, UInt16.toNat_shiftLeft, UInt8.toNat_toUInt16, UInt16.toNat_toUInt8,
    UInt16.toNat_shiftRight]
  rw [eight, high, ← join, Nat.shiftLeft_eq]
  omega

namespace Protocol

variable {text : AddrText}

/-! ## Hosts -/

theorem frames_readHost_ipv4 (octets : Octets 4) :
    Frames (readHost text addrTypeIpv4) octets.val (text.ipv4 octets) := by
  unfold readHost
  rw [if_pos rfl]
  exact (frames_readExact octets).map text.ipv4

theorem frames_readHost_ipv6 (octets : Octets 16) :
    Frames (readHost text addrTypeIpv6) octets.val (text.ipv6 octets) := by
  unfold readHost
  rw [if_neg (by decide), if_pos rfl]
  exact (frames_readExact octets).map text.ipv6

theorem toNat_ofNat_length {domain : Bytes} (fits : domain.length ≤ 255) :
    (UInt8.ofNat domain.length).toNat = domain.length := by
  rw [UInt8.toNat_ofNat']
  omega

theorem frames_readHost_domain {domain : Bytes} (nonempty : 0 < domain.length)
    (fits : domain.length ≤ 255) :
    Frames (readHost text addrTypeDomain) (UInt8.ofNat domain.length :: domain)
      (text.utf8Lossy domain) := by
  have length := toNat_ofNat_length fits
  unfold readHost
  rw [if_neg (by decide), if_neg (by decide), if_pos rfl]
  apply (frames_readExact (⟨[UInt8.ofNat domain.length], rfl⟩ : Octets 1)).bind
  have positive : UInt8.ofNat domain.length ≠ 0 := by
    intro zero
    rw [zero] at length
    exact Nat.ne_of_gt nonempty length.symm
  show Frames (if UInt8.ofNat domain.length = 0 then _ else _) domain _
  rw [if_neg positive]
  exact (frames_readExact (⟨domain, length.symm⟩ : Octets (UInt8.ofNat domain.length).toNat)).map
    fun bytes => text.utf8Lossy bytes.val

/-! ## Trojanc addresses -/

theorem consumes_readHost (addrType : UInt8) : Consumes (readHost text addrType) 0 := by
  unfold readHost
  split
  · exact consumes_readThen 4 fun ip => .pure _
  · split
    · exact consumes_readThen 16 fun ip => .pure _
    · split
      · refine consumes_readThen 1 fun len => ?_
        show Consumes (if len.get 0 = 0 then _ else _) 0
        split
        · exact (Consumes.throw _ 0).bind fun _ => consumes_readThen _ fun domain => .pure _
        · exact consumes_readThen _ fun domain => .pure _
      · exact .throw _ 0

theorem consumes_readTrojancAddr : Consumes (readTrojancAddr text) 1 :=
  (consumes_readExact 1).bind fun _ => (consumes_readHost _).bind fun _ =>
    consumes_readThen 2 fun _ => .pure _

theorem consumes_readTrojancAddrInto : Consumes (readTrojancAddrInto text) 1 :=
  (consumes_readExact 1).bind fun _ => (consumes_readHost _).bind fun _ =>
    consumes_readThen 2 fun _ => .pure _

theorem frames_readTrojancAddr {addrType : UInt8} {bytes : Bytes} {host : String}
    (framed : Frames (readHost text addrType) bytes host) (port : UInt16) :
    Frames (readTrojancAddr text) (addrType :: bytes ++ (u16ToBeBytes port).val) (host, port) := by
  apply (frames_readExact (⟨[addrType], rfl⟩ : Octets 1)).bind
  apply framed.bind
  have tail := (frames_readExact (u16ToBeBytes port)).map fun bytes => (host, u16FromBeBytes bytes)
  rwa [u16FromBeBytes_toBeBytes] at tail

theorem frames_readTrojancAddrInto {addrType : UInt8} {bytes : Bytes} {host : String}
    (framed : Frames (readHost text addrType) bytes host) (port : UInt16) :
    Frames (readTrojancAddrInto text) (addrType :: bytes ++ (u16ToBeBytes port).val)
      (port, host) := by
  apply (frames_readExact (⟨[addrType], rfl⟩ : Octets 1)).bind
  apply framed.bind
  have tail := (frames_readExact (u16ToBeBytes port)).map fun bytes => (u16FromBeBytes bytes, host)
  rwa [u16FromBeBytes_toBeBytes] at tail

/-! ## What the writers accept -/

/-- The type and the address bytes of a host on the wire. -/
inductive Addressed (text : AddrText) (host : String) : UInt8 → Bytes → Prop where
  | ipv4 {octets : Octets 4} (parsed : text.parseIp host = some (.v4 octets)) :
      Addressed text host addrTypeIpv4 octets.val
  | ipv6 {octets : Octets 16} (parsed : text.parseIp host = some (.v6 octets)) :
      Addressed text host addrTypeIpv6 octets.val
  | domain (unparsed : text.parseIp host = none) (plain : ':' ∉ host.toList)
      (nonempty : 0 < (utf8 host).length) (fits : (utf8 host).length ≤ 255) :
      Addressed text host addrTypeDomain
        (UInt8.ofNat (utf8 host).length :: utf8 host)

variable {host : String} {addrType : UInt8} {bytes : Bytes}

theorem addressed_of_parse {address : IpAddr} (parsed : text.parseIp host = some address) :
    ∃ addrType bytes, Addressed text host addrType bytes := by
  cases address with
  | v4 octets => exact ⟨_, _, .ipv4 parsed⟩
  | v6 octets => exact ⟨_, _, .ipv6 parsed⟩

theorem addressed_of_encodable (encodable : Encodable text host) :
    ∃ addrType bytes, Addressed text host addrType bytes := by
  obtain ⟨nonempty, shape⟩ := encodable
  cases parsed : text.parseIp host with
  | some address => exact addressed_of_parse parsed
  | none =>
      rcases shape with ⟨address, alsoParsed⟩ | ⟨plain, fits⟩
      · cases parsed.symm.trans alsoParsed
      · exact ⟨_, _, .domain parsed plain (length_utf8_pos_iff.mpr nonempty) fits⟩

theorem encodable_of_addressed (laws : AddrTextLaws text)
    (addressed : Addressed text host addrType bytes) : Encodable text host := by
  have named : ∀ address, text.parseIp host = some address → host ≠ "" := by
    rintro address parsed rfl
    cases laws.parseIp_empty.symm.trans parsed
  cases addressed with
  | ipv4 parsed => exact ⟨named _ parsed, .inl ⟨_, parsed⟩⟩
  | ipv6 parsed => exact ⟨named _ parsed, .inl ⟨_, parsed⟩⟩
  | domain unparsed plain nonempty fits =>
      exact ⟨length_utf8_pos_iff.mp nonempty, .inr ⟨plain, fits⟩⟩

theorem Addressed.framesHost (laws : AddrTextLaws text)
    (addressed : Addressed text host addrType bytes) :
    Frames (readHost text addrType) bytes (text.canonical host) := by
  unfold AddrText.canonical
  cases addressed with
  | ipv4 parsed =>
      rw [parsed]
      exact frames_readHost_ipv4 _
  | ipv6 parsed =>
      rw [parsed]
      exact frames_readHost_ipv6 _
  | domain unparsed plain nonempty fits =>
      rw [unparsed]
      have frame : Frames (readHost text addrTypeDomain) _ (text.utf8Lossy (utf8 host)) :=
        frames_readHost_domain nonempty fits
      rwa [laws.utf8Lossy_utf8] at frame

theorem take_padded {n length : Nat} {source : Bytes} (fits : source.length ≤ n)
    (exact : source.length = length) : (Octets.padded n source fits).val.take length = source := by
  subst exact
  unfold Octets.padded
  rw [List.take_append_of_le_length (Nat.le_refl _), List.take_length]

theorem build_ipv4 (octets : Octets 4) (fits : octets.val.length ≤ 255) (port : UInt16) :
    buildTrojancAddrCached ⟨.v4, .padded 255 octets.val fits, 4, port⟩ =
      .ok (addrTypeIpv4 :: octets.val ++ (u16ToBeBytes port).val) := by
  have host := take_padded fits octets.length_val
  show Except.ok (addrTypeIpv4 :: (Octets.padded 255 octets.val fits).val.take 4 ++ _) = _
  rw [host]

theorem build_ipv6 (octets : Octets 16) (fits : octets.val.length ≤ 255) (port : UInt16) :
    buildTrojancAddrCached ⟨.v6, .padded 255 octets.val fits, 16, port⟩ =
      .ok (addrTypeIpv6 :: octets.val ++ (u16ToBeBytes port).val) := by
  have host := take_padded fits octets.length_val
  show Except.ok (addrTypeIpv6 :: (Octets.padded 255 octets.val fits).val.take 16 ++ _) = _
  rw [host]

theorem build_domain {domain : Bytes} (nonempty : 0 < domain.length)
    (fits : domain.length ≤ 255) (port : UInt16) :
    buildTrojancAddrCached
        ⟨.domain, .padded 255 domain fits, UInt8.ofNat domain.length, port⟩ =
      .ok (addrTypeDomain :: (UInt8.ofNat domain.length :: domain) ++ (u16ToBeBytes port).val) := by
  have length := toNat_ofNat_length fits
  have host := take_padded fits length.symm
  have valid : 0 < UInt8.ofNat domain.length := by
    rw [UInt8.lt_iff_toNat_lt, length]
    exact nonempty
  unfold buildTrojancAddrCached hostLenValid
  simp only [valid, decide_true, if_true, host]
  rfl

theorem Addressed.buildTrojancAddr (laws : AddrTextLaws text)
    (addressed : Addressed text host addrType bytes) (port : UInt16) :
    buildTrojancAddr text host port = .ok (addrType :: bytes ++ (u16ToBeBytes port).val) := by
  unfold Protocol.buildTrojancAddr CachedAddr.fromHostPort AddrType.fromHost containsColon
  cases addressed with
  | @ipv4 octets parsed =>
      have plain := laws.ipv4_colon host octets parsed
      simp only [plain, decide_false, AddrText.parseIpv4, parsed]
      exact build_ipv4 octets _ port
  | @ipv6 octets parsed =>
      have colon := laws.ipv6_colon host octets parsed
      simp only [colon, decide_true, AddrText.parseIpv6, parsed]
      exact build_ipv6 octets _ port
  | domain unparsed plain nonempty fits =>
      simp only [plain, decide_false, AddrText.parseIpv4, unparsed]
      show buildTrojancAddrCached (dite _ _ _) = _
      rw [dif_pos fits]
      exact build_domain nonempty fits port

/-- The writer of datagram addresses accepts no other hosts. -/
theorem addressed_of_buildTrojancAddr {port : UInt16}
    (built : Protocol.buildTrojancAddr text host port = .ok bytes) :
    ∃ addrType bytes, Addressed text host addrType bytes := by
  cases parsed : text.parseIp host with
  | some address => exact addressed_of_parse parsed
  | none =>
      unfold Protocol.buildTrojancAddr CachedAddr.fromHostPort AddrType.fromHost
        containsColon at built
      by_cases colon : ':' ∈ host.toList
      · simp only [colon, decide_true, AddrText.parseIpv6, parsed] at built
        cases built
      · simp only [colon, decide_false, AddrText.parseIpv4, parsed] at built
        change buildTrojancAddrCached (dite _ _ _) = _ at built
        by_cases fits : (utf8 host).length ≤ 255
        · rw [dif_pos fits] at built
          by_cases nonempty : 0 < (utf8 host).length
          · exact ⟨_, _, .domain parsed colon nonempty fits⟩
          · have empty : (utf8 host).length = 0 := by omega
            simp only [empty] at built
            cases built
        · rw [dif_neg fits] at built
          cases built

/-- A socket address is always written, and read back as the text of its address. -/
theorem buildTrojancAddrCached_fromSocketAddr (text : AddrText) (ip : IpAddr) (port : UInt16) :
    ∃ addrType bytes,
      buildTrojancAddrCached (.fromSocketAddr ⟨ip, port⟩) =
        .ok (addrType :: bytes ++ (u16ToBeBytes port).val) ∧
      Frames (readHost text addrType) bytes (text.ip ip) := by
  cases ip with
  | v4 octets => exact ⟨_, _, build_ipv4 octets _ port, frames_readHost_ipv4 octets⟩
  | v6 octets => exact ⟨_, _, build_ipv6 octets _ port, frames_readHost_ipv6 octets⟩

/-! ## Proxy headers -/

theorem Addressed.framesProxyHost (laws : AddrTextLaws text)
    (addressed : Addressed text host addrType bytes) :
    Frames (readProxyHost text addrType) bytes (text.canonical host) := by
  have frame := addressed.framesHost laws
  cases addressed with
  | ipv4 parsed | ipv6 parsed => exact frame
  | domain unparsed plain nonempty fits =>
      unfold AddrText.canonical
      rw [unparsed]
      apply (frames_readExact (⟨[UInt8.ofNat (utf8 host).length], rfl⟩ : Octets 1)).bind
      have domain := (frames_readExact (⟨utf8 host, (toNat_ofNat_length fits).symm⟩ :
        Octets (UInt8.ofNat (utf8 host).length).toNat)).map fun bytes => text.utf8Lossy bytes.val
      rwa [laws.utf8Lossy_utf8] at domain

theorem Addressed.buildProxyHeader (laws : AddrTextLaws text)
    (addressed : Addressed text host addrType bytes) (network : UInt8) (port : UInt16) :
    buildProxyHeader text network host port =
      .ok (network :: addrType :: bytes ++ (u16ToBeBytes port).val) := by
  have named := (encodable_of_addressed laws addressed).1
  have nonempty : host.isEmpty = false := by
    show (host.utf8ByteSize == 0) = false
    exact beq_false_of_ne (fun zero => named (String.utf8ByteSize_eq_zero_iff.mp zero))
  unfold Protocol.buildProxyHeader containsColon
  cases addressed with
  | @ipv4 octets parsed =>
      have plain := laws.ipv4_colon host octets parsed
      simp only [nonempty, plain, decide_false, AddrText.parseIpv4, parsed]
      rfl
  | @ipv6 octets parsed =>
      have colon := laws.ipv6_colon host octets parsed
      simp only [nonempty, colon, decide_true, AddrText.parseIpv6, parsed]
      rfl
  | domain unparsed plain _ fits =>
      simp only [nonempty, plain, decide_false, AddrText.parseIpv4, unparsed]
      exact if_pos fits

/-- The reader of proxy headers. -/
theorem Addressed.framesProxyHeader (laws : AddrTextLaws text)
    (addressed : Addressed text host addrType bytes) (network : UInt8) (port : UInt16) :
    Frames (readProxyHeader text) (network :: addrType :: bytes ++ (u16ToBeBytes port).val)
      ⟨network, text.canonical host, port⟩ := by
  have typed : addrType ≠ addrTypeNone := by
    cases addressed <;> decide
  apply (frames_readExact (⟨[network, addrType], rfl⟩ : Octets 2)).bind
  apply (addressed.framesProxyHost laws).bind
  show Frames (if addrType = addrTypeNone then _ else _) _ _
  rw [if_neg typed]
  have tail := (frames_readExact (u16ToBeBytes port)).map fun bytes =>
    (⟨network, text.canonical host, u16FromBeBytes bytes⟩ : ProxyHeader)
  rwa [u16FromBeBytes_toBeBytes] at tail

end Protocol

end Juicity.Common
