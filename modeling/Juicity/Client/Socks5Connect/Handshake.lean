import Juicity.Client.Socks5Reply

/-!
Owns the handshake of `handle_socks5` in `client/src/local.rs`: the greeting, the
request, and what is read of them.

The version and reserved bytes of a request are not looked at, nor are the methods
of the greeting; a domain must be valid UTF-8. Texts of UTF-8 errors carry no
position.
-/

namespace Juicity.Client.Socks5Connect

open Juicity.Common
open Juicity.Machine

/-- What a request asks for. -/
structure Request where
  cmd : UInt8
  host : String
  port : UInt16
deriving DecidableEq

def connectCmd : UInt8 := 1
def udpAssociateCmd : UInt8 := 3

/-! ## Reading -/

/-- The greeting: the version, the number of methods and the methods. -/
def readGreeting : Reader Unit := do
  let buf ← readExact 2
  let _methods ← readExact (buf.byte 1).toNat
  return ()

/-- `String::from_utf8` of a domain. -/
def domainText (domain : Bytes) : Reader String :=
  match fromUtf8 domain with
  | some host => return host
  | none => throw "invalid utf-8 sequence"

/-- The address and the port of a request, after the address type. -/
def readAddress (text : AddrText) (addrType : UInt8) : Reader (String × UInt16) := do
  if addrType = 0x01 then
    let ip ← readExact 4
    let portBuf ← readExact 2
    return (text.ipv4 ip, u16FromBeBytes portBuf)
  else if addrType = 0x03 then
    let len := (← readExact 1).byte 0
    let domain ← readExact len.toNat
    let portBuf ← readExact 2
    let host ← domainText domain.val
    return (host, u16FromBeBytes portBuf)
  else if addrType = 0x04 then
    let ip ← readExact 16
    let portBuf ← readExact 2
    return (text.ipv6 ip, u16FromBeBytes portBuf)
  else
    throw ("unsupported address type: " ++ toString addrType)

def readRequest (text : AddrText) : Reader Request := do
  let req ← readExact 4
  let address ← readAddress text (req.byte 3)
  return ⟨req.byte 1, address.1, address.2⟩

/-- The answer to the greeting: no authentication. -/
def methodReply : Bytes := [0x05, 0x00]

/-- What the handshake writes, and the request with what follows it. -/
def handshake (text : AddrText) (input : Bytes) : Bytes × Except String (Request × Bytes) :=
  match readGreeting input with
  | .error reason => ([], .error reason)
  | .ok (_, rest) => (methodReply, readRequest text rest)

/-! ## What a client may send -/

/-- A destination as a request names it. -/
inductive Destination where
  | ipv4 (octets : Octets 4)
  | domain (host : String) (fits : (utf8 host).length ≤ 255)
  | ipv6 (octets : Octets 16)

namespace Destination

def addrType : Destination → UInt8
  | .ipv4 _ => 0x01
  | .domain _ _ => 0x03
  | .ipv6 _ => 0x04

def bytes : Destination → Bytes
  | .ipv4 octets => octets.val
  | .domain host _ => UInt8.ofNat (utf8 host).length :: utf8 host
  | .ipv6 octets => octets.val

/-- The host that is dialed for the destination. -/
def host (text : AddrText) : Destination → String
  | .ipv4 octets => text.ipv4 octets
  | .domain host _ => host
  | .ipv6 octets => text.ipv6 octets

end Destination

/-- A greeting with any version and methods. -/
def greetingBytes (version : UInt8) (methods : Bytes) : Bytes :=
  version :: UInt8.ofNat methods.length :: methods

/-- A request with any version and reserved byte. -/
def requestBytes (version cmd reserved : UInt8) (destination : Destination) (port : UInt16) :
    Bytes :=
  [version, cmd, reserved, destination.addrType] ++ (destination.bytes ++ (u16ToBeBytes port).val)

section Frames

variable {text : AddrText}

theorem frames_readGreeting (version : UInt8) (methods : Bytes) (fits : methods.length ≤ 255) :
    Frames readGreeting (greetingBytes version methods) () := by
  have length := Protocol.toNat_ofNat_length fits
  apply (frames_readExact (⟨[version, UInt8.ofNat methods.length], rfl⟩ : Octets 2)).bind
  exact (frames_readExact
    (⟨methods, length.symm⟩ : Octets (UInt8.ofNat methods.length).toNat)).map fun _ => ()

theorem frames_port {α : Type} (port : UInt16) (function : UInt16 → α) :
    Frames (readExact 2 >>= fun portBuf => pure (function (u16FromBeBytes portBuf)))
      (u16ToBeBytes port).val (function port) := by
  have frame := (frames_readExact (u16ToBeBytes port)).map fun portBuf =>
    function (u16FromBeBytes portBuf)
  rwa [u16FromBeBytes_toBeBytes] at frame

theorem domainText_utf8 (host : String) : domainText (utf8 host) = pure host := by
  rw [domainText, fromUtf8_eq_some_iff.mpr rfl]

theorem frames_readAddress (destination : Destination) (port : UInt16) :
    Frames (readAddress text destination.addrType)
      (destination.bytes ++ (u16ToBeBytes port).val) (destination.host text, port) := by
  unfold readAddress
  cases destination with
  | ipv4 octets =>
      rw [Destination.addrType, if_pos rfl]
      exact (frames_readExact octets).bind (frames_port port fun port => (text.ipv4 octets, port))
  | domain host fits =>
      have length := Protocol.toNat_ofNat_length fits
      rw [Destination.addrType, if_neg (by decide), if_pos rfl]
      apply (frames_readExact (⟨[UInt8.ofNat (utf8 host).length], rfl⟩ : Octets 1)).bind
      apply (frames_readExact
        (⟨utf8 host, length.symm⟩ : Octets (UInt8.ofNat (utf8 host).length).toNat)).bind
      simp only [domainText_utf8, pure_bind]
      exact frames_port port fun port => (host, port)
  | ipv6 octets =>
      rw [Destination.addrType, if_neg (by decide), if_neg (by decide), if_pos rfl]
      exact (frames_readExact octets).bind (frames_port port fun port => (text.ipv6 octets, port))

theorem frames_readRequest (version cmd reserved : UInt8) (destination : Destination)
    (port : UInt16) :
    Frames (readRequest text) (requestBytes version cmd reserved destination port)
      ⟨cmd, destination.host text, port⟩ := by
  apply (frames_readExact
    (⟨[version, cmd, reserved, destination.addrType], rfl⟩ : Octets 4)).bind
  exact (frames_readAddress destination port).map fun address =>
    (⟨cmd, address.1, address.2⟩ : Request)

end Frames

/-! ## What the handshake accepts -/

section Accepted

variable {text : AddrText} {input rest : Bytes}

theorem greetingBytes_of_readGreeting (taken : readGreeting input = .ok ((), rest)) :
    ∃ version methods, methods.length ≤ 255 ∧ input = greetingBytes version methods ++ rest := by
  obtain ⟨buf, middle, counted, taken⟩ := parts_of_bind taken
  obtain ⟨methods, last, listed, given⟩ := parts_of_bind taken
  obtain ⟨-, rfl⟩ := Prod.mk.inj (Except.ok.inj given)
  obtain ⟨bytes, two⟩ := buf
  obtain ⟨version, nMethods, rfl⟩ := List.length_eq_two.mp two
  have count : methods.val.length = nMethods.toNat := methods.length_val
  have byte := nMethods.toNat_lt
  refine ⟨version, methods.val, by omega, ?_⟩
  have same : UInt8.ofNat methods.val.length = nMethods := by rw [count, UInt8.ofNat_toNat]
  rw [shape_of_readExact counted, shape_of_readExact listed, greetingBytes, same]
  rfl

theorem toNat_u16FromBeBytes (high low : UInt8) :
    (high.toUInt16 <<< 8 ||| low.toUInt16).toNat = high.toNat * 256 + low.toNat := by
  have highByte := high.toNat_lt
  have lowByte := low.toNat_lt
  have join := Nat.shiftLeft_add_eq_or_of_lt (b := low.toNat) (i := 8) (by omega) high.toNat
  have eight : (8 : UInt16).toNat % 16 = 8 := rfl
  rw [UInt16.toNat_or, UInt16.toNat_shiftLeft, UInt8.toNat_toUInt16, UInt8.toNat_toUInt16, eight,
    Nat.mod_eq_of_lt (by rw [Nat.shiftLeft_eq]; omega), ← join, Nat.shiftLeft_eq]

theorem readGreeting_append (taken : readGreeting input = .ok ((), rest)) (more : Bytes) :
    readGreeting (input ++ more) = .ok ((), rest ++ more) := by
  obtain ⟨version, methods, fits, rfl⟩ := greetingBytes_of_readGreeting taken
  rw [List.append_assoc]
  exact (frames_readGreeting version methods fits).whole (rest ++ more)

/-- The two bytes of a port. -/
theorem val_of_u16FromBeBytes (bytes : Octets 2) :
    (u16ToBeBytes (u16FromBeBytes bytes)).val = bytes.val := by
  obtain ⟨list, two⟩ := bytes
  obtain ⟨high, low, rfl⟩ := List.length_eq_two.mp two
  have highByte := high.toNat_lt
  have lowByte := low.toNat_lt
  have joined := toNat_u16FromBeBytes high low
  have eight : (8 : UInt16).toNat % 16 = 8 := rfl
  show [((high.toUInt16 <<< 8 ||| low.toUInt16) >>> 8).toUInt8,
    (high.toUInt16 <<< 8 ||| low.toUInt16).toUInt8] = [high, low]
  have front : ((high.toUInt16 <<< 8 ||| low.toUInt16) >>> 8).toUInt8 = high := by
    apply UInt8.toNat_inj.mp
    rw [UInt16.toNat_toUInt8, UInt16.toNat_shiftRight, joined, eight, Nat.shiftRight_eq_div_pow]
    omega
  have back : (high.toUInt16 <<< 8 ||| low.toUInt16).toUInt8 = low := by
    apply UInt8.toNat_inj.mp
    rw [UInt16.toNat_toUInt8, joined]
    omega
  rw [front, back]

/-- The host of a fixed width and the port behind it. -/
theorem bytes_of_readFixed {width : Nat} {toText : Octets width → String}
    {address : String × UInt16}
    (taken : (do
      let ip ← readExact width
      let portBuf ← readExact 2
      return (toText ip, u16FromBeBytes portBuf) : Reader (String × UInt16)) input =
        .ok (address, rest)) :
    ∃ octets : Octets width,
      input = octets.val ++ (u16ToBeBytes address.2).val ++ rest ∧ toText octets = address.1 := by
  obtain ⟨ip, middle, read, taken⟩ := parts_of_bind taken
  obtain ⟨portBuf, last, portRead, given⟩ := parts_of_bind taken
  obtain ⟨rfl, rfl⟩ := Prod.mk.inj (Except.ok.inj given)
  refine ⟨ip, ?_, rfl⟩
  rw [shape_of_readExact read, shape_of_readExact portRead, val_of_u16FromBeBytes,
    List.append_assoc]

theorem host_of_domainText {domain : Bytes} {host : String}
    (taken : domainText domain input = .ok (host, rest)) : utf8 host = domain ∧ rest = input := by
  unfold domainText at taken
  cases decoded : fromUtf8 domain with
  | none =>
      rw [decoded] at taken
      cases taken
  | some text =>
      rw [decoded] at taken
      obtain ⟨rfl, rfl⟩ := Prod.mk.inj (Except.ok.inj taken)
      exact ⟨fromUtf8_eq_some_iff.mp decoded, rfl⟩

theorem destination_of_readAddress {addrType : UInt8} {address : String × UInt16}
    (taken : readAddress text addrType input = .ok (address, rest)) :
    ∃ destination : Destination, addrType = destination.addrType ∧
      input = destination.bytes ++ (u16ToBeBytes address.2).val ++ rest ∧
      destination.host text = address.1 := by
  unfold readAddress at taken
  split at taken
  · rename_i typed
    obtain ⟨octets, shape, named⟩ := bytes_of_readFixed taken
    exact ⟨.ipv4 octets, typed, shape, named⟩
  split at taken
  · rename_i typed
    obtain ⟨len, behindLen, measured, taken⟩ := parts_of_bind taken
    obtain ⟨domain, behindDomain, read, taken⟩ := parts_of_bind taken
    obtain ⟨portBuf, behindPort, portRead, taken⟩ := parts_of_bind taken
    obtain ⟨host, last, decoded, given⟩ := parts_of_bind taken
    obtain ⟨rfl, rfl⟩ := Prod.mk.inj (Except.ok.inj given)
    obtain ⟨bytes, rfl⟩ := host_of_domainText decoded
    have width : (utf8 host).length = (len.byte 0).toNat := bytes ▸ domain.length_val
    have byte := (len.byte 0).toNat_lt
    refine ⟨.domain host (by omega), typed, ?_, rfl⟩
    have same : UInt8.ofNat (utf8 host).length = len.byte 0 := by rw [width, UInt8.ofNat_toNat]
    have first : len.get 0 = len.byte 0 := (len.byte_eq_get 0).symm
    rw [cons_of_readExact measured, first, shape_of_readExact read, shape_of_readExact portRead,
      val_of_u16FromBeBytes, Destination.bytes, same, bytes, List.append_assoc]
    rfl
  split at taken
  · rename_i typed
    obtain ⟨octets, shape, named⟩ := bytes_of_readFixed taken
    exact ⟨.ipv6 octets, typed, shape, named⟩
  · cases taken

/-- A request is accepted exactly when it names a destination, and is read as what it
names. -/
theorem readRequest_ok_iff {request : Request} :
    readRequest text input = .ok (request, rest) ↔
      ∃ version reserved, ∃ destination : Destination,
        input = requestBytes version request.cmd reserved destination request.port ++ rest ∧
          destination.host text = request.host := by
  constructor
  · intro taken
    obtain ⟨req, middle, fields, taken⟩ := parts_of_bind taken
    obtain ⟨address, last, read, given⟩ := parts_of_bind taken
    obtain ⟨rfl, rfl⟩ := Prod.mk.inj (Except.ok.inj given)
    obtain ⟨destination, typed, shape, named⟩ := destination_of_readAddress read
    obtain ⟨bytes, four⟩ := req
    obtain ⟨version, cmd, reserved, addrType, rfl⟩ := List.length_eq_four.mp four
    change addrType = _ at typed
    refine ⟨version, reserved, destination, ?_, named⟩
    rw [shape_of_readExact fields, shape, typed]
    simp only [requestBytes, List.append_assoc]
    rfl
  · rintro ⟨version, reserved, destination, rfl, named⟩
    rw [(frames_readRequest version request.cmd reserved destination request.port).whole, named]

/-- The bytes of a handshake in front of some others. -/
structure Opening (text : AddrText) (request : Request) where
  version : UInt8
  methods : Bytes
  fits : methods.length ≤ 255
  requestVersion : UInt8
  reserved : UInt8
  destination : Destination
  names : destination.host text = request.host

/-- What an application sends for it. -/
def Opening.bytes {request : Request} (opening : Opening text request) : Bytes :=
  greetingBytes opening.version opening.methods ++
    requestBytes opening.requestVersion request.cmd opening.reserved opening.destination
      request.port

theorem handshake_of_opening {request : Request} (opening : Opening text request) (rest : Bytes) :
    handshake text (opening.bytes ++ rest) = (methodReply, .ok (request, rest)) := by
  have frames : Frames (readRequest text) _ _ :=
    frames_readRequest opening.requestVersion request.cmd opening.reserved opening.destination
      request.port
  have request := frames.whole rest
  rw [opening.names] at request
  rw [handshake, Opening.bytes, List.append_assoc,
    (frames_readGreeting opening.version opening.methods opening.fits).whole]
  exact congrArg (Prod.mk methodReply) request

theorem opening_of_handshake {request : Request} {written : Bytes}
    (accepted : handshake text input = (written, .ok (request, rest))) :
    written = methodReply ∧ ∃ opening : Opening text request, input = opening.bytes ++ rest := by
  unfold handshake at accepted
  cases greeted : readGreeting input with
  | error reason =>
      rw [greeted] at accepted
      cases (Prod.mk.inj accepted).2
  | ok taken =>
      rw [greeted] at accepted
      obtain ⟨rfl, asked⟩ := Prod.mk.inj accepted
      obtain ⟨version, methods, fits, greeting⟩ := greetingBytes_of_readGreeting greeted
      obtain ⟨requestVersion, reserved, destination, shape, names⟩ := readRequest_ok_iff.mp asked
      refine ⟨rfl, ⟨version, methods, fits, requestVersion, reserved, destination, names⟩, ?_⟩
      rw [greeting, shape, Opening.bytes, List.append_assoc]

/-- The handshake takes exactly a greeting and a request off the stream, whatever follows
them; cut short anywhere, it fails. -/
theorem handshake_exact (text : AddrText) (input rest written : Bytes) (request : Request) :
    (handshake text input = (written, .ok (request, rest)) ↔
      written = methodReply ∧ ∃ opening : Opening text request, input = opening.bytes ++ rest) ∧
    ∀ (opening : Opening text request) (front : Bytes), front <+: opening.bytes →
      front ≠ opening.bytes → ∃ reason, (handshake text front).2 = .error reason := by
  refine ⟨⟨opening_of_handshake, ?_⟩, ?_⟩
  · rintro ⟨rfl, opening, rfl⟩
    exact handshake_of_opening opening rest
  · intro opening front before strict
    unfold handshake
    rcases prefix_append_cases before with ⟨within, notAll⟩ | ⟨later, inner, rfl⟩
    · obtain ⟨reason, failed⟩ :=
        (frames_readGreeting opening.version opening.methods opening.fits).short front within notAll
      exact ⟨reason, by rw [failed]⟩
    · rw [(frames_readGreeting opening.version opening.methods opening.fits).whole]
      exact (frames_readRequest opening.requestVersion request.cmd opening.reserved
        opening.destination request.port).short later inner fun same => strict (by rw [same]; rfl)

/-- What was accepted stays accepted when more arrives. -/
theorem handshake_append {request : Request} {written : Bytes}
    (accepted : handshake text input = (written, .ok (request, rest))) (more : Bytes) :
    handshake text (input ++ more) = (written, .ok (request, rest ++ more)) := by
  obtain ⟨rfl, opening, rfl⟩ := opening_of_handshake accepted
  rw [List.append_assoc]
  exact handshake_of_opening opening (rest ++ more)

/-- The host of a request fits in one byte. -/
theorem Opening.named {request : Request} (opening : Opening text request) :
    (∃ address, request.host = text.ip address) ∨ (utf8 request.host).length ≤ 255 := by
  obtain ⟨_, _, _, _, _, destination, names⟩ := opening
  cases destination with
  | ipv4 octets => exact .inl ⟨.v4 octets, names.symm⟩
  | domain host fits => exact .inr (names ▸ fits)
  | ipv6 octets => exact .inl ⟨.v6 octets, names.symm⟩

end Accepted

end Juicity.Client.Socks5Connect
