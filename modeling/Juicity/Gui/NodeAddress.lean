import Juicity.Client.ServerAddr
import Juicity.Gui.Controller.Settings

/-!
Contract: the splitters of `host:port` texts agree. What the editor stores as host
and port is written as one text, which the settings split again and the client
dials; and the listen address a setting is normalised to is split, written and
validated without change.
-/

namespace Juicity.Gui

open Juicity.Common Juicity.Machine Juicity.Client

/-- The hosts of nodes: IP addresses without a zone, and names. -/
inductive NodeHost (host : String) : Prop where
  | ipv4 {octets : Octets 4} (parsed : IpText.parseIp host = some (.v4 octets))
  | ipv6 {octets : Octets 16} (parsed : IpText.parseIp host = some (.v6 octets))
  | name (nonempty : host ≠ "") (plain : ∀ char ∈ [':', '[', ']'], char ∉ host.toList)

/-! ## One text and two -/

theorem append_port (host : String) (port : UInt16) :
    host ++ ":" ++ toString port.toNat = IpText.hostPort host port := by
  have digits : (toString port.toNat).toList = Nat.toDigits 10 port.toNat := String.toList_ofList
  rw [← String.toList_inj, IpText.toList_hostPort, String.toList_append, String.toList_append,
    digits]
  exact List.append_assoc _ _ _

theorem formatHostPort_plain {host : String} (noColon : ':' ∉ host.toList) (port : UInt16) :
    formatHostPort host port = IpText.hostPort host port := by
  rw [formatHostPort, containsColon, if_neg (by simpa using noColon), append_port]

/-- The host of a node with its brackets. -/
def bracketed (host : String) : String := String.ofList ('[' :: (host.toList ++ [']']))

theorem toList_bracketed (host : String) :
    (bracketed host).toList = '[' :: (host.toList ++ [']']) :=
  String.toList_ofList

theorem formatHostPort_colon {host : String} (colon : ':' ∈ host.toList) (port : UInt16) :
    formatHostPort host port = IpText.hostPort (bracketed host) port := by
  rw [formatHostPort, containsColon, if_pos (by simpa using colon), ← String.toList_inj,
    IpText.toList_hostPort, toList_bracketed]
  simp

theorem endOfBrackets_append {host : List Char} (free : ']' ∉ host) (port : List Char) :
    endOfBrackets (host ++ ']' :: ':' :: port) = some (host, port) := by
  induction host with
  | nil => rfl
  | cons char rest inductionHypothesis =>
      rw [List.mem_cons, not_or] at free
      rw [List.cons_append, endOfBrackets, inductionHypothesis free.2]
      exact fun _ same => absurd same.symm free.1

theorem splitHostPort_plain {host : String} (noBracket : '[' ∉ host.toList) (port : UInt16) :
    splitHostPort (IpText.hostPort host port) = some (host, port) := by
  have digits : ':' ∉ Nat.toDigits 10 port.toNat :=
    IpText.colon_notMem_of_digits (IpText.toDigits_decimal port)
  rw [splitHostPort, IpText.toList_hostPort, if_neg (head?_hostPort_ne noBracket port),
    Machine.Url.cutLast_append _ digits]
  simp only [parseU16_toDigits, Option.getD_some, String.ofList_toList]

theorem splitHostPort_bracketed {host : String} (free : ']' ∉ host.toList) (port : UInt16) :
    splitHostPort (IpText.hostPort (bracketed host) port) = some (host, port) := by
  have shape : (IpText.hostPort (bracketed host) port).toList =
      '[' :: (host.toList ++ ']' :: ':' :: Nat.toDigits 10 port.toNat) := by
    rw [IpText.toList_hostPort, toList_bracketed]
    simp
  rw [splitHostPort, shape, List.head?_cons, if_pos rfl, List.tail_cons, endOfBrackets_append free]
  simp only [parseU16_toDigits, Option.getD_some, String.ofList_toList]

theorem splitHostPort_formatHostPort {host : String} (node : NodeHost host) (port : UInt16) :
    splitHostPort (formatHostPort host port) = some (host, port) := by
  cases node with
  | @ipv4 octets parsed =>
      have noBracket : '[' ∉ host.toList := by
        intro member
        have address := IpText.isAddressChar_of_ipv4 parsed '[' member
        cases address
      rw [formatHostPort_plain (IpText.std_laws.ipv4_colon host octets parsed)]
      exact splitHostPort_plain noBracket port
  | @ipv6 octets parsed =>
      rw [formatHostPort_colon (IpText.std_laws.ipv6_colon host octets parsed)]
      exact splitHostPort_bracketed (IpText.closing_notMem parsed) port
  | name nonempty plain =>
      rw [formatHostPort_plain (plain ':' (by decide))]
      exact splitHostPort_plain (plain '[' (by decide)) port

theorem serverHostPort_formatHostPort {host : String} (node : NodeHost host) (port : UInt16) :
    serverHostPort (formatHostPort host port) = .ok (IpText.std.canonical host, port) := by
  cases node with
  | @ipv4 octets parsed =>
      have noColon := IpText.std_laws.ipv4_colon host octets parsed
      rw [formatHostPort_plain noColon, canonical_of_parseIp parsed]
      exact serverHostPort_socket (.v4 parsed) port
  | @ipv6 octets parsed =>
      have socket : IpText.SocketHost (bracketed host) (.v6 octets) := .v6 parsed (.inl rfl)
      rw [formatHostPort_colon (IpText.std_laws.ipv6_colon host octets parsed),
        canonical_of_parseIp parsed]
      exact serverHostPort_socket socket port
  | name nonempty plain =>
      rw [formatHostPort_plain (plain ':' (by decide))]
      exact serverHostPort_name nonempty (plain ':' (by decide)) (plain '[' (by decide)) port

/-! ## Listen addresses -/

theorem mem_splitOn_of_ne {text : List Char} {separator char : Char} (member : char ∈ text)
    (other : char ≠ separator) : ∃ piece ∈ text.splitOn separator, char ∈ piece := by
  induction text with
  | nil => cases member
  | cons first rest inductionHypothesis =>
      obtain ⟨front, back, pieces⟩ :=
        List.exists_cons_of_ne_nil (List.splitOn_ne_nil separator rest)
      rw [List.splitOn_cons_eq_if_modifyHead]
      rcases List.mem_cons.mp member with rfl | later
      · rw [if_neg (by simpa using other), pieces]
        exact ⟨_, List.mem_cons_self, List.mem_cons_self⟩
      · obtain ⟨piece, listed, inside⟩ := inductionHypothesis later
        split
        next => exact ⟨piece, List.mem_cons_of_mem _ listed, inside⟩
        next =>
          rw [pieces] at listed ⊢
          rcases List.mem_cons.mp listed with rfl | behind
          · exact ⟨_, List.mem_cons_self, List.mem_cons_of_mem _ inside⟩
          · exact ⟨piece, List.mem_cons_of_mem _ behind, inside⟩

/-- A host that is listened on has letters, digits, hyphens and dots only. -/
theorem code_of_validHost {host : List Char} (valid : validHost host = true) :
    ∀ char ∈ host, char = '-' ∨ char = '.' ∨ (48 ≤ char.toNat ∧ char.toNat ≤ 57) ∨
      (65 ≤ char.toNat ∧ char.toNat ≤ 90) ∨ (97 ≤ char.toNat ∧ char.toNat ≤ 122) := by
  intro char member
  unfold validHost at valid
  split at valid
  next numeric =>
    have plain := List.all_eq_true.mp numeric char member
    rw [Bool.or_eq_true, decide_eq_true_eq] at plain
    rcases plain with digit | dot
    · have code := code_of_isDigitOf_ten digit
      omega
    · exact .inr (.inl dot)
  next =>
    by_cases dot : char = '.'
    · exact .inr (.inl dot)
    · obtain ⟨label, listed, inside⟩ := mem_splitOn_of_ne member dot
      have plain := List.all_eq_true.mp valid label listed
      rw [Bool.and_eq_true] at plain
      have allowed := List.all_eq_true.mp plain.2 char inside
      rw [Bool.or_eq_true, decide_eq_true_eq] at allowed
      rcases allowed with letter | hyphen
      · change ((decide (char.val ≥ 'A'.val ∧ char.val ≤ 'Z'.val) ||
          (decide (char.val ≥ 'a'.val) && decide (char.val ≤ 'z'.val))) ||
          (decide (char.val ≥ '0'.val) && decide (char.val ≤ '9'.val))) = true at letter
        simp only [ge_iff_le, UInt32.le_iff_toNat_le, Bool.or_eq_true, Bool.and_eq_true,
          decide_eq_true_eq] at letter
        have code : char.toNat = char.val.toNat := rfl
        have bounds : 'A'.val.toNat = 65 ∧ 'Z'.val.toNat = 90 ∧ 'a'.val.toNat = 97 ∧
            'z'.val.toNat = 122 ∧ '0'.val.toNat = 48 ∧ '9'.val.toNat = 57 := by decide
        omega
      · exact .inl hyphen

/-- The hosts of listen addresses, as they stand in front of the port. -/
inductive ListenHost : String → Prop where
  | name {host : String} (valid : validHost host.toList = true) : ListenHost host
  | ipv6 {host : String} {octets : Octets 16}
      (parsed : IpText.parseIp host = some (.v6 octets)) : ListenHost (bracketed host)

theorem parseIp_of_parseIpv6 {host : String} {octets : Octets 16}
    (parsed : IpText.std.parseIpv6 host = some octets) :
    IpText.parseIp host = some (.v6 octets) := by
  unfold AddrText.parseIpv6 at parsed
  split at parsed
  next read =>
    rw [← Option.some.inj parsed]
    exact read
  next => cases parsed

theorem parseListen_eq_some {text listen : String} (accepted : parseListen text = some listen) :
    ∃ host port, ListenHost host ∧ 0 < port ∧ listen = IpText.hostPort host port := by
  unfold parseListen at accepted
  split at accepted
  next => cases accepted
  next =>
    obtain ⟨⟨host, digits⟩, halves, rest⟩ := Option.bind_eq_some_iff.mp accepted
    dsimp only at rest
    split at rest
    next =>
      obtain ⟨port, positive, rfl⟩ := Option.map_eq_some_iff.mp rest
      have lower := (Option.filter_eq_some_iff.mp positive).2
      rw [decide_eq_true_eq] at lower
      refine ⟨host, port, ?_, lower, append_port host port⟩
      unfold splitListen at halves
      split at halves
      next =>
        obtain ⟨⟨ip, tail⟩, _, found⟩ := Option.bind_eq_some_iff.mp halves
        obtain ⟨octets, parsed, same⟩ := Option.map_eq_some_iff.mp found
        obtain ⟨rfl, _⟩ := Prod.mk.inj same
        have shape : "[" ++ String.ofList ip ++ "]" = bracketed (String.ofList ip) := by
          rw [← String.toList_inj, toList_bracketed]
          simp
        rw [shape]
        exact .ipv6 (parseIp_of_parseIpv6 parsed)
      next =>
        obtain ⟨⟨front, tail⟩, _, found⟩ := Option.bind_eq_some_iff.mp halves
        dsimp only at found
        split at found
        next valid =>
          obtain ⟨rfl, _⟩ := Prod.mk.inj (Option.some.inj found)
          exact .name (by rw [String.toList_ofList]; exact valid)
        next => cases found
    next => cases rest

theorem notMem_of_validHost {host : List Char} (valid : validHost host = true) {char : Char}
    (outside : char ∈ [':', '[']) : char ∉ host := by
  intro member
  have code := code_of_validHost valid char member
  rcases List.mem_cons.mp outside with rfl | last
  · simp at code
  · rw [List.mem_singleton.mp last] at code
    simp at code

section ListenHost

variable {host : String} {port : UInt16}

theorem isWhitespace_digit {base : Nat} {char : Char} (digit : isDigitOf base char = true) :
    isWhitespace char = false := by
  have code := code_of_isDigitOf digit
  simp only [isWhitespace, decide_eq_false_iff_not]
  omega

theorem isWhitespace_addressChar {char : Char} (address : IpText.isAddressChar char = true) :
    isWhitespace char = false := by
  simp only [IpText.isAddressChar, Bool.or_eq_true, decide_eq_true_eq] at address
  rcases address with (digit | rfl) | rfl
  · exact isWhitespace_digit digit
  · decide
  · decide

theorem ListenHost.plain (listen : ListenHost host) :
    ∀ char ∈ host.toList, isWhitespace char = false := by
  intro char member
  cases listen with
  | name valid =>
      rcases code_of_validHost valid char member with rfl | rfl | code
      · decide
      · decide
      · simp only [isWhitespace, decide_eq_false_iff_not]
        omega
  | @ipv6 host octets parsed =>
      rw [toList_bracketed] at member
      rcases List.mem_cons.mp member with rfl | later
      · decide
      · rcases List.mem_append.mp later with inside | last
        · exact isWhitespace_addressChar (IpText.isAddressChar_of_ipv6 parsed char inside)
        · rw [List.mem_singleton.mp last]
          decide

theorem plain_hostPort (listen : ListenHost host) (port : UInt16) :
    ∀ char ∈ (IpText.hostPort host port).toList, isWhitespace char = false := by
  intro char member
  rw [IpText.toList_hostPort] at member
  rcases List.mem_append.mp member with inHost | inPort
  · exact listen.plain char inHost
  · rcases List.mem_cons.mp inPort with rfl | digit
    · decide
    · exact isWhitespace_digit (IpText.toDigits_decimal port char digit)

theorem splitListen_hostPort (listen : ListenHost host) (port : UInt16) :
    splitListen (IpText.hostPort host port).toList =
      some (host, Nat.toDigits 10 port.toNat) := by
  cases listen with
  | name valid =>
      have digits : ':' ∉ Nat.toDigits 10 port.toNat :=
        IpText.colon_notMem_of_digits (IpText.toDigits_decimal port)
      have first := head?_hostPort_ne (notMem_of_validHost valid (by decide)) port
      rw [IpText.toList_hostPort]
      unfold splitListen
      split
      next shape => exact absurd (congrArg List.head? shape) first
      next =>
        rw [Machine.Url.cutLast_append _ digits, Option.bind_some]
        dsimp only
        rw [if_pos valid, String.ofList_toList]
  | @ipv6 address octets parsed =>
      have shape : (IpText.hostPort (bracketed address) port).toList =
          '[' :: (address.toList ++ ']' :: ':' :: Nat.toDigits 10 port.toNat) := by
        rw [IpText.toList_hostPort, toList_bracketed]
        simp
      have read : IpText.std.parseIpv6 address = some octets := by
        have parsed : IpText.std.parseIp address = some (.v6 octets) := parsed
        rw [AddrText.parseIpv6, parsed]
      have brackets : "[" ++ address ++ "]" = bracketed address := by
        rw [← String.toList_inj, toList_bracketed]
        simp
      rw [shape, splitListen, endOfBrackets_append (IpText.closing_notMem parsed),
        Option.bind_some]
      dsimp only
      rw [String.ofList_toList, read, Option.map_some, brackets]

/-- A normalised listen address is normalised to itself. -/
theorem parseListen_hostPort (listen : ListenHost host) (positive : 0 < port) :
    parseListen (IpText.hostPort host port) = some (IpText.hostPort host port) := by
  have plain : ¬(IpText.hostPort host port).toList.any isWhitespace = true := by
    rw [Bool.not_eq_true, List.any_eq_false]
    intro char member
    rw [plain_hostPort listen port char member]
    exact Bool.false_ne_true
  have digits : Nat.toDigits 10 port.toNat ≠ [] ∧
      (Nat.toDigits 10 port.toNat).all (isDigitOf 10) = true :=
    ⟨Nat.toDigits_ne_nil, List.all_eq_true.mpr (IpText.toDigits_decimal port)⟩
  have kept : (some port).filter (fun number => decide (number > 0)) = some port :=
    if_pos (decide_eq_true positive)
  rw [parseListen, if_neg plain, splitListen_hostPort listen, Option.bind_some]
  dsimp only
  rw [if_pos digits, parseU16_toDigits, kept, Option.map_some, append_port]

/-- A listen address is split and written without change. -/
theorem formatHostPort_splitHostPort (listen : ListenHost host) (port : UInt16) :
    (splitHostPort (IpText.hostPort host port)).map (fun split => formatHostPort split.1 split.2) =
      some (IpText.hostPort host port) := by
  cases listen with
  | name valid =>
      rw [splitHostPort_plain (notMem_of_validHost valid (by decide)), Option.map_some,
        formatHostPort_plain (notMem_of_validHost valid (by decide))]
  | @ipv6 address octets parsed =>
      rw [splitHostPort_bracketed (IpText.closing_notMem parsed), Option.map_some,
        formatHostPort_colon (IpText.std_laws.ipv6_colon address octets parsed)]

end ListenHost

/-- A node's host and port survive from the editor to the dialer, with an IP address in its
canonical text, and a listen address that was accepted stays as it was normalised. -/
theorem nodeAddress_survives :
    (∀ host port sni, NodeHost host →
      splitHostPort (formatHostPort host port) = some (host, port) ∧
        parseServer (formatHostPort host port) sni =
          .ok (IpText.std.canonical host, port,
            if sni = "" then IpText.std.canonical host else sni) ∧
        IpText.parseIp (IpText.std.canonical host) = IpText.parseIp host ∧
        (IpText.parseIp host = none → IpText.std.canonical host = host)) ∧
      ∀ url text listen, validate url .pacListen text = .ok listen →
        (splitHostPort listen).map (fun split => formatHostPort split.1 split.2) = some listen ∧
          validate url .pacListen listen = .ok listen := by
  constructor
  · intro host port sni node
    refine ⟨splitHostPort_formatHostPort node port, ?_, parseIp_canonical host, fun unparsed => ?_⟩
    · rw [parseServer, serverHostPort_formatHostPort node]
      show Except.ok _ = _
      by_cases empty : sni = ""
      · rw [empty]
        rfl
      · have filled : sni.isEmpty = false := by simpa using empty
        rw [filled, if_neg empty]
        rfl
    · have read : IpText.std.parseIp host = none := unparsed
      rw [AddrText.canonical, read]
  · intro url text listen accepted
    have parsed : parseListen (trim text) = some listen := by
      unfold validate at accepted
      dsimp only at accepted
      split at accepted
      next normal found =>
        rw [found, Except.ok.inj accepted]
      next => cases accepted
    obtain ⟨host, port, hosted, positive, rfl⟩ := parseListen_eq_some parsed
    refine ⟨formatHostPort_splitHostPort hosted port, ?_⟩
    have trimmed : trim (IpText.hostPort host port) = IpText.hostPort host port := by
      have plain := trim_plain (plain_hostPort hosted port)
      rw [String.ofList_toList] at plain
      exact plain
    unfold validate
    dsimp only
    rw [trimmed, parseListen_hostPort hosted positive]

/-- A loopback address with an extra group, and a listen address with spaces and a zero. -/
theorem nodeAddress_survives_loopback :
    splitHostPort (formatHostPort "0::1" 443) = some ("0::1", 443) ∧
      parseServer (formatHostPort "0::1" 443) "" = .ok ("::1", 443, "::1") ∧
      validate UrlCrate.std .pacListen " [::1]:01090 " = .ok "[::1]:1090" ∧
      validate UrlCrate.std .pacListen "[::1]:1090" = .ok "[::1]:1090" := by
  have loopback : NodeHost "0::1" := by
    have read : (IpText.std.parseIpv6 "0::1").isSome = true := by decide +kernel
    obtain ⟨octets, parsed⟩ := Option.isSome_iff_exists.mp read
    exact .ipv6 (parseIp_of_parseIpv6 parsed)
  have accepted : validate UrlCrate.std .pacListen " [::1]:01090 " = .ok "[::1]:1090" := by
    decide +kernel
  obtain ⟨split, dialed, _⟩ := nodeAddress_survives.1 "0::1" 443 "" loopback
  have canonical : IpText.std.canonical "0::1" = "::1" := by decide +kernel
  rw [if_pos rfl, canonical] at dialed
  exact ⟨split, dialed, accepted, (nodeAddress_survives.2 _ _ _ accepted).2⟩

end Juicity.Gui
