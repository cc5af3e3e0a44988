import Juicity.Common.IpText
import Juicity.Common.Text
import Juicity.Machine.Url

/-!
Owns `str::parse::<SocketAddr>` and the resolution of a `host:port` text in the
standard library, with the name service as a parameter. The scope of an IPv6
address is checked and dropped.

An address that is read stops at the first character that is not of an address,
so the host in front of a port is read as if it stood alone.
-/

namespace Juicity.Common.IpText

open Juicity.Machine

/-! ## The parser -/

/-- `Parser::read_number` in base ten without a digit limit. -/
def readUnlimited (max : Nat) (input : List Char) : Option (Nat × List Char) :=
  let digits := input.takeWhile (isDigitOf 10)
  if digits ≠ [] ∧ numeral 10 digits ≤ max then
    some (numeral 10 digits, input.dropWhile (isDigitOf 10))
  else none

def readPort : List Char → Option (UInt16 × List Char)
  | ':' :: rest => (readUnlimited 65535 rest).map fun read => (UInt16.ofNat read.1, read.2)
  | _ => none

/-- `read_scope_id().unwrap_or(0)`: a scope that cannot be read is left in place. -/
def skipScopeId : List Char → List Char
  | '%' :: rest =>
      match readUnlimited 4294967295 rest with
      | some (_, after) => after
      | none => '%' :: rest
  | input => input

def readIpv6Addr (input : List Char) : Option (Octets 16 × List Char) :=
  match readIpv6Groups input with
  | some (groups, rest) =>
      if length : (groupBytes groups).length = 16 then some (⟨groupBytes groups, length⟩, rest)
      else none
  | none => none

def readSocketAddrV4 (input : List Char) : Option (SocketAddr × List Char) := do
  let (octets, rest) ← readIpv4Addr input
  let (port, rest) ← readPort rest
  return (⟨.v4 octets, port⟩, rest)

/-- The part of a bracketed address from its closing bracket on. -/
def readClosed (octets : Octets 16) : List Char → Option (SocketAddr × List Char)
  | ']' :: rest => (readPort rest).map fun read => (⟨.v6 octets, read.1⟩, read.2)
  | _ => none

def readSocketAddrV6 : List Char → Option (SocketAddr × List Char)
  | '[' :: input => do
      let (octets, rest) ← readIpv6Addr input
      readClosed octets (skipScopeId rest)
  | _ => none

/-- `SocketAddr::from_str`, which wants the whole text. -/
def parseSocketAddr (text : String) : Option SocketAddr :=
  match (readSocketAddrV4 text.toList).or (readSocketAddrV6 text.toList) with
  | some (addr, []) => some addr
  | _ => none

/-- `ToSocketAddrs` of `str`: an address as it stands, or the host in front of the last
colon looked up. -/
def toSocketAddrs (lookup : String → List IpAddr) (text : String) : List SocketAddr :=
  match parseSocketAddr text with
  | some addr => [addr]
  | none =>
      match Machine.Url.cutLast ':' text.toList with
      | some (host, portText) =>
          match parseU16 portText with
          | some port => (lookup (String.ofList host)).map fun ip => ⟨ip, port⟩
          | none => []
      | none => []

/-! ## Reading in front of other characters -/

/-- Reading does not see the text `rest` behind its input. -/
def LocalTo {α : Type} (rest : List Char) (read : List Char → Option (α × List Char)) : Prop :=
  ∀ input, read (input ++ rest) = (read input).map fun taken => (taken.1, taken.2 ++ rest)

section LocalTo

variable {rest : List Char} {base : Nat}

theorem takeWhile_append_stops (stops : Stops base rest) (input : List Char) :
    (input ++ rest).takeWhile (isDigitOf base) = input.takeWhile (isDigitOf base) ∧
      (input ++ rest).dropWhile (isDigitOf base) =
        input.dropWhile (isDigitOf base) ++ rest := by
  induction input with
  | nil => exact takeWhile_of_stops stops
  | cons char input inductionHypothesis =>
      cases digit : isDigitOf base char with
      | true =>
          simp only [List.cons_append, List.takeWhile_cons, List.dropWhile_cons, digit, if_true]
          exact ⟨congrArg _ inductionHypothesis.1, inductionHypothesis.2⟩
      | false =>
          have notDigit : ¬ isDigitOf base char = true := by rw [digit]; exact Bool.false_ne_true
          simp only [List.cons_append, List.takeWhile_cons_of_neg notDigit,
            List.dropWhile_cons_of_neg notDigit, and_self]

theorem localTo_readNumber (stops : Stops base rest) (maxDigits : Nat) (allowZeroPrefix : Bool)
    (max : Nat) : LocalTo rest (readNumber base maxDigits allowZeroPrefix max) := by
  intro input
  obtain ⟨taken, left⟩ := takeWhile_append_stops stops input
  simp only [readNumber, taken, left]
  split
  · rfl
  · split
    · rfl
    · split
      · rfl
      · rfl

theorem localTo_readSeparator {α : Type} {separator : Char} {first : Bool}
    {inner : List Char → Option (α × List Char)} (apart : rest.head? ≠ some separator)
    (local_ : LocalTo rest inner) : LocalTo rest (readSeparator separator first inner) := by
  intro input
  cases first with
  | true => exact local_ input
  | false =>
      cases input with
      | nil =>
          cases rest with
          | nil => rfl
          | cons char more =>
              show (if char = separator then inner more else none) = none
              exact if_neg fun same => apart (by rw [same]; rfl)
      | cons char input =>
          show (if char = separator then inner (input ++ rest) else none) =
            Option.map _ (if char = separator then inner input else none)
          split
          · exact local_ input
          · rfl

theorem localTo_bind {α β : Type} {read : List Char → Option (α × List Char)}
    {next : α → List Char → Option (β × List Char)} (first : LocalTo rest read)
    (later : ∀ value, LocalTo rest (next value)) :
    LocalTo rest fun input => (read input).bind fun taken => next taken.1 taken.2 := by
  intro input
  dsimp only
  rw [first input]
  cases read input with
  | none => rfl
  | some taken => exact later taken.1 taken.2

theorem localTo_some {α : Type} (value : α) : LocalTo rest fun input => some (value, input) :=
  fun _ => rfl

theorem localTo_readIpv4Addr (stops : Stops 10 rest) (noDot : rest.head? ≠ some '.') :
    LocalTo rest readIpv4Addr := by
  have octet : ∀ first, LocalTo rest (readOctet first) := fun first =>
    localTo_readSeparator noDot (localTo_readNumber stops 3 false 255)
  have whole : LocalTo rest fun input => (readOctet true input).bind fun first =>
      (readOctet false first.2).bind fun second => (readOctet false second.2).bind fun third =>
        (readOctet false third.2).bind fun fourth =>
          some ((⟨[UInt8.ofNat first.1, UInt8.ofNat second.1, UInt8.ofNat third.1,
            UInt8.ofNat fourth.1], rfl⟩ : Octets 4), fourth.2) :=
    localTo_bind (octet true) fun first => localTo_bind (octet false) fun second =>
      localTo_bind (octet false) fun third => localTo_bind (octet false) fun fourth =>
        localTo_some (⟨[UInt8.ofNat first, UInt8.ofNat second, UInt8.ofNat third,
          UInt8.ofNat fourth], rfl⟩ : Octets 4)
  exact whole

/-- What can follow a number or a group without being read with it. -/
def Foreign (rest : List Char) : Prop := ∀ char ∈ rest.head?, isAddressChar char = false

theorem Foreign.stops (foreign : Foreign rest) : Stops 16 rest := by
  intro char front
  have outside := foreign char front
  rw [isAddressChar, Bool.or_eq_false_iff, Bool.or_eq_false_iff] at outside
  exact outside.1.1

theorem Foreign.stopsDecimal (foreign : Foreign rest) : Stops 10 rest := by
  intro char front
  cases digit : isDigitOf 10 char with
  | false => rfl
  | true =>
      have hexadecimal := isDigitOf_sixteen_of_ten digit
      rw [foreign.stops char front] at hexadecimal
      cases hexadecimal

theorem Foreign.head_ne (foreign : Foreign rest) {char : Char}
    (address : isAddressChar char = true) : rest.head? ≠ some char := by
  intro front
  rw [foreign char front] at address
  cases address

theorem localTo_readGroups (foreign : Foreign rest) (room : Nat) :
    ∀ first input, readGroups first room (input ++ rest) =
      ((readGroups first room input).1, (readGroups first room input).2.1,
        (readGroups first room input).2.2 ++ rest) := by
  have address : ∀ first, LocalTo rest (readSeparator ':' first readIpv4Addr) := fun _ =>
    localTo_readSeparator (foreign.head_ne (by decide))
      (localTo_readIpv4Addr foreign.stopsDecimal (foreign.head_ne (by decide)))
  have hextet : ∀ first, LocalTo rest (readHextet first) := fun _ =>
    localTo_readSeparator (foreign.head_ne (by decide))
      (localTo_readNumber foreign.stops 4 true 65535)
  induction room with
  | zero => exact fun _ _ => rfl
  | succ room inductionHypothesis =>
      intro first input
      have embeds :
          (if 0 < room then readSeparator ':' first readIpv4Addr (input ++ rest) else none) =
          (if 0 < room then readSeparator ':' first readIpv4Addr input else none).map
            fun taken => (taken.1, taken.2 ++ rest) := by
        split
        · exact address first input
        · rfl
      simp only [readGroups, embeds, hextet first input]
      cases (if 0 < room then readSeparator ':' first readIpv4Addr input else none) with
      | some taken => rfl
      | none =>
          cases readHextet first input with
          | none => rfl
          | some taken =>
              simp only [Option.map_none, Option.map_some, inductionHypothesis false taken.2]

theorem colons_of_append {left more : List Char} (noColon : rest.head? ≠ some ':')
    (shape : left ++ rest = ':' :: ':' :: more) : ∃ more, left = ':' :: ':' :: more := by
  cases left with
  | nil => exact absurd (congrArg List.head? shape) noColon
  | cons first left =>
      obtain ⟨rfl, later⟩ := List.cons.inj shape
      cases left with
      | nil => exact absurd (congrArg List.head? later) noColon
      | cons second left =>
          obtain ⟨rfl, _⟩ := List.cons.inj later
          exact ⟨left, rfl⟩

theorem localTo_readIpv6Groups (foreign : Foreign rest) : LocalTo rest readIpv6Groups := by
  intro input
  simp only [readIpv6Groups, localTo_readGroups foreign]
  split
  · rfl
  · split
    · rfl
    · generalize (readGroups true 8 input).2.2 = left
      have noColon : rest.head? ≠ some ':' := foreign.head_ne (by decide)
      by_cases compressed : ∃ more, left = ':' :: ':' :: more
      · obtain ⟨more, rfl⟩ := compressed
        simp only [List.cons_append, localTo_readGroups foreign, Option.map_some]
      · split
        · rename_i more shape
          exact absurd (colons_of_append noColon shape) compressed
        · split
          · exact absurd ⟨_, rfl⟩ compressed
          · rfl

theorem localTo_readIpv6Addr (foreign : Foreign rest) : LocalTo rest readIpv6Addr := by
  intro input
  rw [readIpv6Addr, localTo_readIpv6Groups foreign, readIpv6Addr]
  cases readIpv6Groups input with
  | none => rfl
  | some taken =>
      simp only [Option.map_some]
      split
      · rfl
      · rfl

end LocalTo

/-! ## Hosts that make a socket address -/

/-- A text that starts like an IPv4 address is not one of an IPv6 address. -/
theorem readIpv6Groups_of_ipv4 {input rest : List Char} {octets : Octets 4}
    (taken : readIpv4Addr input = some (octets, rest)) : readIpv6Groups input = none := by
  have groups : readGroups true 8 input = (embedded octets, true, rest) := by
    have first : readSeparator ':' true readIpv4Addr input = some (octets, rest) := taken
    simp only [readGroups, first, if_pos (Nat.succ_pos 6)]
  have short : (embedded octets).length ≠ 8 := by
    show 2 ≠ 8
    decide
  simp only [readIpv6Groups, groups, if_neg short, if_true]

theorem parseIp_v6_iff {host : String} {octets : Octets 16} :
    parseIp host = some (.v6 octets) ↔ readIpv6Addr host.toList = some (octets, []) := by
  unfold parseIp readIpv6Addr
  cases address : readIpv4Addr host.toList with
  | some taken =>
      rw [readIpv6Groups_of_ipv4 address]
      obtain ⟨octets, _ | ⟨char, rest⟩⟩ := taken
      · simp
      · simp
  | none =>
      cases readIpv6Groups host.toList with
      | none => simp
      | some taken =>
          obtain ⟨groups, rest⟩ := taken
          by_cases length : (groupBytes groups).length = 16
          · cases rest with
            | nil =>
                simp only [dif_pos length]
                constructor
                · intro same
                  rw [IpAddr.v6.inj (Option.some.inj same)]
                · intro same
                  rw [(Prod.mk.inj (Option.some.inj same)).1]
            | cons char rest =>
                simp only [dif_pos length]
                constructor
                · intro impossible
                  cases impossible
                · intro impossible
                  cases (Prod.mk.inj (Option.some.inj impossible)).2
          · cases rest with
            | nil => simp [length]
            | cons char rest => simp [length]

theorem parseIp_v4_iff {host : String} {octets : Octets 4} :
    parseIp host = some (.v4 octets) ↔ readIpv4Addr host.toList = some (octets, []) := by
  refine ⟨parseIp_eq_v4, fun taken => ?_⟩
  unfold parseIp
  rw [taken]

/-- No scope, or a percent sign and a number of 32 bits. -/
def ScopeText (scope : List Char) : Prop :=
  scope = [] ∨ ∃ digits, scope = '%' :: digits ∧ digits ≠ [] ∧
    (∀ digit ∈ digits, isDigitOf 10 digit = true) ∧ numeral 10 digits ≤ 4294967295

/-- The hosts that make a socket address with a port behind them: an IPv4 address, or an
IPv6 address in brackets. -/
inductive SocketHost : String → IpAddr → Prop where
  | v4 {host : String} {octets : Octets 4} (parsed : parseIp host = some (.v4 octets)) :
      SocketHost host (.v4 octets)
  | v6 {address : String} {scope : List Char} {octets : Octets 16}
      (parsed : parseIp address = some (.v6 octets)) (valid : ScopeText scope) :
      SocketHost (String.ofList ('[' :: (address.toList ++ (scope ++ [']'])))) (.v6 octets)

/-- The text `host:port`. -/
def hostPort (host : String) (port : UInt16) : String :=
  String.ofList (host.toList ++ ':' :: Nat.toDigits 10 port.toNat)

section Digits

variable {max : Nat} {digits rest : List Char}

theorem readUnlimited_digits (nonempty : digits ≠ [])
    (decimal : ∀ digit ∈ digits, isDigitOf 10 digit = true) (small : numeral 10 digits ≤ max)
    (stops : Stops 10 rest) :
    readUnlimited max (digits ++ rest) = some (numeral 10 digits, rest) := by
  obtain ⟨taken, left⟩ := takeWhile_append_stops stops digits
  have all : digits.takeWhile (isDigitOf 10) = digits := List.takeWhile_eq_self_iff.mpr decimal
  have none : digits.dropWhile (isDigitOf 10) = [] := List.dropWhile_eq_nil_iff.mpr decimal
  rw [readUnlimited, taken, left, all, none]
  exact if_pos ⟨nonempty, small⟩

theorem digits_of_readUnlimited {input : List Char} {number : Nat}
    (taken : readUnlimited max input = some (number, rest)) :
    ∃ digits, input = digits ++ rest ∧ digits ≠ [] ∧
      (∀ digit ∈ digits, isDigitOf 10 digit = true) ∧ numeral 10 digits ≤ max := by
  unfold readUnlimited at taken
  dsimp only at taken
  split at taken
  · rename_i fine
    obtain ⟨_, rfl⟩ := Prod.mk.inj (Option.some.inj taken)
    exact ⟨_, List.takeWhile_append_dropWhile.symm, fine.1,
      fun digit member => List.mem_takeWhile_imp member, fine.2⟩
  · cases taken

theorem toDigits_decimal (port : UInt16) :
    ∀ digit ∈ Nat.toDigits 10 port.toNat, isDigitOf 10 digit = true :=
  isDigitOf_of_mem_toDigits (by decide) (by decide) port.toNat

theorem colon_notMem_of_digits (decimal : ∀ digit ∈ digits, isDigitOf 10 digit = true) :
    ':' ∉ digits := by
  intro colon
  have digit := decimal ':' colon
  cases digit

theorem readPort_toDigits (port : UInt16) :
    readPort (':' :: Nat.toDigits 10 port.toNat) = some (port, []) := by
  have small : numeral 10 (Nat.toDigits 10 port.toNat) ≤ 65535 := by
    rw [numeral_toDigits (by decide) (by decide)]
    exact Nat.le_of_lt_succ port.toNat_lt
  have read := readUnlimited_digits Nat.toDigits_ne_nil (toDigits_decimal port) small stops_nil
  rw [List.append_nil, numeral_toDigits (by decide) (by decide)] at read
  rw [readPort, read, Option.map_some, UInt16.ofNat_toNat]

theorem digits_of_readPort {input : List Char} {port : UInt16}
    (taken : readPort input = some (port, [])) :
    ∃ digits, input = ':' :: digits ∧ ':' ∉ digits := by
  unfold readPort at taken
  split at taken
  · obtain ⟨read, number, same⟩ := Option.map_eq_some_iff.mp taken
    obtain ⟨number, left⟩ := read
    obtain ⟨_, rfl⟩ := Prod.mk.inj same
    obtain ⟨digits, rfl, _, decimal, _⟩ := digits_of_readUnlimited number
    exact ⟨_, rfl, by rw [List.append_nil]; exact colon_notMem_of_digits decimal⟩
  · cases taken

end Digits

section SocketHost

variable {host : String} {port : UInt16}

theorem toList_hostPort (host : String) (port : UInt16) :
    (hostPort host port).toList = host.toList ++ ':' :: Nat.toDigits 10 port.toNat :=
  String.toList_ofList

/-- The port stands behind the last colon. -/
theorem eq_of_hostPort {front back : List Char} (free : ':' ∉ back)
    (shape : host.toList ++ ':' :: Nat.toDigits 10 port.toNat = front ++ ':' :: back) :
    front = host.toList ∧ back = Nat.toDigits 10 port.toNat := by
  have left := Machine.Url.cutLast_append host.toList
    (colon_notMem_of_digits (toDigits_decimal port))
  rw [shape, Machine.Url.cutLast_append front free] at left
  exact Prod.mk.inj (Option.some.inj left)

theorem readIpv4Addr_hostPort (rest input : List Char) :
    readIpv4Addr (input ++ ':' :: rest) =
      (readIpv4Addr input).map fun taken => (taken.1, taken.2 ++ ':' :: rest) :=
  localTo_readIpv4Addr (stops_colon rest) (fun dot => by cases dot) input

theorem skipScopeId_scope {scope rest : List Char} (valid : ScopeText scope)
    (bracket : rest.head? = some ']') : skipScopeId (scope ++ rest) = rest := by
  obtain ⟨more, rfl⟩ := List.head?_eq_some_iff.mp bracket
  rcases valid with rfl | ⟨digits, rfl, nonempty, decimal, small⟩
  · rfl
  · have read := readUnlimited_digits nonempty decimal small
      (stops_cons (by decide) : Stops 10 (']' :: more))
    show (match readUnlimited 4294967295 (digits ++ ']' :: more) with
      | some (_, after) => after
      | none => '%' :: (digits ++ ']' :: more)) = ']' :: more
    rw [read]

/-- A scope is skipped, or nothing is. -/
theorem scope_of_skipScopeId (input : List Char) :
    ∃ scope, input = scope ++ skipScopeId input ∧ ScopeText scope := by
  unfold skipScopeId
  split
  · rename_i rest
    split
    · rename_i number after read
      obtain ⟨digits, rfl, nonempty, decimal, small⟩ := digits_of_readUnlimited read
      exact ⟨'%' :: digits, rfl, .inr ⟨digits, rfl, nonempty, decimal, small⟩⟩
    · exact ⟨[], rfl, .inl rfl⟩
  · exact ⟨[], rfl, .inl rfl⟩

/-- What stands behind an IPv6 address up to the port. -/
theorem foreign_scope {scope : List Char} (valid : ScopeText scope) (rest : List Char) :
    Foreign (scope ++ ']' :: rest) := by
  intro char front
  rcases valid with rfl | ⟨digits, rfl, _⟩
  · rw [← Option.some.inj front]
    decide
  · rw [← Option.some.inj front]
    decide

/-- Such a host with a port is read as its address with the port. -/
theorem SocketHost.parseSocketAddr {ip : IpAddr} (socket : SocketHost host ip) :
    parseSocketAddr (hostPort host port) = some ⟨ip, port⟩ := by
  unfold IpText.parseSocketAddr
  rw [toList_hostPort]
  cases socket with
  | @v4 _ octets parsed =>
      have read : readSocketAddrV4 (host.toList ++ ':' :: Nat.toDigits 10 port.toNat) =
          some (⟨.v4 octets, port⟩, []) := by
        simp only [readSocketAddrV4, readIpv4Addr_hostPort, parseIp_v4_iff.mp parsed,
          Option.map_some, List.nil_append, Option.bind_eq_bind, Option.bind_some,
          readPort_toDigits]
        rfl
      rw [read]
      rfl
  | @v6 address scope octets parsed valid =>
      have notV4 : ∀ rest, readSocketAddrV4 ('[' :: rest) = none := by
        intro rest
        have none := readIpv4Addr_of_stops (stops_cons (by decide) : Stops 10 ('[' :: rest))
        simp only [readSocketAddrV4, none, Option.bind_eq_bind, Option.bind_none]
      have inner : readIpv6Addr (address.toList ++
          (scope ++ ']' :: ':' :: Nat.toDigits 10 port.toNat)) =
            some (octets, scope ++ ']' :: ':' :: Nat.toDigits 10 port.toNat) := by
        rw [localTo_readIpv6Addr (foreign_scope valid _), parseIp_v6_iff.mp parsed]
        rfl
      have shape : (String.ofList ('[' :: (address.toList ++ (scope ++ [']'])))).toList ++
          ':' :: Nat.toDigits 10 port.toNat =
            '[' :: (address.toList ++ (scope ++ ']' :: ':' :: Nat.toDigits 10 port.toNat)) := by
        simp [String.toList_ofList]
      rw [shape, notV4, Option.none_or]
      simp only [readSocketAddrV6, inner, Option.bind_eq_bind, Option.bind_some,
        skipScopeId_scope valid (rfl : (']' :: _ : List Char).head? = some ']'), readClosed,
        readPort_toDigits, Option.map_some]

/-- An address is read of what stands in front of the rest. -/
theorem front_of_readIpv6Addr {input rest : List Char} {octets : Octets 16}
    (address : readIpv6Addr input = some (octets, rest)) : ∃ front, input = front ++ rest := by
  unfold readIpv6Addr at address
  split at address
  · rename_i groups behind taken
    split at address
    · obtain ⟨_, rfl⟩ := Prod.mk.inj (Option.some.inj address)
      obtain ⟨front, shape, _⟩ := reads_of_readIpv6Groups taken
      exact ⟨front, shape⟩
    · cases address
  · cases address

/-- A bracketed address with a port. -/
theorem socketHost_of_readSocketAddrV6 {addr : SocketAddr}
    (taken : readSocketAddrV6 (host.toList ++ ':' :: Nat.toDigits 10 port.toNat) =
      some (addr, [])) : SocketHost host addr.ip := by
  unfold readSocketAddrV6 at taken
  split at taken
  · rename_i input bracketed
    simp only [Option.bind_eq_bind, Option.bind_eq_some_iff] at taken
    obtain ⟨⟨octets, rest⟩, address, closed⟩ := taken
    obtain ⟨scope, scopedRest, valid⟩ := scope_of_skipScopeId rest
    dsimp only at closed
    unfold readClosed at closed
    split at closed
    · rename_i behind bracket
      obtain ⟨⟨number, left⟩, portRead, same⟩ := Option.map_eq_some_iff.mp closed
      obtain ⟨rfl, rfl⟩ := Prod.mk.inj same
      obtain ⟨digits, rfl, free⟩ := digits_of_readPort portRead
      rw [bracket] at scopedRest
      subst scopedRest
      -- the address was read of what stands in front of the scope
      obtain ⟨front, rfl⟩ := front_of_readIpv6Addr address
      rw [localTo_readIpv6Addr (foreign_scope valid _)] at address
      obtain ⟨⟨octets', unread⟩, read, same⟩ := Option.map_eq_some_iff.mp address
      obtain ⟨rfl, nothing⟩ := Prod.mk.inj same
      obtain rfl : unread = [] := List.append_left_eq_self.mp nothing
      have whole : host.toList ++ ':' :: Nat.toDigits 10 port.toNat =
          ('[' :: (front ++ (scope ++ [']']))) ++ ':' :: digits := by
        rw [bracketed]
        simp
      obtain ⟨same, _⟩ := eq_of_hostPort free whole
      have socket : SocketHost (String.ofList ('[' :: ((String.ofList front).toList ++
          (scope ++ [']'])))) (.v6 octets') :=
        .v6 (parseIp_v6_iff.mpr (by rw [String.toList_ofList]; exact read)) valid
      rw [String.toList_ofList, same, String.ofList_toList] at socket
      exact socket
    · cases closed
  · cases taken

/-- A socket address with a port is read of such hosts only. -/
theorem socketHost_of_parseSocketAddr {addr : SocketAddr}
    (parsed : parseSocketAddr (hostPort host port) = some addr) : SocketHost host addr.ip := by
  unfold IpText.parseSocketAddr at parsed
  rw [toList_hostPort] at parsed
  split at parsed
  · rename_i addr' taken
    obtain rfl := Option.some.inj parsed
    rcases Option.or_eq_some_iff.mp taken with first | ⟨_, second⟩
    · simp only [readSocketAddrV4, Option.bind_eq_bind, Option.bind_eq_some_iff] at first
      obtain ⟨⟨octets, rest⟩, address, ⟨number, left⟩, portRead, last⟩ := first
      obtain ⟨rfl, rfl⟩ := Prod.mk.inj (Option.some.inj last)
      obtain ⟨digits, rfl, free⟩ := digits_of_readPort portRead
      obtain ⟨taken, shape, _⟩ := colon_of_readIpv4Addr address
      obtain ⟨_, rfl⟩ := eq_of_hostPort free shape
      rw [readIpv4Addr_hostPort] at address
      obtain ⟨⟨octets', unread⟩, read, same⟩ := Option.map_eq_some_iff.mp address
      obtain ⟨rfl, nothing⟩ := Prod.mk.inj same
      obtain rfl : unread = [] := List.append_left_eq_self.mp nothing
      exact .v4 (parseIp_v4_iff.mpr read)
    · exact socketHost_of_readSocketAddrV6 second
  · cases parsed

/-- The addresses a `host:port` text stands for: its own, or those of the host in front of
the port. -/
theorem toSocketAddrs_hostPort (lookup : String → List IpAddr) (host : String) (port : UInt16) :
    (∃ ip, SocketHost host ip ∧ toSocketAddrs lookup (hostPort host port) = [⟨ip, port⟩]) ∨
      parseSocketAddr (hostPort host port) = none ∧
        toSocketAddrs lookup (hostPort host port) = (lookup host).map fun ip => ⟨ip, port⟩ := by
  unfold toSocketAddrs
  cases parsed : IpText.parseSocketAddr (hostPort host port) with
  | some addr =>
      have socket := socketHost_of_parseSocketAddr parsed
      have whole : addr = ⟨addr.ip, port⟩ :=
        Option.some.inj (parsed.symm.trans socket.parseSocketAddr)
      exact .inl ⟨addr.ip, socket, congrArg (fun addr => [addr]) whole⟩
  | none =>
      right
      rw [toList_hostPort, Machine.Url.cutLast_append _
        (colon_notMem_of_digits (toDigits_decimal port))]
      simp only [parseU16_toDigits, String.ofList_toList, and_self]

end SocketHost

end Juicity.Common.IpText
