import Juicity.Common.ShareLink

/-!
Owns the grammar of `host:port` texts, and what `parse_host_port` of
`common/src/link.rs` accepts.

Contract: the parser accepts its grammar and, behind a bracket, a port with a
sign; a text without one is read exactly as the grammar says.
-/

namespace Juicity.Common

open Juicity.Machine

/-- ASCII digits whose value is a port. -/
structure IsPort (digits : List Char) (port : UInt16) : Prop where
  nonempty : digits ≠ []
  decimal : ∀ digit ∈ digits, isDigitOf 10 digit = true
  value : numeral 10 digits = port.toNat

theorem IsPort.notMem {digits : List Char} {port : UInt16} (number : IsPort digits port)
    {char : Char} (noDigit : isDigitOf 10 char = false) : char ∉ digits := by
  intro member
  rw [number.decimal char member] at noDigit
  cases noDigit

theorem isPort_toDigits (port : UInt16) : IsPort (Nat.toDigits 10 port.toNat) port where
  nonempty := Nat.toDigits_ne_nil
  decimal := isDigitOf_of_mem_toDigits (by omega) (by omega) _
  value := numeral_toDigits (by omega) (by omega) _

theorem isPort_iff {digits : List Char} {port : UInt16} :
    (if digits ≠ [] ∧ digits.all (isDigitOf 10) ∧ numeral 10 digits ≤ 65535 then
      some (UInt16.ofNat (numeral 10 digits)) else none) = some port ↔ IsPort digits port := by
  constructor
  · intro parsed
    split at parsed
    case isTrue plain =>
      obtain ⟨nonempty, decimal, small⟩ := plain
      cases parsed
      refine ⟨nonempty, List.all_eq_true.mp decimal, ?_⟩
      rw [UInt16.toNat_ofNat']
      omega
    case isFalse => cases parsed
  · intro number
    have bound := port.toNat_lt
    have small : numeral 10 digits ≤ 65535 := by
      rw [number.value]
      omega
    rw [if_pos ⟨number.nonempty, List.all_eq_true.mpr number.decimal, small⟩, number.value,
      UInt16.ofNat_toNat]

/-- The parser of the library reads a sign too. -/
theorem parseU16_eq_some_iff {text : List Char} {port : UInt16} :
    parseU16 text = some port ↔
      IsPort text port ∨ ∃ digits, text = '+' :: digits ∧ IsPort digits port := by
  unfold parseU16
  by_cases sign : text.head? = some '+'
  · obtain ⟨digits, rfl⟩ := List.head?_eq_some_iff.mp sign
    rw [if_pos sign, List.tail_cons]
    rw [isPort_iff]
    constructor
    · exact fun number => .inr ⟨digits, rfl, number⟩
    · rintro (number | ⟨_, same, number⟩)
      · exact absurd List.mem_cons_self (number.notMem (by decide))
      · cases same
        exact number
  · rw [if_neg sign, isPort_iff]
    constructor
    · exact .inl
    · rintro (number | ⟨digits, rfl, _⟩)
      · exact number
      · exact absurd rfl sign

namespace Link

/-! ## The grammar -/

/-- The texts with a host and a port, the host in brackets or the text without one in front. -/
inductive HostPort (addr host : String) (port : UInt16) : Prop
  | plain (digits : List Char) (noBracket : addr.toList.head? ≠ some '[')
      (shape : addr.toList = host.toList ++ ':' :: digits) (number : IsPort digits port)
  | bracketed (digits : List Char)
      (shape : addr.toList = '[' :: (host.toList ++ ']' :: ':' :: digits))
      (free : ']' ∉ host.toList) (number : IsPort digits port)

/-- The port behind the bracket has a sign. -/
structure SignedPort (addr host : String) (port : UInt16) (digits : List Char) : Prop where
  shape : addr.toList = '[' :: (host.toList ++ ']' :: ':' :: '+' :: digits)
  free : ']' ∉ host.toList
  number : IsPort digits port

def Signed (addr : String) : Prop := ∃ host port digits, SignedPort addr host port digits

/-- A sign is in no text of the grammar. -/
theorem SignedPort.not_hostPort {addr host other : String} {port number : UInt16}
    {digits : List Char} (signed : SignedPort addr host port digits) :
    ¬HostPort addr other number := by
  rintro (⟨_, noBracket, _, _⟩ | ⟨decimals, shape, free, decimal⟩)
  · rw [signed.shape] at noBracket
    exact noBracket rfl
  · rw [signed.shape] at shape
    have same := congrArg (cut ']') (List.cons.inj shape).2
    rw [cut_append signed.free, cut_append free] at same
    cases congrArg Prod.snd same
    exact decimal.notMem (by decide) List.mem_cons_self

/-! ## The parser -/

theorem portOf_eq_ok_iff {addr : String} {text front : List Char} {host : String}
    {port : UInt16} :
    (portOf addr text >>= fun port => pure (String.ofList front, port)) = .ok (host, port) ↔
      front = host.toList ∧ parseU16 text = some port := by
  unfold portOf
  cases parseU16 text with
  | none =>
      constructor
      · intro refused
        cases refused
      · rintro ⟨_, impossible⟩
        cases impossible
  | some number =>
      constructor
      · intro accepted
        cases accepted
        exact ⟨String.toList_ofList.symm, rfl⟩
      · rintro ⟨rfl, same⟩
        cases same
        rw [String.ofList_toList]
        rfl

/-- Behind a bracket the host ends at the first closing bracket. -/
theorem parseHostPort_bracket {addr : String} {rest : List Char}
    (bracket : addr.toList = '[' :: rest) {host : String} {port : UInt16} :
    parseHostPort addr = .ok (host, port) ↔
      ∃ text, rest = host.toList ++ ']' :: ':' :: text ∧ ']' ∉ host.toList ∧
        parseU16 text = some port := by
  unfold parseHostPort
  rw [bracket, List.head?_cons, if_pos rfl, List.tail_cons]
  constructor
  · intro accepted
    split at accepted
    case h_1 front text found =>
      obtain ⟨rfl, parsed⟩ := portOf_eq_ok_iff.mp accepted
      obtain ⟨shape, free⟩ := cut_eq_some found
      exact ⟨text, shape, free, parsed⟩
    case h_2 => cases accepted
  · rintro ⟨text, rfl, free, parsed⟩
    rw [cut_append free]
    exact portOf_eq_ok_iff.mpr ⟨rfl, parsed⟩

/-- Other texts are cut at the last colon, and their port has digits only. -/
theorem parseHostPort_bare {addr : String} (noBracket : addr.toList.head? ≠ some '[')
    {host : String} {port : UInt16} :
    parseHostPort addr = .ok (host, port) ↔
      ∃ digits, addr.toList = host.toList ++ ':' :: digits ∧ IsPort digits port := by
  unfold parseHostPort
  rw [if_neg noBracket]
  constructor
  · intro accepted
    cases found : Machine.Url.cutLast ':' addr.toList with
    | none =>
        rw [found] at accepted
        cases accepted
    | some parts =>
        obtain ⟨front, digits⟩ := parts
        rw [found] at accepted
        dsimp only at accepted
        split at accepted
        case isTrue => cases accepted
        case isFalse plain =>
          rw [not_or, not_not] at plain
          obtain ⟨rfl, parsed⟩ := portOf_eq_ok_iff.mp accepted
          obtain ⟨shape, _⟩ := Machine.Url.cutLast_eq_some found
          refine ⟨digits, shape, ?_⟩
          rcases parseU16_eq_some_iff.mp parsed with number | ⟨_, rfl, _⟩
          · exact number
          · cases plain.2
  · rintro ⟨digits, shape, number⟩
    have plain : ¬(digits = [] ∨ ¬digits.all (isDigitOf 10) = true) := by
      rw [not_or, not_not]
      exact ⟨number.nonempty, List.all_eq_true.mpr number.decimal⟩
    rw [shape, Machine.Url.cutLast_append host.toList (number.notMem (by decide))]
    dsimp only
    rw [if_neg plain]
    exact portOf_eq_ok_iff.mpr ⟨rfl, parseU16_eq_some_iff.mpr (.inl number)⟩

/-- What is accepted is in the grammar or has a sign behind the bracket. -/
theorem parseHostPort_eq_ok_iff {addr host : String} {port : UInt16} :
    parseHostPort addr = .ok (host, port) ↔
      HostPort addr host port ∨ ∃ digits, SignedPort addr host port digits := by
  by_cases bracket : addr.toList.head? = some '['
  · obtain ⟨rest, opened⟩ := List.head?_eq_some_iff.mp bracket
    rw [parseHostPort_bracket opened]
    constructor
    · rintro ⟨text, rfl, free, parsed⟩
      rcases parseU16_eq_some_iff.mp parsed with number | ⟨digits, rfl, number⟩
      · exact .inl (.bracketed text opened free number)
      · exact .inr ⟨digits, opened, free, number⟩
    · rintro ((⟨_, noBracket, _, _⟩ | ⟨digits, shape, free, number⟩) | ⟨digits, signed⟩)
      · exact absurd bracket noBracket
      · refine ⟨digits, ?_, free, parseU16_eq_some_iff.mpr (.inl number)⟩
        exact (List.cons.inj (opened.symm.trans shape)).2
      · refine ⟨'+' :: digits, ?_, signed.free,
          parseU16_eq_some_iff.mpr (.inr ⟨digits, rfl, signed.number⟩)⟩
        exact (List.cons.inj (opened.symm.trans signed.shape)).2
  · rw [parseHostPort_bare bracket]
    constructor
    · rintro ⟨digits, shape, number⟩
      exact .inl (.plain digits bracket shape number)
    · rintro ((⟨digits, _, shape, number⟩ | ⟨_, shape, _, _⟩) | ⟨_, signed⟩)
      · exact ⟨digits, shape, number⟩
      · rw [shape] at bracket
        exact absurd rfl bracket
      · rw [signed.shape] at bracket
        exact absurd rfl bracket

/-- The parser accepts exactly its grammar where no port behind a bracket has a sign. -/
theorem parseHostPort_iff_unsigned (addr : String) :
    (∀ host port, parseHostPort addr = .ok (host, port) ↔ HostPort addr host port) ↔
      ¬Signed addr := by
  constructor
  · rintro exact ⟨host, port, digits, signed⟩
    have accepted := parseHostPort_eq_ok_iff.mpr (.inr ⟨digits, signed⟩)
    exact signed.not_hostPort ((exact host port).mp accepted)
  · intro unsigned host port
    rw [parseHostPort_eq_ok_iff]
    exact or_iff_left fun ⟨digits, signed⟩ => unsigned ⟨host, port, digits, signed⟩

/-- A sign behind the bracket is accepted. -/
theorem signed_port_accepted :
    parseHostPort "[::1]:+443" = .ok ("::1", 443) ∧ ¬HostPort "[::1]:+443" "::1" 443 := by
  have number : IsPort "443".toList 443 :=
    { nonempty := by decide
      decimal := List.all_eq_true.mp (by decide)
      value := by decide }
  have signed : SignedPort "[::1]:+443" "::1" 443 "443".toList :=
    { shape := by decide, free := by decide, number }
  exact ⟨parseHostPort_eq_ok_iff.mpr (.inr ⟨_, signed⟩), signed.not_hostPort⟩

end Link

end Juicity.Common
