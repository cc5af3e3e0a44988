import Juicity.Common.AddressCodec
import Juicity.Machine.Numeral

/-!
Owns the text forms of IP addresses in the standard library: the parser of
`core::net` with its groups, its `::` and its embedded IPv4 part, and `Display`
with the compression of the longest run of zero groups. They satisfy the laws
the protocol relies on, so an `AddrText` of this kind exists.
-/

namespace Juicity.Common.IpText

open Juicity.Machine

/-! ## The parser -/

/-- `Parser::read_number` with a digit limit. -/
def readNumber (base maxDigits : Nat) (allowZeroPrefix : Bool) (max : Nat) (input : List Char) :
    Option (Nat × List Char) :=
  let digits := input.takeWhile (isDigitOf base)
  if digits = [] ∨ maxDigits < digits.length then none
  else if allowZeroPrefix = false ∧ digits.head? = some '0' ∧ 1 < digits.length then none
  else if numeral base digits ≤ max then
    some (numeral base digits, input.dropWhile (isDigitOf base))
  else none

/-- `Parser::read_separator`: the separator stands in front of all but the first. -/
def readSeparator {α : Type} (separator : Char) (first : Bool)
    (inner : List Char → Option (α × List Char)) (input : List Char) :
    Option (α × List Char) :=
  if first then inner input
  else
    match input with
    | char :: rest => if char = separator then inner rest else none
    | [] => none

theorem readSeparator_next {α : Type} (separator : Char)
    (inner : List Char → Option (α × List Char)) (rest : List Char) :
    readSeparator separator false inner (separator :: rest) = inner rest := by
  show (if separator = separator then inner rest else none) = _
  exact if_pos rfl

/-- Octal numbers are disallowed in IP text. -/
def readOctet (first : Bool) (input : List Char) : Option (Nat × List Char) :=
  readSeparator '.' first (readNumber 10 3 false 255) input

def readIpv4Addr (input : List Char) : Option (Octets 4 × List Char) := do
  let (first, input) ← readOctet true input
  let (second, input) ← readOctet false input
  let (third, input) ← readOctet false input
  let (fourth, input) ← readOctet false input
  return (⟨[UInt8.ofNat first, UInt8.ofNat second, UInt8.ofNat third, UInt8.ofNat fourth], rfl⟩,
    input)

/-- The two groups of an embedded IPv4 address. -/
def embedded (octets : Octets 4) : List Nat :=
  [(octets.get 0).toNat * 256 + (octets.get 1).toNat,
    (octets.get 2).toNat * 256 + (octets.get 3).toNat]

def readHextet (first : Bool) (input : List Char) : Option (Nat × List Char) :=
  readSeparator ':' first (readNumber 16 4 true 65535) input

/-- `read_groups` with room for `room` more groups: the groups, whether the last
two are an IPv4 address, and the rest. -/
def readGroups (first : Bool) : Nat → List Char → List Nat × Bool × List Char
  | 0, input => ([], false, input)
  | room + 1, input =>
      match if 0 < room then readSeparator ':' first readIpv4Addr input else none with
      | some (octets, rest) => (embedded octets, true, rest)
      | none =>
          match readHextet first input with
          | some (group, rest) =>
              let later := readGroups false room rest
              (group :: later.1, later.2)
          | none => ([], false, input)

def readIpv6Groups (input : List Char) : Option (List Nat × List Char) :=
  let (head, headIpv4, rest) := readGroups true 8 input
  if head.length = 8 then some (head, rest)
  else if headIpv4 then none
  else
    match rest with
    | ':' :: ':' :: rest =>
        let (tail, _, rest) := readGroups true (8 - (head.length + 1)) rest
        some (head ++ List.replicate (8 - tail.length - head.length) 0 ++ tail, rest)
    | _ => none

def groupBytes (groups : List Nat) : Bytes :=
  groups.flatMap fun group => [UInt8.ofNat (group / 256), UInt8.ofNat (group % 256)]

/-- `IpAddr::from_str`, which wants the whole text. -/
def parseIp (host : String) : Option IpAddr :=
  match readIpv4Addr host.toList with
  | some (octets, []) => some (.v4 octets)
  | some (_, _ :: _) => none
  | none =>
      match readIpv6Groups host.toList with
      | some (groups, []) =>
          if length : (groupBytes groups).length = 16 then some (.v6 ⟨groupBytes groups, length⟩)
          else none
      | _ => none

/-! ## Display -/

def decimal (octet : UInt8) : List Char := Nat.toDigits 10 octet.toNat

def ipv4Chars (octets : Octets 4) : List Char :=
  decimal (octets.get 0) ++ '.' :: (decimal (octets.get 1) ++
    '.' :: (decimal (octets.get 2) ++ '.' :: decimal (octets.get 3)))

/-- `Ipv6Addr::segments`. -/
def segments : Bytes → List Nat
  | high :: low :: rest => (high.toNat * 256 + low.toNat) :: segments rest
  | _ => []

structure Span where
  start : Nat
  len : Nat

/-- One segment of the search for the longest run of zeros. -/
def Span.advance (spans : Span × Span) (segment : Nat × Nat) : Span × Span :=
  if segment.1 = 0 then
    let start := if spans.2.len = 0 then segment.2 else spans.2.start
    let current : Span := ⟨start, spans.2.len + 1⟩
    if spans.1.len < current.len then (current, current) else (spans.1, current)
  else
    (spans.1, ⟨0, 0⟩)

/-- The first longest run of zero segments. -/
def zeroes (segments : List Nat) : Span :=
  (segments.zipIdx.foldl Span.advance (⟨0, 0⟩, ⟨0, 0⟩)).1

def separated (groups : List Nat) : List Char :=
  groups.flatMap fun group => ':' :: Nat.toDigits 16 group

/-- `fmt_subslice`. -/
def subslice : List Nat → List Char
  | [] => []
  | group :: groups => Nat.toDigits 16 group ++ separated groups

def ipv6Chars (octets : Octets 16) : List Char :=
  let groups := segments octets.val
  if groups.take 6 = [0, 0, 0, 0, 0, 65535] then
    "::ffff:".toList ++ ipv4Chars octets.lastFour
  else
    let zeroes := zeroes groups
    if 1 < zeroes.len then
      subslice (groups.take zeroes.start) ++ ':' :: ':' ::
        subslice (groups.drop (zeroes.start + zeroes.len))
    else
      subslice groups

/-! ## Numbers -/

/-- A numeral of at most `maxDigits` digits is read back. -/
theorem readNumber_toDigits {base maxDigits max number : Nat} {allowZeroPrefix : Bool}
    {rest : List Char} (twoOrMore : 1 < base) (hexadecimal : base ≤ 16) (small : number ≤ max)
    (short : (Nat.toDigits base number).length ≤ maxDigits)
    (noZero : allowZeroPrefix = false → (Nat.toDigits base number).head? = some '0' →
      (Nat.toDigits base number).length ≤ 1) (stops : Stops base rest) :
    readNumber base maxDigits allowZeroPrefix max (Nat.toDigits base number ++ rest) =
      some (number, rest) := by
  obtain ⟨digits, left⟩ := takeWhile_append_of_stops
    (isDigitOf_of_mem_toDigits twoOrMore hexadecimal number) stops
  have nonempty : Nat.toDigits base number ≠ [] := Nat.toDigits_ne_nil
  unfold readNumber
  simp only [digits, left, numeral_toDigits twoOrMore hexadecimal]
  rw [if_neg (by simp only [nonempty, false_or]; omega),
    if_neg (fun zero => absurd (noZero zero.1 zero.2.1) (by omega)), if_pos small]

theorem rest_of_readNumber {base maxDigits max number : Nat} {allowZeroPrefix : Bool}
    {input rest : List Char}
    (taken : readNumber base maxDigits allowZeroPrefix max input = some (number, rest)) :
    rest = input.dropWhile (isDigitOf base) := by
  unfold readNumber at taken
  simp only at taken
  split at taken
  · cases taken
  · split at taken
    · cases taken
    · split at taken
      · exact (Prod.mk.inj (Option.some.inj taken)).2.symm
      · cases taken

/-- A number is read from digits only. -/
theorem digits_of_readNumber {base maxDigits max number : Nat} {allowZeroPrefix : Bool}
    {input rest : List Char}
    (taken : readNumber base maxDigits allowZeroPrefix max input = some (number, rest)) :
    ∃ digits, input = digits ++ rest ∧ ∀ char ∈ digits, isDigitOf base char = true := by
  rw [rest_of_readNumber taken]
  exact ⟨_, List.takeWhile_append_dropWhile.symm, fun char member =>
    List.mem_takeWhile_imp member⟩

theorem stops_cons {base : Nat} {char : Char} {rest : List Char}
    (notDigit : isDigitOf base char = false) : Stops base (char :: rest) := by
  intro other front
  rw [← Option.some.inj front]
  exact notDigit

theorem stops_nil {base : Nat} : Stops base [] := fun _ front => nomatch front

theorem readNumber_decimal (octet : UInt8) {rest : List Char} (stops : Stops 10 rest) :
    readNumber 10 3 false 255 (decimal octet ++ rest) = some (octet.toNat, rest) := by
  have small : octet.toNat ≤ 255 := by
    have bound := octet.toNat_lt
    omega
  refine readNumber_toDigits (by omega) (by omega) small ?_ ?_ stops
  · exact (Nat.length_toDigits_le_iff (by omega) (by omega)).mpr (by omega)
  · have canonical : ∀ number : Fin 256, (Nat.toDigits 10 number).head? = some '0' →
        (Nat.toDigits 10 number).length ≤ 1 := by
      decide +kernel
    exact fun _ => canonical ⟨octet.toNat, by omega⟩

theorem readNumber_hextet {group : Nat} (small : group ≤ 65535) {rest : List Char}
    (stops : Stops 16 rest) :
    readNumber 16 4 true 65535 (Nat.toDigits 16 group ++ rest) = some (group, rest) := by
  have short : (Nat.toDigits 16 group).length ≤ 4 :=
    (Nat.length_toDigits_le_iff (by omega) (by omega)).mpr (by omega)
  exact readNumber_toDigits (by omega) (by omega) small short (fun impossible => nomatch impossible)
    stops

/-! ## IPv4 -/

theorem isDigitOf_dot : isDigitOf 10 '.' = false := by decide

theorem readOctet_first (octet : UInt8) {rest : List Char} (stops : Stops 10 rest) :
    readOctet true (decimal octet ++ rest) = some (octet.toNat, rest) :=
  readNumber_decimal octet stops

theorem readOctet_next (octet : UInt8) {rest : List Char} (stops : Stops 10 rest) :
    readOctet false ('.' :: (decimal octet ++ rest)) = some (octet.toNat, rest) :=
  (readSeparator_next '.' _ _).trans (readNumber_decimal octet stops)

theorem readIpv4Addr_chars (octets : Octets 4) {rest : List Char} (stops : Stops 10 rest) :
    readIpv4Addr (ipv4Chars octets ++ rest) = some (octets, rest) := by
  obtain ⟨bytes, length⟩ := octets
  match bytes, length with
  | [first, second, third, fourth], length =>
      have dot : ∀ tail, Stops 10 ('.' :: tail) := fun tail => stops_cons isDigitOf_dot
      show readIpv4Addr ((decimal first ++ '.' :: (decimal second ++
        '.' :: (decimal third ++ '.' :: decimal fourth))) ++ rest) = _
      simp only [List.append_assoc, List.cons_append]
      unfold readIpv4Addr
      rw [readOctet_first first (dot _)]
      simp only [Option.bind_eq_bind, Option.bind_some]
      rw [readOctet_next second (dot _)]
      simp only [Option.bind_some]
      rw [readOctet_next third (dot _)]
      simp only [Option.bind_some]
      rw [readOctet_next fourth stops]
      simp

theorem digits_of_readOctet {first : Bool} {number : Nat} {input rest : List Char}
    (taken : readOctet first input = some (number, rest)) :
    ∃ digits, input = digits ++ rest ∧ ':' ∉ digits := by
  have plain : ∀ {digits : List Char}, (∀ char ∈ digits, isDigitOf 10 char = true) →
      ':' ∉ digits := by
    intro digits every colon
    have digit := every ':' colon
    cases digit
  unfold readOctet readSeparator at taken
  split at taken
  · obtain ⟨digits, shape, every⟩ := digits_of_readNumber taken
    exact ⟨digits, shape, plain every⟩
  · split at taken
    · rename_i char tail
      split at taken
      · rename_i dot
        obtain ⟨digits, shape, every⟩ := digits_of_readNumber taken
        refine ⟨char :: digits, by rw [shape, List.cons_append], ?_⟩
        intro colon
        rcases List.mem_cons.mp colon with same | inside
        · rw [dot] at same
          cases same
        · exact plain every inside
      · cases taken
    · cases taken

/-- An IPv4 text has no colon. -/
theorem colon_of_readIpv4Addr {octets : Octets 4} {input rest : List Char}
    (taken : readIpv4Addr input = some (octets, rest)) :
    ∃ digits, input = digits ++ rest ∧ ':' ∉ digits := by
  unfold readIpv4Addr at taken
  simp only [Option.bind_eq_bind, Option.bind_eq_some_iff] at taken
  obtain ⟨⟨first, input1⟩, taken1, ⟨second, input2⟩, taken2, ⟨third, input3⟩, taken3,
    ⟨fourth, input4⟩, taken4, last⟩ := taken
  obtain ⟨-, rfl⟩ := Prod.mk.inj (Option.some.inj last)
  obtain ⟨digits1, rfl, plain1⟩ := digits_of_readOctet taken1
  obtain ⟨digits2, rfl, plain2⟩ := digits_of_readOctet taken2
  obtain ⟨digits3, rfl, plain3⟩ := digits_of_readOctet taken3
  obtain ⟨digits4, rfl, plain4⟩ := digits_of_readOctet taken4
  refine ⟨digits1 ++ (digits2 ++ (digits3 ++ digits4)), by simp only [List.append_assoc], ?_⟩
  simp only [List.mem_append, plain1, plain2, plain3, plain4, or_self, not_false_eq_true]

/-! ## Groups -/

/-- What follows a group. -/
def Follows (rest : List Char) : Prop := rest = [] ∨ ∃ more, rest = ':' :: more

/-- What ends a sequence of groups. -/
def Ends (rest : List Char) : Prop := rest = [] ∨ ∃ more, rest = ':' :: ':' :: more

theorem stops_colon {base : Nat} (rest : List Char) : Stops base (':' :: rest) := by
  apply stops_cons
  unfold isDigitOf digitValue
  simp

theorem Follows.stops {base : Nat} {rest : List Char} (follows : Follows rest) :
    Stops base rest := by
  rcases follows with rfl | ⟨more, rfl⟩
  · exact stops_nil
  · exact stops_colon more

theorem Follows.noDot {rest : List Char} (follows : Follows rest) : rest.head? ≠ some '.' := by
  rcases follows with rfl | ⟨more, rfl⟩ <;> simp

theorem Ends.follows {rest : List Char} (ends : Ends rest) : Follows rest := by
  rcases ends with rfl | ⟨more, rfl⟩
  · exact .inl rfl
  · exact .inr ⟨_, rfl⟩

theorem follows_separated {groups : List Nat} {rest : List Char} (ends : Ends rest) :
    Follows (separated groups ++ rest) := by
  cases groups with
  | nil => exact ends.follows
  | cons group groups => exact .inr ⟨_, rfl⟩

theorem readNumber_of_stops {base maxDigits max : Nat} {allowZeroPrefix : Bool}
    {rest : List Char} (stops : Stops base rest) :
    readNumber base maxDigits allowZeroPrefix max rest = none := by
  have digits := (takeWhile_of_stops stops).1
  unfold readNumber
  simp only [digits, true_or, if_true]

/-- A group in front of `rest` is no IPv4 address: no dot follows its digits. -/
theorem readIpv4Addr_of_group {group : Nat} {rest : List Char} (follows : Follows rest) :
    readIpv4Addr (Nat.toDigits 16 group ++ rest) = none := by
  have dropped : ∀ digits : List Char, '.' ∉ digits →
      ((digits ++ rest).dropWhile (isDigitOf 10)).head? ≠ some '.' := by
    intro digits plain
    induction digits with
    | nil =>
        rw [List.nil_append, (takeWhile_of_stops follows.stops).2]
        exact follows.noDot
    | cons char digits inductionHypothesis =>
        rw [List.mem_cons, not_or] at plain
        rw [List.cons_append, List.dropWhile_cons]
        split
        · exact inductionHypothesis plain.2
        · intro dot
          exact plain.1 (Option.some.inj dot).symm
  have plain : '.' ∉ Nat.toDigits 16 group := by
    intro dot
    have digit := isDigitOf_of_mem_toDigits (by omega) (by omega) group '.' dot
    cases digit
  have undotted := dropped _ plain
  unfold readIpv4Addr
  cases first : readOctet true (Nat.toDigits 16 group ++ rest) with
  | none => rfl
  | some taken =>
      obtain ⟨number, tail⟩ := taken
      rw [← rest_of_readNumber first] at undotted
      have second : readOctet false tail = none := by
        unfold readOctet readSeparator
        cases tail with
        | nil => rfl
        | cons char tail => exact if_neg fun dot => undotted (congrArg some dot)
      simp [second]

theorem readIpv4Addr_of_stops {rest : List Char} (stops : Stops 10 rest) :
    readIpv4Addr rest = none := by
  have first : readOctet true rest = none := readNumber_of_stops stops
  unfold readIpv4Addr
  rw [first]
  rfl

theorem readGroups_of_ends {first : Bool} {rest : List Char} (ends : Ends rest) (room : Nat) :
    readGroups first room rest = ([], false, rest) := by
  cases room with
  | zero => rfl
  | succ room =>
      have nothing : ∀ {α : Type} (inner : List Char → Option (α × List Char)),
          (∀ input, Follows input → inner input = none) →
            readSeparator ':' first inner rest = none := by
        intro α inner fails
        unfold readSeparator
        split
        · exact fails rest ends.follows
        · rcases ends with rfl | ⟨more, rfl⟩
          · rfl
          · show (if ':' = ':' then inner (':' :: more) else none) = none
            rw [if_pos rfl]
            exact fails _ (.inr ⟨more, rfl⟩)
      have address := nothing readIpv4Addr fun input follows => readIpv4Addr_of_stops follows.stops
      have group : readHextet first rest = none :=
        nothing _ fun input follows => readNumber_of_stops follows.stops
      unfold readGroups
      simp only [address, group, ite_self]

/-- One more group is read. -/
theorem readGroups_group {first : Bool} {group room : Nat} {input tail : List Char}
    (small : group ≤ 65535) (follows : Follows tail)
    (enters : ∀ {α : Type} (inner : List Char → Option (α × List Char)),
      readSeparator ':' first inner input = inner (Nat.toDigits 16 group ++ tail)) :
    readGroups first (room + 1) input =
      (group :: (readGroups false room tail).1, (readGroups false room tail).2) := by
  have address : readSeparator ':' first readIpv4Addr input = none :=
    (enters _).trans (readIpv4Addr_of_group follows)
  have hextet : readHextet first input = some (group, tail) :=
    (enters _).trans (readNumber_hextet small follows.stops)
  rw [readGroups]
  simp only [address, hextet, ite_self]

theorem readGroups_separated {groups : List Nat} (small : ∀ group ∈ groups, group ≤ 65535)
    {rest : List Char} (ends : Ends rest) :
    ∀ room, groups.length ≤ room →
      readGroups false room (separated groups ++ rest) = (groups, false, rest) := by
  induction groups with
  | nil => exact fun room _ => readGroups_of_ends ends room
  | cons group groups inductionHypothesis =>
      intro room fits
      cases room with
      | zero => cases fits
      | succ room =>
          have enters : ∀ {α : Type} (inner : List Char → Option (α × List Char)),
              readSeparator ':' false inner (separated (group :: groups) ++ rest) =
                inner (Nat.toDigits 16 group ++ (separated groups ++ rest)) := by
            intro α inner
            rw [← List.append_assoc]
            exact readSeparator_next ':' inner _
          have later := inductionHypothesis
            (fun other member => small other (List.mem_cons_of_mem group member)) room
            (by simpa using fits)
          rw [readGroups_group (small group List.mem_cons_self) (follows_separated ends) enters,
            later]

theorem readGroups_subslice {groups : List Nat} (small : ∀ group ∈ groups, group ≤ 65535)
    {rest : List Char} (ends : Ends rest) {room : Nat} (fits : groups.length ≤ room) :
    readGroups true room (subslice groups ++ rest) = (groups, false, rest) := by
  cases groups with
  | nil => exact readGroups_of_ends ends room
  | cons group groups =>
      cases room with
      | zero => cases fits
      | succ room =>
          have enters : ∀ {α : Type} (inner : List Char → Option (α × List Char)),
              readSeparator ':' true inner (subslice (group :: groups) ++ rest) =
                inner (Nat.toDigits 16 group ++ (separated groups ++ rest)) := by
            intro α inner
            rw [← List.append_assoc]
            rfl
          have later := readGroups_separated
            (fun other member => small other (List.mem_cons_of_mem group member)) ends room
            (by simpa using fits)
          rw [readGroups_group (small group List.mem_cons_self) (follows_separated ends) enters,
            later]

/-! ## The run of zeros -/

/-- The span lies within `read` and covers zeros only. -/
def Zeros (read : List Nat) (span : Span) : Prop :=
  span.start + span.len ≤ read.length ∧
    ∀ index, span.start ≤ index → index < span.start + span.len → read[index]? = some 0

theorem Zeros.append {read : List Nat} {span : Span} (zeros : Zeros read span)
    (segment : Nat) : Zeros (read ++ [segment]) span := by
  obtain ⟨within, covers⟩ := zeros
  refine ⟨by rw [List.length_append]; omega, fun index low high => ?_⟩
  rw [List.getElem?_append_left (by omega)]
  exact covers index low high

theorem zeros_empty (read : List Nat) : Zeros read ⟨0, 0⟩ :=
  ⟨Nat.zero_le _, fun index _ high => absurd high (Nat.not_lt_zero index)⟩

/-- Both spans cover zeros, and a nonempty current one reaches the end. -/
structure Scanned (read : List Nat) (spans : Span × Span) : Prop where
  longest : Zeros read spans.1
  current : Zeros read spans.2
  reaches : spans.2.len ≠ 0 → spans.2.start + spans.2.len = read.length

theorem Scanned.advance {read : List Nat} {spans : Span × Span} (scanned : Scanned read spans)
    (segment : Nat) : Scanned (read ++ [segment]) (Span.advance spans (segment, read.length)) := by
  unfold Span.advance
  by_cases zero : segment = 0
  · subst zero
    have grown : Zeros (read ++ [0])
        ⟨if spans.2.len = 0 then read.length else spans.2.start, spans.2.len + 1⟩ := by
      have last : (read ++ [0])[read.length]? = some 0 := by simp
      by_cases fresh : spans.2.len = 0
      · refine ⟨by simp [fresh], fun index low high => ?_⟩
        simp only [fresh, if_true] at low high
        have same : index = read.length := by omega
        rw [same, last]
      · have reaches := scanned.reaches fresh
        refine ⟨by simp only [fresh, if_false, List.length_append, List.length_singleton]; omega,
          fun index low high => ?_⟩
        simp only [fresh, if_false] at low high
        by_cases old : index < read.length
        · exact (scanned.current.append 0).2 index low (by omega)
        · have same : index = read.length := by omega
          rw [same, last]
    have reaches : (if spans.2.len = 0 then read.length else spans.2.start) + (spans.2.len + 1) =
        (read ++ [0]).length := by
      rw [List.length_append, List.length_singleton]
      split
      · omega
      · have reached := scanned.reaches ‹_›
        omega
    rw [if_pos rfl]
    dsimp only
    split
    · exact ⟨grown, grown, fun _ => reaches⟩
    · exact ⟨scanned.longest.append 0, grown, fun _ => reaches⟩
  · rw [if_neg zero]
    exact ⟨scanned.longest.append segment, zeros_empty _, fun nonempty => absurd rfl nonempty⟩

theorem scanned_foldl (todo : List Nat) :
    ∀ read spans, Scanned read spans →
      Scanned (read ++ todo) ((todo.zipIdx read.length).foldl Span.advance spans) := by
  induction todo with
  | nil =>
      intro read spans scanned
      rw [List.append_nil]
      exact scanned
  | cons segment todo inductionHypothesis =>
      intro read spans scanned
      have next := inductionHypothesis (read ++ [segment]) _ (scanned.advance segment)
      rw [List.append_assoc, List.length_append] at next
      exact next

theorem zeros_zeroes (groups : List Nat) : Zeros groups (zeroes groups) := by
  have start : Scanned [] (⟨0, 0⟩, ⟨0, 0⟩) :=
    ⟨zeros_empty _, zeros_empty _, fun nonempty => absurd rfl nonempty⟩
  exact (scanned_foldl groups [] _ start).longest

/-- The compressed run can be put back. -/
theorem take_zeros_drop (groups : List Nat) :
    groups.take (zeroes groups).start ++ List.replicate (zeroes groups).len 0 ++
      groups.drop ((zeroes groups).start + (zeroes groups).len) = groups := by
  obtain ⟨within, covers⟩ := zeros_zeroes groups
  have middle : (groups.drop (zeroes groups).start).take (zeroes groups).len =
      List.replicate (zeroes groups).len 0 := by
    apply List.ext_getElem?
    intro index
    by_cases inside : index < (zeroes groups).len
    · rw [List.getElem?_take_of_lt inside, List.getElem?_drop,
        covers _ (Nat.le_add_right _ _) (by omega), List.getElem?_replicate, if_pos inside]
    · rw [List.getElem?_take_eq_none (by omega), List.getElem?_replicate, if_neg inside]
  rw [← middle, List.append_assoc, ← List.drop_drop, List.take_append_drop, List.take_append_drop]

/-! ## Segments -/

theorem segments_small (bytes : Bytes) : ∀ group ∈ segments bytes, group ≤ 65535 := by
  fun_induction segments bytes with
  | case1 high low rest inductionHypothesis =>
      intro group member
      rcases List.mem_cons.mp member with rfl | later
      · have highBound := high.toNat_lt
        have lowBound := low.toNat_lt
        omega
      · exact inductionHypothesis group later
  | case2 => exact fun group member => nomatch member

theorem segments_of_length (count : Nat) :
    ∀ bytes : Bytes, bytes.length = 2 * count →
      (segments bytes).length = count ∧ groupBytes (segments bytes) = bytes := by
  induction count with
  | zero =>
      intro bytes length
      rw [List.length_eq_zero_iff.mp length]
      exact ⟨rfl, rfl⟩
  | succ count inductionHypothesis =>
      intro bytes length
      match bytes with
      | [] | [_] => simp at length; try omega
      | high :: low :: rest =>
          obtain ⟨counted, restored⟩ :=
            inductionHypothesis rest (by simp only [List.length_cons] at length; omega)
          have lowBound := low.toNat_lt
          have first : (high.toNat * 256 + low.toNat) / 256 = high.toNat := by omega
          have second : (high.toNat * 256 + low.toNat) % 256 = low.toNat := by omega
          refine ⟨by rw [segments, List.length_cons, counted], ?_⟩
          rw [segments, groupBytes, List.flatMap_cons]
          unfold groupBytes at restored
          rw [restored, first, second]
          simp

theorem readIpv4Addr_subslice {groups : List Nat} {rest : List Char} (ends : Ends rest) :
    readIpv4Addr (subslice groups ++ rest) = none := by
  cases groups with
  | nil => exact readIpv4Addr_of_stops ends.follows.stops
  | cons group groups =>
      rw [subslice, List.append_assoc]
      exact readIpv4Addr_of_group (follows_separated ends)

/-! ## IPv6 -/

/-- The `::` stands for the missing groups. -/
theorem readIpv6Groups_compressed {head tail : List Nat} {back : List Char} {embeds : Bool}
    (small : ∀ group ∈ head, group ≤ 65535) (short : head.length < 8)
    (reads : readGroups true (8 - (head.length + 1)) back = (tail, embeds, [])) :
    readIpv6Groups (subslice head ++ ':' :: ':' :: back) =
      some (head ++ List.replicate (8 - tail.length - head.length) 0 ++ tail, []) := by
  have front : readGroups true 8 (subslice head ++ ':' :: ':' :: back) =
      (head, false, ':' :: ':' :: back) :=
    readGroups_subslice small (.inr ⟨back, rfl⟩) (Nat.le_of_lt short)
  unfold readIpv6Groups
  simp only [front, reads, Nat.ne_of_lt short, if_false, Bool.false_eq_true]

theorem readIpv6Groups_full {groups : List Nat} (small : ∀ group ∈ groups, group ≤ 65535)
    (length : groups.length = 8) : readIpv6Groups (subslice groups) = some (groups, []) := by
  have front : readGroups true 8 (subslice groups ++ []) = (groups, false, []) :=
    readGroups_subslice small (.inl rfl) (Nat.le_of_eq length)
  rw [List.append_nil] at front
  unfold readIpv6Groups
  simp only [front, length, if_true]

theorem segments_mapped (octets : Octets 16) :
    segments octets.val = (segments octets.val).take 6 ++ embedded octets.lastFour := by
  obtain ⟨bytes, length⟩ := octets
  match bytes, length with
  | [_, _, _, _, _, _, _, _, _, _, _, _, _, _, _, _], _ => rfl

theorem readIpv6Groups_mapped {octets : Octets 4} :
    readIpv6Groups ("::ffff:".toList ++ ipv4Chars octets) =
      some ([0, 0, 0, 0, 0, 65535] ++ embedded octets, []) := by
  have address : readGroups false 6 (':' :: ipv4Chars octets) = (embedded octets, true, []) := by
    have whole := readIpv4Addr_chars octets stops_nil
    rw [List.append_nil] at whole
    unfold readGroups
    rw [if_pos (by decide : 0 < 5), readSeparator_next, whole]
  have reads : readGroups true 7 ("ffff:".toList ++ ipv4Chars octets) =
      (65535 :: embedded octets, true, []) := by
    have group : readGroups true 7 ("ffff:".toList ++ ipv4Chars octets) =
        (65535 :: (readGroups false 6 (':' :: ipv4Chars octets)).1,
          (readGroups false 6 (':' :: ipv4Chars octets)).2) :=
      readGroups_group (by omega) (.inr ⟨ipv4Chars octets, rfl⟩) fun inner => rfl
    rw [group, address]
  have small : ∀ group ∈ ([] : List Nat), group ≤ 65535 := fun group member => nomatch member
  exact readIpv6Groups_compressed small (by simp) reads

theorem readIpv6Groups_chars (octets : Octets 16) :
    readIpv6Groups (ipv6Chars octets) = some (segments octets.val, []) ∧
      readIpv4Addr (ipv6Chars octets) = none := by
  obtain ⟨counted, -⟩ := segments_of_length 8 octets.val octets.length_val
  have small := segments_small octets.val
  unfold ipv6Chars
  simp only
  split
  · rename_i mapped
    have shape := segments_mapped octets
    rw [mapped] at shape
    constructor
    · rw [readIpv6Groups_mapped, ← shape]
    · exact readIpv4Addr_of_stops (stops_colon _)
  · split
    · rename_i long
      have within := (zeros_zeroes (segments octets.val)).1
      have whole := take_zeros_drop (segments octets.val)
      generalize zeroes (segments octets.val) = span at long within whole
      have headLength : ((segments octets.val).take span.start).length = span.start := by
        rw [List.length_take]
        omega
      have tailLength : ((segments octets.val).drop (span.start + span.len)).length =
          8 - (span.start + span.len) := by
        rw [List.length_drop, counted]
      have reads : readGroups true (8 - (((segments octets.val).take span.start).length + 1))
          (subslice ((segments octets.val).drop (span.start + span.len)) ++ []) =
            ((segments octets.val).drop (span.start + span.len), false, []) :=
        readGroups_subslice (fun group member => small group (List.mem_of_mem_drop member))
          (.inl rfl) (by omega)
      rw [List.append_nil] at reads
      constructor
      · rw [readIpv6Groups_compressed
          (fun group member => small group (List.mem_of_mem_take member)) (by omega) reads,
          tailLength, headLength]
        have missing : 8 - (8 - (span.start + span.len)) - span.start = span.len := by omega
        rw [missing, whole]
      · exact readIpv4Addr_subslice (.inr ⟨_, rfl⟩)
    · constructor
      · exact readIpv6Groups_full small counted
      · have none : readIpv4Addr (subslice (segments octets.val) ++ []) = none :=
          readIpv4Addr_subslice (.inl rfl)
        rwa [List.append_nil] at none

/-! ## Colons -/

theorem colon_of_readSeparator {α : Type} {inner : List Char → Option (α × List Char)}
    {input rest : List Char} {value : α}
    (taken : readSeparator ':' false inner input = some (value, rest)) : ':' ∈ input := by
  cases input with
  | nil => cases taken
  | cons char input =>
      change (if char = ':' then inner input else none) = _ at taken
      split at taken
      · rename_i colon
        rw [colon]
        exact List.mem_cons_self
      · cases taken

theorem rest_of_readSeparator {α : Type} {first : Bool}
    {inner : List Char → Option (α × List Char)}
    (shrinks : ∀ {input rest value}, inner input = some (value, rest) →
      ∀ char ∈ rest, char ∈ input)
    {input rest : List Char} {value : α}
    (taken : readSeparator ':' first inner input = some (value, rest)) :
    ∀ char ∈ rest, char ∈ input := by
  cases first with
  | true => exact shrinks taken
  | false =>
      cases input with
      | nil => cases taken
      | cons front input =>
          change (if front = ':' then inner input else none) = _ at taken
          split at taken
          · exact fun char member => List.mem_cons_of_mem front (shrinks taken char member)
          · cases taken

theorem rest_of_readGroups (room : Nat) :
    ∀ first input, ∀ char ∈ (readGroups first room input).2.2, char ∈ input := by
  have address : ∀ {input rest octets}, readIpv4Addr input = some (octets, rest) →
      ∀ char ∈ rest, char ∈ input := by
    intro input rest octets taken char member
    obtain ⟨digits, shape, -⟩ := colon_of_readIpv4Addr taken
    rw [shape]
    exact List.mem_append_right digits member
  have hextet : ∀ {input rest group}, readNumber 16 4 true 65535 input = some (group, rest) →
      ∀ char ∈ rest, char ∈ input := by
    intro input rest group taken char member
    obtain ⟨digits, shape, -⟩ := digits_of_readNumber taken
    rw [shape]
    exact List.mem_append_right digits member
  induction room with
  | zero => exact fun first input char member => member
  | succ room inductionHypothesis =>
      intro first input char member
      rw [readGroups] at member
      split at member
      · rename_i octets rest taken
        split at taken
        · exact rest_of_readSeparator address taken char member
        · cases taken
      · split at member
        · rename_i group rest taken
          exact rest_of_readSeparator hextet taken char
            (inductionHypothesis false rest char member)
        · exact member

/-- Groups after the first stand behind colons. -/
theorem colon_of_readGroups {room : Nat} {input : List Char}
    (nonempty : (readGroups false room input).1 ≠ []) : ':' ∈ input := by
  cases room with
  | zero => exact absurd rfl nonempty
  | succ room =>
      rw [readGroups] at nonempty
      split at nonempty
      · rename_i octets rest taken
        split at taken
        · exact colon_of_readSeparator taken
        · cases taken
      · split at nonempty
        · rename_i group rest taken
          exact colon_of_readSeparator taken
        · exact absurd rfl nonempty

/-- Eight groups, or a `::`, have a colon. -/
theorem colon_of_readIpv6Groups {input rest : List Char} {groups : List Nat}
    (taken : readIpv6Groups input = some (groups, rest)) : ':' ∈ input := by
  unfold readIpv6Groups at taken
  simp only at taken
  split at taken
  · rename_i eight
    rw [readGroups] at eight
    split at eight
    · simp [embedded] at eight
    · split at eight
      · rename_i group tail first
        have later : (readGroups false 7 tail).1 ≠ [] := by
          intro empty
          rw [List.length_cons, empty] at eight
          cases eight
        obtain ⟨digits, shape, -⟩ := digits_of_readNumber first
        rw [shape]
        exact List.mem_append_right digits (colon_of_readGroups later)
      · cases eight
  · split at taken
    · cases taken
    · split at taken
      · rename_i back shape
        apply rest_of_readGroups 8 true input
        rw [shape]
        exact List.mem_cons_self
      · cases taken

/-! ## The laws -/

/-- The text forms of the standard library; bytes that are not UTF-8 are read as
one replacement character, which is exact when a single sequence is broken. -/
def std : AddrText where
  ipv4 := fun octets => String.ofList (ipv4Chars octets)
  ipv6 := fun octets => String.ofList (ipv6Chars octets)
  utf8Lossy := fun bytes => (fromUtf8 bytes).getD "\uFFFD"
  parseIp := parseIp

theorem parseIp_ipv4Chars (octets : Octets 4) :
    parseIp (String.ofList (ipv4Chars octets)) = some (.v4 octets) := by
  have whole := readIpv4Addr_chars octets stops_nil
  rw [List.append_nil] at whole
  unfold parseIp
  rw [String.toList_ofList, whole]

theorem parseIp_ipv6Chars (octets : Octets 16) :
    parseIp (String.ofList (ipv6Chars octets)) = some (.v6 octets) := by
  obtain ⟨groups, noAddress⟩ := readIpv6Groups_chars octets
  obtain ⟨-, restored⟩ := segments_of_length 8 octets.val octets.length_val
  have length : (groupBytes (segments octets.val)).length = 16 := by
    rw [restored, octets.length_val]
  unfold parseIp
  rw [String.toList_ofList, noAddress, groups]
  simp only [length, dif_pos]
  exact congrArg (fun octets => some (IpAddr.v6 octets)) (Subtype.ext restored)

theorem parseIp_eq_v4 {host : String} {octets : Octets 4}
    (parsed : parseIp host = some (.v4 octets)) :
    readIpv4Addr host.toList = some (octets, []) := by
  unfold parseIp at parsed
  split at parsed
  · rename_i found taken
    obtain rfl := IpAddr.v4.inj (Option.some.inj parsed)
    exact taken
  · cases parsed
  · split at parsed
    · split at parsed
      · cases parsed
      · cases parsed
    · cases parsed

theorem parseIp_eq_v6 {host : String} {octets : Octets 16}
    (parsed : parseIp host = some (.v6 octets)) :
    ∃ groups, readIpv6Groups host.toList = some (groups, []) := by
  unfold parseIp at parsed
  split at parsed
  · cases parsed
  · cases parsed
  · split at parsed
    · rename_i groups taken
      exact ⟨groups, taken⟩
    · cases parsed

theorem std_laws : AddrTextLaws std where
  parseIp_empty := by decide
  parseIp_ipv4 := by
    intro octets
    dsimp only [std]
    exact parseIp_ipv4Chars octets
  parseIp_ipv6 := by
    intro octets
    dsimp only [std]
    exact parseIp_ipv6Chars octets
  ipv4_colon := by
    intro host octets parsed
    obtain ⟨digits, shape, plain⟩ := colon_of_readIpv4Addr (parseIp_eq_v4 parsed)
    rw [shape, List.append_nil]
    exact plain
  ipv6_colon := by
    intro host octets parsed
    obtain ⟨groups, taken⟩ := parseIp_eq_v6 parsed
    exact colon_of_readIpv6Groups taken
  utf8Lossy_utf8 := by
    intro host
    show (fromUtf8 (utf8 host)).getD _ = host
    rw [fromUtf8_eq_some_iff.mpr rfl]
    rfl

example : std.parseIp "2001:DB8::ffff:1.2.3.4" =
    some (.v6 ⟨[32, 1, 13, 184, 0, 0, 0, 0, 0, 0, 255, 255, 1, 2, 3, 4], rfl⟩) := by
  decide +kernel

/-! ## Characters of an IPv6 text -/

/-- A character of the text of an address. -/
def isAddressChar (char : Char) : Bool := isDigitOf 16 char || char = ':' || char = '.'

/-- What is read of the input consists of characters of addresses. -/
def Reads (input rest : List Char) : Prop :=
  ∃ taken, input = taken ++ rest ∧ ∀ char ∈ taken, isAddressChar char = true

theorem Reads.refl (input : List Char) : Reads input input :=
  ⟨[], rfl, fun _ member => nomatch member⟩

theorem Reads.trans {input middle rest : List Char} (first : Reads input middle)
    (second : Reads middle rest) : Reads input rest := by
  obtain ⟨front, rfl, frontChars⟩ := first
  obtain ⟨back, rfl, backChars⟩ := second
  refine ⟨front ++ back, (List.append_assoc _ _ _).symm, fun char member => ?_⟩
  rcases List.mem_append.mp member with inFront | inBack
  · exact frontChars char inFront
  · exact backChars char inBack

theorem Reads.cons {char : Char} (address : isAddressChar char = true) {input rest : List Char}
    (reads : Reads input rest) : Reads (char :: input) rest := by
  obtain ⟨taken, rfl, chars⟩ := reads
  exact ⟨char :: taken, rfl, List.forall_mem_cons.mpr ⟨address, chars⟩⟩

theorem reads_of_digits {base : Nat} (hexadecimal : base = 10 ∨ base = 16) {input rest : List Char}
    (taken : ∃ digits, input = digits ++ rest ∧ ∀ char ∈ digits, isDigitOf base char = true) :
    Reads input rest := by
  obtain ⟨digits, shape, every⟩ := taken
  refine ⟨digits, shape, fun char member => ?_⟩
  have digit : isDigitOf 16 char = true := by
    rcases hexadecimal with rfl | rfl
    · exact isDigitOf_sixteen_of_ten (every char member)
    · exact every char member
  rw [isAddressChar, digit, Bool.true_or, Bool.true_or]

theorem reads_of_readSeparator {α : Type} {separator : Char}
    (address : isAddressChar separator = true) {first : Bool}
    {inner : List Char → Option (α × List Char)}
    (reads : ∀ {input rest value}, inner input = some (value, rest) → Reads input rest)
    {input rest : List Char} {value : α}
    (taken : readSeparator separator first inner input = some (value, rest)) :
    Reads input rest := by
  cases first with
  | true => exact reads taken
  | false =>
    cases input with
    | nil => cases taken
    | cons front input =>
      change (if front = separator then inner input else none) = _ at taken
      split at taken
      · rename_i same
        exact (reads taken).cons (same ▸ address)
      · cases taken

theorem reads_of_readOctet {first : Bool} {number : Nat} {input rest : List Char}
    (taken : readOctet first input = some (number, rest)) : Reads input rest :=
  reads_of_readSeparator (by decide)
    (fun taken => reads_of_digits (.inl rfl) (digits_of_readNumber taken)) taken

theorem reads_of_readIpv4Addr {octets : Octets 4} {input rest : List Char}
    (taken : readIpv4Addr input = some (octets, rest)) : Reads input rest := by
  unfold readIpv4Addr at taken
  simp only [Option.bind_eq_bind, Option.bind_eq_some_iff] at taken
  obtain ⟨⟨first, input1⟩, taken1, ⟨second, input2⟩, taken2, ⟨third, input3⟩, taken3,
    ⟨fourth, input4⟩, taken4, last⟩ := taken
  obtain ⟨-, rfl⟩ := Prod.mk.inj (Option.some.inj last)
  exact (reads_of_readOctet taken1).trans ((reads_of_readOctet taken2).trans
    ((reads_of_readOctet taken3).trans (reads_of_readOctet taken4)))

theorem reads_readGroups (room : Nat) :
    ∀ first input, Reads input (readGroups first room input).2.2 := by
  induction room with
  | zero => exact fun first input => .refl input
  | succ room inductionHypothesis =>
    intro first input
    rw [readGroups]
    split
    · rename_i octets rest taken
      split at taken
      · exact reads_of_readSeparator (by decide) reads_of_readIpv4Addr taken
      · cases taken
    · split
      · rename_i group rest taken
        have hextet : Reads input rest := reads_of_readSeparator (by decide)
          (fun taken => reads_of_digits (.inr rfl) (digits_of_readNumber taken)) taken
        exact hextet.trans (inductionHypothesis false rest)
      · exact .refl input

theorem reads_of_readIpv6Groups {input rest : List Char} {groups : List Nat}
    (taken : readIpv6Groups input = some (groups, rest)) : Reads input rest := by
  have head := reads_readGroups 8 true input
  unfold readIpv6Groups at taken
  simp only at taken
  split at taken
  · obtain ⟨-, rfl⟩ := Prod.mk.inj (Option.some.inj taken)
    exact head
  · split at taken
    · cases taken
    · split at taken
      · rename_i back shape
        obtain ⟨-, rfl⟩ := Prod.mk.inj (Option.some.inj taken)
        rw [shape] at head
        have tail := reads_readGroups
          (8 - ((readGroups true 8 input).1.length + 1)) true back
        exact head.trans ((tail.cons (by decide)).cons (by decide))
      · cases taken

/-- The text of an IPv6 address has digits, colons and dots only. -/
theorem isAddressChar_of_ipv6 {host : String} {octets : Octets 16}
    (parsed : parseIp host = some (.v6 octets)) :
    ∀ char ∈ host.toList, isAddressChar char = true := by
  obtain ⟨groups, taken⟩ := parseIp_eq_v6 parsed
  obtain ⟨chars, shape, every⟩ := reads_of_readIpv6Groups taken
  rw [shape, List.append_nil]
  exact every

theorem isAddressChar_of_ipv4 {host : String} {octets : Octets 4}
    (parsed : parseIp host = some (.v4 octets)) :
    ∀ char ∈ host.toList, isAddressChar char = true := by
  obtain ⟨chars, shape, every⟩ := reads_of_readIpv4Addr (parseIp_eq_v4 parsed)
  rw [shape, List.append_nil]
  exact every

theorem closing_notMem {text : String} {octets : Octets 16}
    (parsed : parseIp text = some (.v6 octets)) : ']' ∉ text.toList := by
  intro member
  have address := isAddressChar_of_ipv6 parsed ']' member
  cases address

end Juicity.Common.IpText
