import Mathlib.Data.List.Basic
import Mathlib.Tactic.Common

/-!
Contract: strict base64.

An alphabet gives the characters of the sixty-four digits and their values. The
encoder writes groups of three bytes; the decoder accepts whole groups, a last
group whose unused bits are zero, and padding exactly when it is asked for. A
text decodes to its bytes; read with another alphabet it decodes to its bytes
or not at all; and digits in whole groups always decode.
-/

namespace Juicity.Machine.Base64

/-- The digits of base64. -/
structure Alphabet where
  char : Nat → Char
  value : Char → Option Nat
  value_char : ∀ digit, digit < 64 → value (char digit) = some digit
  value_lt : ∀ char digit, value char = some digit → digit < 64
  value_pad : value '=' = none

/-- Letters and decimal digits are common to all alphabets; the last two digits differ. -/
def digitChar (plus slash : Char) (digit : Nat) : Char :=
  if digit < 26 then Char.ofNat (65 + digit)
  else if digit < 52 then Char.ofNat (71 + digit)
  else if digit < 62 then Char.ofNat (digit - 4)
  else if digit = 62 then plus
  else slash

def charDigit (plus slash : Char) (char : Char) : Option Nat :=
  let code := char.toNat
  if 65 ≤ code ∧ code ≤ 90 then some (code - 65)
  else if 97 ≤ code ∧ code ≤ 122 then some (code - 71)
  else if 48 ≤ code ∧ code ≤ 57 then some (code + 4)
  else if char = plus then some 62
  else if char = slash then some 63
  else none

theorem charDigit_lt (plus slash : Char) (char : Char) (digit : Nat)
    (valued : charDigit plus slash char = some digit) : digit < 64 := by
  unfold charDigit at valued
  simp only at valued
  split at valued
  · obtain rfl := Option.some.inj valued
    omega
  · split at valued
    · obtain rfl := Option.some.inj valued
      omega
    · split at valued
      · obtain rfl := Option.some.inj valued
        omega
      · split at valued
        · obtain rfl := Option.some.inj valued
          omega
        · split at valued
          · obtain rfl := Option.some.inj valued
            omega
          · cases valued

/-- A property of the digits that is checked for each of them. -/
theorem forall_digits {holds : Nat → Prop} (checked : ∀ digit : Fin 64, holds digit) :
    ∀ digit, digit < 64 → holds digit :=
  fun digit small => checked ⟨digit, small⟩

def standard : Alphabet where
  char := digitChar '+' '/'
  value := charDigit '+' '/'
  value_char := forall_digits (by decide +kernel)
  value_lt := charDigit_lt '+' '/'
  value_pad := by decide

def urlSafe : Alphabet where
  char := digitChar '-' '_'
  value := charDigit '-' '_'
  value_char := forall_digits (by decide +kernel)
  value_lt := charDigit_lt '-' '_'
  value_pad := by decide

/-! ## Encoding and decoding -/

def encode (alphabet : Alphabet) (pad : Bool) : List UInt8 → List Char
  | [] => []
  | [a] =>
      alphabet.char (a.toNat / 4) :: alphabet.char (a.toNat % 4 * 16) ::
        if pad then ['=', '='] else []
  | [a, b] =>
      alphabet.char (a.toNat / 4) :: alphabet.char (a.toNat % 4 * 16 + b.toNat / 16) ::
        alphabet.char (b.toNat % 16 * 4) :: if pad then ['='] else []
  | a :: b :: c :: rest =>
      alphabet.char (a.toNat / 4) :: alphabet.char (a.toNat % 4 * 16 + b.toNat / 16) ::
        alphabet.char (b.toNat % 16 * 4 + c.toNat / 64) :: alphabet.char (c.toNat % 64) ::
        encode alphabet pad rest

/-- A last group of two digits. -/
def decodeOne (alphabet : Alphabet) (w x : Char) : Option (List UInt8) := do
  let w ← alphabet.value w
  let x ← alphabet.value x
  if x % 16 = 0 then some [UInt8.ofNat (w * 4 + x / 16)] else none

/-- A last group of three digits. -/
def decodeTwo (alphabet : Alphabet) (w x y : Char) : Option (List UInt8) := do
  let w ← alphabet.value w
  let x ← alphabet.value x
  let y ← alphabet.value y
  if y % 4 = 0 then some [UInt8.ofNat (w * 4 + x / 16), UInt8.ofNat (x % 16 * 16 + y / 4)]
  else none

/-- A whole group. -/
def decodeThree (alphabet : Alphabet) (w x y z : Char) : Option (List UInt8) := do
  let w ← alphabet.value w
  let x ← alphabet.value x
  let y ← alphabet.value y
  let z ← alphabet.value z
  return [UInt8.ofNat (w * 4 + x / 16), UInt8.ofNat (x % 16 * 16 + y / 4),
    UInt8.ofNat (y % 4 * 64 + z)]

def decode (alphabet : Alphabet) (pad : Bool) : List Char → Option (List UInt8)
  | [] => some []
  | [_] => none
  | [w, x] => if pad then none else decodeOne alphabet w x
  | [w, x, y] => if pad then none else decodeTwo alphabet w x y
  | w :: x :: y :: z :: rest =>
      if pad ∧ rest = [] ∧ z = '=' then
        if y = '=' then decodeOne alphabet w x else decodeTwo alphabet w x y
      else do
        let first ← decodeThree alphabet w x y z
        let later ← decode alphabet pad rest
        return first ++ later

/-! ## One group -/

variable {reader writer : Alphabet}

/-- Two alphabets share their digits, apart from characters the reader lacks. -/
def Agrees (reader writer : Alphabet) : Prop :=
  ∀ digit, digit < 64 →
    reader.value (writer.char digit) = none ∨ reader.value (writer.char digit) = some digit

/-- A read that agrees with a value, followed by one that agrees with a result. -/
theorem bind_agrees {α β : Type} {read : Option α} {value : α} {next : α → Option β} {result : β}
    (first : read = none ∨ read = some value)
    (later : next value = none ∨ next value = some result) :
    read.bind next = none ∨ read.bind next = some result := by
  rcases first with lacking | found
  · left
    rw [lacking, Option.bind_none]
  · rw [found, Option.bind_some]
    exact later

/-- The first byte of a group, from its first two digits. -/
theorem first_byte (a : UInt8) (high : Nat) (highSmall : high < 16) :
    UInt8.ofNat (a.toNat / 4 * 4 + (a.toNat % 4 * 16 + high) / 16) = a := by
  have joined : a.toNat / 4 * 4 + (a.toNat % 4 * 16 + high) / 16 = a.toNat := by omega
  rw [joined]
  exact UInt8.ofNat_toNat

/-- The second byte of a group, from its middle digits. -/
theorem second_byte (b : UInt8) (low high : Nat) (highSmall : high < 4) :
    UInt8.ofNat ((low * 16 + b.toNat / 16) % 16 * 16 + (b.toNat % 16 * 4 + high) / 4) = b := by
  have small : b.toNat < 256 := b.toNat_lt
  have joined : (low * 16 + b.toNat / 16) % 16 * 16 + (b.toNat % 16 * 4 + high) / 4 =
      b.toNat := by omega
  rw [joined]
  exact UInt8.ofNat_toNat

/-- The third byte of a group, from its last two digits. -/
theorem third_byte (c : UInt8) (low : Nat) :
    UInt8.ofNat ((low * 4 + c.toNat / 64) % 4 * 64 + c.toNat % 64) = c := by
  have small : c.toNat < 256 := c.toNat_lt
  have joined : (low * 4 + c.toNat / 64) % 4 * 64 + c.toNat % 64 = c.toNat := by omega
  rw [joined]
  exact UInt8.ofNat_toNat

theorem join_one (a : UInt8) :
    (if a.toNat % 4 * 16 % 16 = 0 then
        some [UInt8.ofNat (a.toNat / 4 * 4 + a.toNat % 4 * 16 / 16)]
      else none) = some [a] := by
  have unused : a.toNat % 4 * 16 % 16 = 0 := by omega
  have first := first_byte a 0 (by omega)
  rw [Nat.add_zero] at first
  rw [if_pos unused, first]

theorem join_two (a b : UInt8) :
    (if b.toNat % 16 * 4 % 4 = 0 then
        some [UInt8.ofNat (a.toNat / 4 * 4 + (a.toNat % 4 * 16 + b.toNat / 16) / 16),
          UInt8.ofNat ((a.toNat % 4 * 16 + b.toNat / 16) % 16 * 16 + b.toNat % 16 * 4 / 4)]
      else none) = some [a, b] := by
  have small : b.toNat < 256 := b.toNat_lt
  have unused : b.toNat % 16 * 4 % 4 = 0 := by omega
  have first := first_byte a (b.toNat / 16) (by omega)
  have second := second_byte b (a.toNat % 4) 0 (by omega)
  rw [Nat.add_zero] at second
  rw [if_pos unused, first, second]

theorem join_three (a b c : UInt8) :
    [UInt8.ofNat (a.toNat / 4 * 4 + (a.toNat % 4 * 16 + b.toNat / 16) / 16),
      UInt8.ofNat ((a.toNat % 4 * 16 + b.toNat / 16) % 16 * 16 +
        (b.toNat % 16 * 4 + c.toNat / 64) / 4),
      UInt8.ofNat ((b.toNat % 16 * 4 + c.toNat / 64) % 4 * 64 + c.toNat % 64)] = [a, b, c] := by
  have bSmall : b.toNat < 256 := b.toNat_lt
  have cSmall : c.toNat < 256 := c.toNat_lt
  rw [first_byte a (b.toNat / 16) (by omega),
    second_byte b (a.toNat % 4) (c.toNat / 64) (by omega), third_byte c (b.toNat % 16)]

theorem decodeOne_values {w x : Char} (a : UInt8)
    (wValue : reader.value w = some (a.toNat / 4))
    (xValue : reader.value x = some (a.toNat % 4 * 16)) :
    decodeOne reader w x = some [a] := by
  simp only [decodeOne, wValue, xValue, Option.bind_eq_bind, Option.bind_some, join_one]

theorem decodeTwo_values {w x y : Char} (a b : UInt8)
    (wValue : reader.value w = some (a.toNat / 4))
    (xValue : reader.value x = some (a.toNat % 4 * 16 + b.toNat / 16))
    (yValue : reader.value y = some (b.toNat % 16 * 4)) :
    decodeTwo reader w x y = some [a, b] := by
  simp only [decodeTwo, wValue, xValue, yValue, Option.bind_eq_bind, Option.bind_some, join_two]

theorem decodeThree_values {w x y z : Char} (a b c : UInt8)
    (wValue : reader.value w = some (a.toNat / 4))
    (xValue : reader.value x = some (a.toNat % 4 * 16 + b.toNat / 16))
    (yValue : reader.value y = some (b.toNat % 16 * 4 + c.toNat / 64))
    (zValue : reader.value z = some (c.toNat % 64)) :
    decodeThree reader w x y z = some [a, b, c] := by
  simp only [decodeThree, wValue, xValue, yValue, zValue, Option.bind_eq_bind, Option.bind_some,
    join_three, Option.pure_def]

/-- A digit of another alphabet is read as itself or not at all. -/
theorem decodeOne_agrees (agrees : Agrees reader writer) (a : UInt8) :
    let text := decodeOne reader (writer.char (a.toNat / 4)) (writer.char (a.toNat % 4 * 16))
    text = none ∨ text = some [a] := by
  have small : a.toNat < 256 := a.toNat_lt
  apply bind_agrees (agrees (a.toNat / 4) (by omega))
  apply bind_agrees (agrees (a.toNat % 4 * 16) (by omega))
  exact .inr (join_one a)

theorem decodeTwo_agrees (agrees : Agrees reader writer) (a b : UInt8) :
    let text := decodeTwo reader (writer.char (a.toNat / 4))
      (writer.char (a.toNat % 4 * 16 + b.toNat / 16)) (writer.char (b.toNat % 16 * 4))
    text = none ∨ text = some [a, b] := by
  have aSmall : a.toNat < 256 := a.toNat_lt
  have bSmall : b.toNat < 256 := b.toNat_lt
  apply bind_agrees (agrees (a.toNat / 4) (by omega))
  apply bind_agrees (agrees (a.toNat % 4 * 16 + b.toNat / 16) (by omega))
  apply bind_agrees (agrees (b.toNat % 16 * 4) (by omega))
  exact .inr (join_two a b)

theorem decodeThree_agrees (agrees : Agrees reader writer) (a b c : UInt8) :
    let text := decodeThree reader (writer.char (a.toNat / 4))
      (writer.char (a.toNat % 4 * 16 + b.toNat / 16))
      (writer.char (b.toNat % 16 * 4 + c.toNat / 64)) (writer.char (c.toNat % 64))
    text = none ∨ text = some [a, b, c] := by
  have aSmall : a.toNat < 256 := a.toNat_lt
  have bSmall : b.toNat < 256 := b.toNat_lt
  have cSmall : c.toNat < 256 := c.toNat_lt
  apply bind_agrees (agrees (a.toNat / 4) (by omega))
  apply bind_agrees (agrees (a.toNat % 4 * 16 + b.toNat / 16) (by omega))
  apply bind_agrees (agrees (b.toNat % 16 * 4 + c.toNat / 64) (by omega))
  apply bind_agrees (agrees (c.toNat % 64) (by omega))
  exact .inr (congrArg some (join_three a b c))

/-! ## Texts -/

/-- A character some digit is written with is not the padding. -/
theorem char_ne_pad (alphabet : Alphabet) {digit : Nat} (small : digit < 64) :
    alphabet.char digit ≠ '=' := by
  intro written
  have value := alphabet.value_char digit small
  rw [written, alphabet.value_pad] at value
  cases value

/-- A whole group of digits is never read as a last group. -/
theorem decode_group (pad : Bool) {w x y z : Char} (rest : List Char) (digit : z ≠ '=') :
    decode reader pad (w :: x :: y :: z :: rest) = (do
      let first ← decodeThree reader w x y z
      let later ← decode reader pad rest
      return first ++ later) :=
  if_neg fun last => digit last.2.2

/-- A last group of two digits, padded or not. -/
theorem decode_one (pad : Bool) (w x : Char) :
    decode reader pad (w :: x :: if pad then ['=', '='] else []) = decodeOne reader w x := by
  cases pad with
  | false => rfl
  | true => rfl

/-- A last group of three digits, padded or not. -/
theorem decode_two (pad : Bool) {w x y : Char} (digit : y ≠ '=') :
    decode reader pad (w :: x :: y :: if pad then ['='] else []) = decodeTwo reader w x y := by
  cases pad with
  | false => rfl
  | true => exact if_neg digit

/-- What was written reads back. -/
theorem decode_encode (alphabet : Alphabet) (pad : Bool) (bytes : List UInt8) :
    decode alphabet pad (encode alphabet pad bytes) = some bytes := by
  have value := alphabet.value_char
  induction bytes using encode.induct with
  | case1 => rfl
  | case2 a =>
    have small : a.toNat < 256 := a.toNat_lt
    show decode alphabet pad (_ :: _ :: if pad then ['=', '='] else []) = _
    rw [decode_one]
    exact decodeOne_values a (value _ (by omega)) (value _ (by omega))
  | case3 a b =>
    have aSmall : a.toNat < 256 := a.toNat_lt
    have bSmall : b.toNat < 256 := b.toNat_lt
    show decode alphabet pad (_ :: _ :: _ :: if pad then ['='] else []) = _
    rw [decode_two pad (char_ne_pad alphabet (by omega))]
    exact decodeTwo_values a b (value _ (by omega)) (value _ (by omega)) (value _ (by omega))
  | case4 a b c rest hypothesis =>
    have aSmall : a.toNat < 256 := a.toNat_lt
    have bSmall : b.toNat < 256 := b.toNat_lt
    have cSmall : c.toNat < 256 := c.toNat_lt
    show decode alphabet pad (_ :: _ :: _ :: _ :: encode alphabet pad rest) = _
    rw [decode_group pad _ (char_ne_pad alphabet (by omega)), hypothesis,
      decodeThree_values a b c (value _ (by omega)) (value _ (by omega)) (value _ (by omega))
        (value _ (by omega))]
    rfl

/-- What another alphabet wrote reads back, or is refused. -/
theorem decode_agrees (agrees : Agrees reader writer) (pad : Bool) (bytes : List UInt8) :
    decode reader pad (encode writer pad bytes) = none ∨
      decode reader pad (encode writer pad bytes) = some bytes := by
  induction bytes using encode.induct with
  | case1 => exact .inr rfl
  | case2 a =>
    show decode reader pad (_ :: _ :: if pad then ['=', '='] else []) = _ ∨
      decode reader pad (_ :: _ :: if pad then ['=', '='] else []) = _
    rw [decode_one]
    exact decodeOne_agrees agrees a
  | case3 a b =>
    show decode reader pad (_ :: _ :: _ :: if pad then ['='] else []) = _ ∨
      decode reader pad (_ :: _ :: _ :: if pad then ['='] else []) = _
    rw [decode_two pad (char_ne_pad writer (by omega))]
    exact decodeTwo_agrees agrees a b
  | case4 a b c rest hypothesis =>
    show decode reader pad (_ :: _ :: _ :: _ :: encode writer pad rest) = _ ∨
      decode reader pad (_ :: _ :: _ :: _ :: encode writer pad rest) = _
    rw [decode_group pad _ (char_ne_pad writer (by omega))]
    rcases decodeThree_agrees agrees a b c with firstNone | firstSome
    · exact .inl (by rw [firstNone]; rfl)
    rcases hypothesis with laterNone | laterSome
    · exact .inl (by rw [firstSome, laterNone]; rfl)
    · exact .inr (by rw [firstSome, laterSome]; rfl)

/-- An unpadded text consists of digits. -/
theorem exists_digit_of_mem_encode (alphabet : Alphabet) (bytes : List UInt8) :
    ∀ char ∈ encode alphabet false bytes, ∃ digit < 64, char = alphabet.char digit := by
  induction bytes using encode.induct with
  | case1 => exact fun char member => nomatch member
  | case2 a =>
    have small : a.toNat < 256 := a.toNat_lt
    refine List.forall_mem_cons.mpr ⟨⟨_, by omega, rfl⟩, List.forall_mem_cons.mpr
      ⟨⟨_, by omega, rfl⟩, fun char member => nomatch member⟩⟩
  | case3 a b =>
    have aSmall : a.toNat < 256 := a.toNat_lt
    have bSmall : b.toNat < 256 := b.toNat_lt
    refine List.forall_mem_cons.mpr ⟨⟨_, by omega, rfl⟩, List.forall_mem_cons.mpr
      ⟨⟨_, by omega, rfl⟩, List.forall_mem_cons.mpr ⟨⟨_, by omega, rfl⟩,
        fun char member => nomatch member⟩⟩⟩
  | case4 a b c rest hypothesis =>
    have aSmall : a.toNat < 256 := a.toNat_lt
    have bSmall : b.toNat < 256 := b.toNat_lt
    have cSmall : c.toNat < 256 := c.toNat_lt
    refine List.forall_mem_cons.mpr ⟨⟨_, by omega, rfl⟩, List.forall_mem_cons.mpr
      ⟨⟨_, by omega, rfl⟩, List.forall_mem_cons.mpr ⟨⟨_, by omega, rfl⟩,
        List.forall_mem_cons.mpr ⟨⟨_, by omega, rfl⟩, hypothesis⟩⟩⟩⟩

theorem encode_ne_nil (alphabet : Alphabet) (pad : Bool) {bytes : List UInt8}
    (notEmpty : bytes ≠ []) : encode alphabet pad bytes ≠ [] := by
  intro nil
  have decoded := decode_encode alphabet pad bytes
  rw [nil] at decoded
  exact notEmpty (Option.some.inj decoded).symm

/-- Digits in whole groups always decode, three bytes a group. -/
theorem decode_digits (alphabet : Alphabet) (pad : Bool) (groups : Nat) (text : List Char)
    (length : text.length = 4 * groups)
    (digits : ∀ char ∈ text, ∃ digit, alphabet.value char = some digit) :
    ∃ bytes, decode alphabet pad text = some bytes ∧ bytes.length = 3 * groups := by
  induction groups generalizing text with
  | zero =>
    obtain rfl := List.eq_nil_of_length_eq_zero length
    exact ⟨[], rfl, rfl⟩
  | succ groups hypothesis =>
    obtain ⟨w, x, y, z, rest, rfl⟩ : ∃ w x y z rest, text = w :: x :: y :: z :: rest := by
      match text, length with
      | w :: x :: y :: z :: rest, _ => exact ⟨w, x, y, z, rest, rfl⟩
    obtain ⟨wDigit, wValue⟩ := digits w (by simp)
    obtain ⟨xDigit, xValue⟩ := digits x (by simp)
    obtain ⟨yDigit, yValue⟩ := digits y (by simp)
    obtain ⟨zDigit, zValue⟩ := digits z (by simp)
    obtain ⟨later, laterDecoded, laterLength⟩ := hypothesis rest
      (by simp only [List.length_cons] at length; omega)
      (fun char member => digits char (by simp [member]))
    have notPad : z ≠ '=' := by
      rintro rfl
      rw [alphabet.value_pad] at zValue
      cases zValue
    rw [decode_group pad rest notPad, laterDecoded, decodeThree, wValue, xValue, yValue, zValue]
    refine ⟨_, rfl, ?_⟩
    simp only [List.length_append, List.length_cons, List.length_nil, laterLength]
    omega

end Juicity.Machine.Base64
