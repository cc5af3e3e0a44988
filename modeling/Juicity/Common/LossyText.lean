import Juicity.Common.IpText

/-!
Owns `String::from_utf8_lossy`: bytes that are no text are read sequence by
sequence, and what is there of a character that breaks off is one replacement
character.
-/

namespace Juicity.Common.LossyText

/-- The bytes of a character that starts with the byte; none does with some bytes. -/
def charWidth (first : UInt8) : Nat :=
  if first < 0x80 then 1
  else if first < 0xc2 then 0
  else if first < 0xe0 then 2
  else if first < 0xf0 then 3
  else if first < 0xf5 then 4
  else 0

def isContinuationByte (byte : UInt8) : Bool := byte &&& 0xc0 = 0x80

/-- A byte that can come second; neither overlong forms, surrogates nor what is too large
have one. -/
def isSecond (first second : UInt8) : Bool :=
  isContinuationByte second &&
    !((first = 0xe0 && second < 0xa0) || (first = 0xed && 0x9f < second) ||
      (first = 0xf0 && second < 0x90) || (first = 0xf4 && 0x8f < second))

/-- How many bytes of the first character are there, and at least one. -/
def present (first : UInt8) : Bytes → Nat
  | [] => 1
  | second :: rest =>
      if 2 ≤ charWidth first ∧ isSecond first second then
        2 + ((rest.take (charWidth first - 2)).takeWhile isContinuationByte).length
      else 1

/-- The characters behind some bytes that are read already. -/
def lossyChars : Nat → Bytes → List Char
  | _, [] => []
  | skipped + 1, _ :: rest => lossyChars skipped rest
  | 0, first :: rest =>
      let taken := present first rest
      if taken = charWidth first then
        ((fromUtf8 ((first :: rest).take taken)).elim [] String.toList) ++
          lossyChars (taken - 1) rest
      else '\uFFFD' :: lossyChars (taken - 1) rest

def fromUtf8Lossy (bytes : Bytes) : String :=
  match fromUtf8 bytes with
  | some text => text
  | none => String.ofList (lossyChars 0 bytes)

example : fromUtf8Lossy (utf8 "Hello " ++ 0xf0 :: 0x90 :: 0x80 :: utf8 "World") =
    "Hello \uFFFDWorld" := by
  decide +kernel

theorem fromUtf8Lossy_utf8 (text : String) : fromUtf8Lossy (utf8 text) = text := by
  rw [fromUtf8Lossy, fromUtf8_eq_some_iff.mpr rfl]

/-- The text forms of the standard library. -/
def std : AddrText := { IpText.std with utf8Lossy := fromUtf8Lossy }

theorem std_laws : AddrTextLaws std :=
  { IpText.std_laws with utf8Lossy_utf8 := fromUtf8Lossy_utf8 }

end Juicity.Common.LossyText
