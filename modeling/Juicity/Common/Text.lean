import Juicity.Machine.Form
import Mathlib.Data.List.DropRight

/-!
Owns the functions of `str` the links and the settings rely on: `trim`,
`to_ascii_lowercase`, `split_once`, `lines`, `parse::<u16>` and `parse::<u32>`.
-/

namespace Juicity.Common

open Juicity.Machine

/-- `char::is_whitespace`. -/
def isWhitespace (char : Char) : Bool :=
  let code := char.toNat
  decide ((9 ≤ code ∧ code ≤ 13) ∨ code = 0x20 ∨ code = 0x85 ∨ code = 0xa0 ∨ code = 0x1680 ∨
    (0x2000 ≤ code ∧ code ≤ 0x200a) ∨ code = 0x2028 ∨ code = 0x2029 ∨ code = 0x202f ∨
    code = 0x205f ∨ code = 0x3000)

/-- `str::trim`. -/
def trim (text : String) : String :=
  String.ofList ((text.toList.dropWhile isWhitespace).rdropWhile isWhitespace)

/-- `str::to_ascii_lowercase`. -/
def toAsciiLowercase (text : String) : String :=
  String.ofList (text.toList.map fun char =>
    if 65 ≤ char.toNat ∧ char.toNat ≤ 90 then Char.ofNat (char.toNat + 32) else char)

/-- `str::split_once`. -/
def splitOnce (separator : Char) (text : String) : Option (String × String) :=
  match cut separator text.toList with
  | (front, some back) => some (String.ofList front, String.ofList back)
  | (_, none) => none

/-- `str::parse::<u16>`. -/
def parseU16 (text : List Char) : Option UInt16 :=
  let digits := if text.head? = some '+' then text.tail else text
  if digits ≠ [] ∧ digits.all (isDigitOf 10) ∧ numeral 10 digits ≤ 65535 then
    some (UInt16.ofNat (numeral 10 digits))
  else none

/-- `str::parse::<u32>`. -/
def parseU32 (text : List Char) : Option UInt32 :=
  let digits := if text.head? = some '+' then text.tail else text
  if digits ≠ [] ∧ digits.all (isDigitOf 10) ∧ numeral 10 digits ≤ 4294967295 then
    some (UInt32.ofNat (numeral 10 digits))
  else none

/-- The line before a line feed, without the carriage return it may end in. -/
def stripCarriageReturn (line : List Char) : List Char :=
  if line.getLast? = some '\r' then line.dropLast else line

/-- `str::lines`: what follows the last line feed is a line when it is not empty. -/
def lines (text : String) : List String :=
  let pieces := text.toList.splitOn '\n'
  let ended := pieces.dropLast.map stripCarriageReturn
  let unended := pieces.getLast?.toList.filter (· ≠ [])
  (ended ++ unended).map String.ofList

example : lines "a\r\n\nb\r" = ["a", "", "b\r"] := by decide

/-- A prefix is dropped from the text it begins. -/
theorem dropPrefix?_append (front back : List Char) :
    (front ++ back).dropPrefix? front = some back := by
  induction front with
  | nil => cases back <;> rfl
  | cons char rest inductionHypothesis =>
      rw [List.cons_append, List.dropPrefix?, if_pos (beq_self_eq_true char)]
      exact inductionHypothesis

/-- The first line is what stands in front of the first line feed. -/
theorem lines_append {line : List Char} (free : '\n' ∉ line) (rest : List Char) :
    lines (String.ofList (line ++ '\n' :: rest)) =
      String.ofList (stripCarriageReturn line) :: lines (String.ofList rest) := by
  obtain ⟨piece, pieces, shape⟩ := List.exists_cons_of_ne_nil (List.splitOn_ne_nil '\n' rest)
  unfold lines
  rw [String.toList_ofList, String.toList_ofList,
    List.splitOn_append_cons_self_of_not_mem free, shape]
  simp only [List.dropLast_cons_cons, List.getLast?_cons_cons, List.map_cons, List.cons_append]

theorem stripCarriageReturn_concat (line : List Char) :
    stripCarriageReturn (line ++ ['\r']) = line := by
  rw [stripCarriageReturn, List.getLast?_concat, if_pos rfl, List.dropLast_concat]

/-- A text between characters that are not white space is not trimmed. -/
theorem trim_append {front back : List Char} {first : Char} (begins : front.head? = some first)
    (firstPlain : isWhitespace first = false) (notEmpty : back ≠ [])
    (plain : ∀ char ∈ back, isWhitespace char = false) :
    trim (String.ofList (front ++ back)) = String.ofList (front ++ back) := by
  obtain ⟨rest, rfl⟩ := List.head?_eq_some_iff.mp begins
  obtain ⟨initial, last, rfl⟩ := List.eq_nil_or_concat back |>.resolve_left notEmpty
  have lastPlain : ¬isWhitespace last = true := by
    rw [plain last (by simp)]
    exact Bool.false_ne_true
  have kept : (first :: rest ++ initial.concat last).dropWhile isWhitespace =
      first :: rest ++ initial.concat last :=
    List.dropWhile_cons_of_neg (by rw [firstPlain]; exact Bool.false_ne_true)
  rw [trim, String.toList_ofList, kept, List.concat_eq_append, ← List.append_assoc,
    List.rdropWhile_concat_neg _ _ _ lastPlain]

/-- A text without white space is not trimmed. -/
theorem trim_plain {text : List Char} (plain : ∀ char ∈ text, isWhitespace char = false) :
    trim (String.ofList text) = String.ofList text := by
  have none : ∀ char ∈ text, ¬isWhitespace char = true := by
    intro char member
    rw [plain char member]
    exact Bool.false_ne_true
  have front : text.dropWhile isWhitespace = text := by
    cases text with
    | nil => rfl
    | cons char rest => exact List.dropWhile_cons_of_neg (none char List.mem_cons_self)
  have back : text.rdropWhile isWhitespace = text :=
    List.rdropWhile_eq_self_iff.mpr fun notNil => none _ (List.getLast_mem notNil)
  rw [trim, String.toList_ofList, front, back]

/-- White space in front is trimmed. -/
theorem trim_append_left {front : List Char} (white : ∀ char ∈ front, isWhitespace char = true)
    (text : String) : trim (String.ofList (front ++ text.toList)) = trim text := by
  rw [trim, trim, String.toList_ofList, List.dropWhile_append_of_pos white]

theorem splitOnce_of_notMem {separator : Char} {text : String} (free : separator ∉ text.toList) :
    splitOnce separator text = none := by
  rw [splitOnce, cut_of_notMem free]

theorem splitOnce_append {separator : Char} {front : List Char} (free : separator ∉ front)
    (back : List Char) :
    splitOnce separator (String.ofList (front ++ separator :: back)) =
      some (String.ofList front, String.ofList back) := by
  rw [splitOnce, String.toList_ofList, cut_append free]

/-! ## Numbers as they are written -/

theorem head_toDigits (number : Nat) : (Nat.toDigits 10 number).head? ≠ some '+' := by
  intro plus
  have digit := isDigitOf_of_mem_toDigits (by omega) (by omega) number '+'
    (List.mem_of_mem_head? plus)
  cases digit

theorem parseU16_toDigits (number : UInt16) :
    parseU16 (Nat.toDigits 10 number.toNat) = some number := by
  have digits : (Nat.toDigits 10 number.toNat).all (isDigitOf 10) = true :=
    List.all_eq_true.mpr (isDigitOf_of_mem_toDigits (by omega) (by omega) _)
  have bound := number.toNat_lt
  unfold parseU16
  dsimp only
  rw [if_neg (head_toDigits _), numeral_toDigits (by omega) (by omega),
    if_pos ⟨Nat.toDigits_ne_nil, digits, by omega⟩, UInt16.ofNat_toNat]

theorem parseU32_toDigits (number : UInt32) :
    parseU32 (Nat.toDigits 10 number.toNat) = some number := by
  have digits : (Nat.toDigits 10 number.toNat).all (isDigitOf 10) = true :=
    List.all_eq_true.mpr (isDigitOf_of_mem_toDigits (by omega) (by omega) _)
  have bound := number.toNat_lt
  unfold parseU32
  dsimp only
  rw [if_neg (head_toDigits _), numeral_toDigits (by omega) (by omega),
    if_pos ⟨Nat.toDigits_ne_nil, digits, by omega⟩, UInt32.ofNat_toNat]

end Juicity.Common
