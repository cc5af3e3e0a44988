import Mathlib.Data.List.Basic
import Mathlib.Data.List.TakeWhile
import Mathlib.Tactic.Common
import Mathlib.Tactic.IntervalCases

/-!
Contract: positional numerals in bases up to sixteen.

The value of a digit in either case, the value of a digit string, and the run
of digits in front of a text. A numeral written by `Nat.toDigits` is read back
as its number, whatever non-digit follows it.
-/

namespace Juicity.Machine

/-- The value of a digit, letters in either case. -/
def digitValue (base : Nat) (char : Char) : Option Nat :=
  let code := char.toNat
  let value :=
    if 48 ≤ code ∧ code ≤ 57 then code - 48
    else if 97 ≤ code ∧ code ≤ 122 then code - 87
    else if 65 ≤ code ∧ code ≤ 90 then code - 55
    else base
  if value < base then some value else none

def isDigitOf (base : Nat) (char : Char) : Bool := (digitValue base char).isSome

/-- The value of a digit string. -/
def numeral (base : Nat) (digits : List Char) : Nat :=
  digits.foldl (fun value char => value * base + (digitValue base char).getD 0) 0

/-- No digit stands in front. -/
def Stops (base : Nat) (rest : List Char) : Prop :=
  ∀ char ∈ rest.head?, isDigitOf base char = false

variable {base : Nat}

theorem digitValue_digitChar {digit : Nat} (small : digit < base) (hexadecimal : base ≤ 16) :
    digitValue base (Nat.digitChar digit) = some digit := by
  have bound : digit < 16 := by omega
  unfold digitValue
  interval_cases digit <;> simp [Nat.digitChar] <;> omega

/-- The digits are in three ranges of characters. -/
theorem code_of_isDigitOf {char : Char} (digit : isDigitOf base char = true) :
    (48 ≤ char.toNat ∧ char.toNat ≤ 57) ∨ (65 ≤ char.toNat ∧ char.toNat ≤ 90) ∨
      (97 ≤ char.toNat ∧ char.toNat ≤ 122) := by
  by_contra outside
  rw [not_or, not_or] at outside
  unfold isDigitOf digitValue at digit
  simp only [outside.1, outside.2.1, outside.2.2, if_false, Nat.lt_irrefl] at digit
  cases digit

/-- The decimal digits are a range of characters. -/
theorem code_of_isDigitOf_ten {char : Char} (digit : isDigitOf 10 char = true) :
    48 ≤ char.toNat ∧ char.toNat ≤ 57 := by
  by_contra outside
  unfold isDigitOf digitValue at digit
  simp only [outside, if_false] at digit
  split at digit
  · split at digit
    · omega
    · cases digit
  · split at digit
    · split at digit
      · omega
      · cases digit
    · simp at digit

/-- A decimal digit is a hexadecimal one. -/
theorem isDigitOf_sixteen_of_ten {char : Char} (digit : isDigitOf 10 char = true) :
    isDigitOf 16 char = true := by
  have range := code_of_isDigitOf_ten digit
  have small : char.toNat - 48 < 16 := by omega
  unfold isDigitOf digitValue
  simp only [if_pos range, if_pos small, Option.isSome_some]

theorem isDigitOf_of_mem_toDigits (twoOrMore : 1 < base) (hexadecimal : base ≤ 16) (number : Nat) :
    ∀ char ∈ Nat.toDigits base number, isDigitOf base char = true := by
  induction number using Nat.strongRecOn with
  | ind number inductionHypothesis =>
      have digit : ∀ value, value < base → isDigitOf base (Nat.digitChar value) = true := by
        intro value small
        rw [isDigitOf, digitValue_digitChar small hexadecimal]
        rfl
      intro char member
      rw [Nat.toDigits_eq_if twoOrMore] at member
      split at member
      · rw [List.mem_singleton.mp member]
        exact digit number ‹_›
      · have smaller : number / base < number := Nat.div_lt_self (by omega) twoOrMore
        rcases List.mem_append.mp member with high | low
        · exact inductionHypothesis _ smaller char high
        · rw [List.mem_singleton.mp low]
          exact digit _ (Nat.mod_lt _ (by omega))

theorem numeral_toDigits (twoOrMore : 1 < base) (hexadecimal : base ≤ 16) (number : Nat) :
    numeral base (Nat.toDigits base number) = number := by
  induction number using Nat.strongRecOn with
  | ind number inductionHypothesis =>
      rw [Nat.toDigits_eq_if twoOrMore]
      split
      · rename_i small
        simp [numeral, digitValue_digitChar small hexadecimal]
      · have smaller : number / base < number := Nat.div_lt_self (by omega) twoOrMore
        have high := inductionHypothesis _ smaller
        have low : number % base < base := Nat.mod_lt _ (by omega)
        unfold numeral at high ⊢
        rw [List.foldl_append, high]
        simp only [List.foldl_cons, List.foldl_nil, digitValue_digitChar low hexadecimal,
          Option.getD_some]
        exact Nat.div_add_mod' number base

theorem takeWhile_of_stops {rest : List Char} (stops : Stops base rest) :
    rest.takeWhile (isDigitOf base) = [] ∧ rest.dropWhile (isDigitOf base) = rest := by
  cases rest with
  | nil => exact ⟨rfl, rfl⟩
  | cons char rest =>
      have notDigit := stops char rfl
      exact ⟨List.takeWhile_cons_of_neg (by simp [notDigit]),
        List.dropWhile_cons_of_neg (by simp [notDigit])⟩

/-- The run of digits in front of a text. -/
theorem takeWhile_append_of_stops {digits rest : List Char}
    (every : ∀ char ∈ digits, isDigitOf base char = true) (stops : Stops base rest) :
    (digits ++ rest).takeWhile (isDigitOf base) = digits ∧
      (digits ++ rest).dropWhile (isDigitOf base) = rest := by
  obtain ⟨taken, dropped⟩ := takeWhile_of_stops stops
  constructor
  · rw [List.takeWhile_append_of_pos every, taken, List.append_nil]
  · rw [List.dropWhile_append_of_pos every, dropped]

end Juicity.Machine
