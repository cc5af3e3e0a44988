import Mathlib.Data.List.Infix

/-!
Contract: texts of symbols with a width, cut where a symbol begins.

A boundary is the size of a prefix. The last boundary not behind a given place is
there, what stands before it is cut off whole, and it is less than the widest
symbol away from the place.
-/

namespace Juicity.Machine.Widths

variable {α : Type} (width : α → Nat)

def size : List α → Nat
  | [] => 0
  | char :: rest => width char + size rest

/-- A symbol begins at the index, or the text ends there. -/
def isBoundary : List α → Nat → Bool
  | _, 0 => true
  | [], _ + 1 => false
  | char :: rest, index + 1 =>
      decide (width char ≤ index + 1) && isBoundary rest (index + 1 - width char)

/-- The text before an index, if no symbol is split there. -/
def sliceTo : List α → Nat → Option (List α)
  | _, 0 => some []
  | [], _ + 1 => none
  | char :: rest, index + 1 =>
      if width char ≤ index + 1 then
        (sliceTo rest (index + 1 - width char)).map (char :: ·)
      else none

/-- The boundary that is found by going back from an index. -/
def lastBoundary (text : List α) : Nat → Nat
  | 0 => 0
  | index + 1 => if isBoundary width text (index + 1) then index + 1 else lastBoundary text index

variable {width}

theorem size_cons (char : α) (rest : List α) :
    size width (char :: rest) = width char + size width rest := rfl

theorem size_replicate (count : Nat) (char : α) :
    size width (List.replicate count char) = count * width char := by
  induction count with
  | zero => rw [List.replicate_zero, size, Nat.zero_mul]
  | succ count inductionHypothesis =>
      rw [List.replicate_succ, size_cons, inductionHypothesis, Nat.succ_mul, Nat.add_comm]

/-! ## Boundaries -/

theorem isBoundary_size (front back : List α) :
    isBoundary width (front ++ back) (size width front) = true := by
  induction front with
  | nil => rw [size, isBoundary]
  | cons char rest inductionHypothesis =>
      rw [size_cons]
      cases sum : width char + size width rest with
      | zero => rw [isBoundary]
      | succ index =>
          have before : width char ≤ index + 1 := by omega
          have behind : index + 1 - width char = size width rest := by omega
          rw [List.cons_append, isBoundary, behind, inductionHypothesis, decide_eq_true before,
            Bool.and_true]

/-- At a boundary the text before it is cut off. -/
theorem sliceTo_of_isBoundary {text : List α} {index : Nat}
    (boundary : isBoundary width text index = true) :
    ∃ front, sliceTo width text index = some front ∧ front <+: text ∧
      size width front = index := by
  induction text generalizing index with
  | nil =>
      cases index with
      | zero => exact ⟨[], rfl, List.prefix_rfl, rfl⟩
      | succ index => cases boundary
  | cons char rest inductionHypothesis =>
      cases index with
      | zero => exact ⟨[], rfl, List.nil_prefix, rfl⟩
      | succ index =>
          rw [isBoundary, Bool.and_eq_true, decide_eq_true_eq] at boundary
          obtain ⟨front, cut, begins, sized⟩ := inductionHypothesis boundary.2
          refine ⟨char :: front, ?_, List.cons_prefix_cons.mpr ⟨rfl, begins⟩, ?_⟩
          · rw [sliceTo, if_pos boundary.1, cut]
            rfl
          · rw [size_cons, sized]
            omega

theorem lastBoundary_le (text : List α) (index : Nat) :
    lastBoundary width text index ≤ index := by
  induction index with
  | zero => exact Nat.le_refl 0
  | succ index inductionHypothesis =>
      rw [lastBoundary]
      split
      · exact Nat.le_refl _
      · exact Nat.le_succ_of_le inductionHypothesis

theorem isBoundary_lastBoundary (text : List α) (index : Nat) :
    isBoundary width text (lastBoundary width text index) = true := by
  induction index with
  | zero => rw [lastBoundary, isBoundary]
  | succ index inductionHypothesis =>
      rw [lastBoundary]
      split
      · assumption
      · exact inductionHypothesis

/-- No boundary before the index is behind the last one. -/
theorem le_lastBoundary {text : List α} {boundary index : Nat} (before : boundary ≤ index)
    (isOne : isBoundary width text boundary = true) : boundary ≤ lastBoundary width text index := by
  induction index with
  | zero => exact before
  | succ index inductionHypothesis =>
      rw [lastBoundary]
      split
      · exact before
      · rename_i noBoundary
        refine inductionHypothesis (Nat.le_of_lt_succ (Nat.lt_of_le_of_ne before ?_))
        rintro rfl
        exact noBoundary isOne

/-! ## Cutting -/

/-- In a text that is too long one symbol stands across the place. -/
theorem exists_across {text : List α} {room : Nat} (long : room < size width text) :
    ∃ front char back, text = front ++ char :: back ∧ size width front ≤ room ∧
      room < size width front + width char := by
  induction text generalizing room with
  | nil => cases long
  | cons char rest inductionHypothesis =>
      rw [size_cons] at long
      by_cases across : room < width char
      · refine ⟨[], char, rest, rfl, Nat.zero_le _, ?_⟩
        rw [size, Nat.zero_add]
        exact across
      · have longRest : room - width char < size width rest := by omega
        obtain ⟨front, next, back, rfl, fits, crosses⟩ := inductionHypothesis longRest
        refine ⟨char :: front, next, back, rfl, ?_, ?_⟩
        all_goals
          rw [size_cons]
          omega

/-- What is cut off at the last boundary is a prefix that fits and leaves less room than the
widest symbol takes. -/
theorem sliceTo_lastBoundary {text : List α} {room widest : Nat}
    (bounded : ∀ char, width char ≤ widest) (long : room < size width text) :
    ∃ front, sliceTo width text (lastBoundary width text room) = some front ∧ front <+: text ∧
      size width front ≤ room ∧ room < size width front + widest := by
  have boundary : isBoundary width text (lastBoundary width text room) = true :=
    isBoundary_lastBoundary text room
  obtain ⟨front, cut, begins, sized⟩ := sliceTo_of_isBoundary boundary
  refine ⟨front, cut, begins, ?_, ?_⟩
  · rw [sized]
    exact lastBoundary_le text room
  · obtain ⟨before, char, back, rfl, fits, crosses⟩ := exists_across long
    have near := le_lastBoundary fits (isBoundary_size before (char :: back))
    have narrow := bounded char
    omega

end Juicity.Machine.Widths
