import Mathlib.Data.List.Basic

/-!
Contract: texts in which a marker stands in front of the code of a symbol that
may not stand for itself.

A reader gives the codes their meaning, and stops in front of the symbols that
end a text. What was written is read back up to such a symbol, and two ways of
escaping that do not touch the symbols of each other commute.
-/

namespace Juicity.Machine

/-- The symbols that are written as a marker and a code. -/
structure Escape (α : Type) where
  marker : α
  codeOf : α → Option α
  marked : codeOf marker ≠ none

/-- What is read: a meaning behind the marker, and each other symbol as it is shown. -/
structure Unescape {α : Type} (escape : Escape α) (β : Type) where
  meaning : α → Option β
  shown : α → β
  stops : α → Bool
  meaning_codeOf : ∀ char code, escape.codeOf char = some code → meaning code = some (shown char)
  codeOf_of_stops : ∀ char, stops char = true → escape.codeOf char ≠ none

variable {α β : Type}

namespace Escape

variable (escape : Escape α)

def writeOne (char : α) : List α :=
  match escape.codeOf char with
  | none => [char]
  | some code => [escape.marker, code]

def write (text : List α) : List α := text.flatMap escape.writeOne

theorem writeOne_plain {char : α} (plain : escape.codeOf char = none) :
    escape.writeOne char = [char] := by
  unfold writeOne
  rw [plain]

theorem writeOne_coded {char code : α} (coded : escape.codeOf char = some code) :
    escape.writeOne char = [escape.marker, code] := by
  unfold writeOne
  rw [coded]

theorem write_nil : escape.write [] = [] := rfl

theorem write_cons (char : α) (text : List α) :
    escape.write (char :: text) = escape.writeOne char ++ escape.write text := List.flatMap_cons

theorem write_append (front back : List α) :
    escape.write (front ++ back) = escape.write front ++ escape.write back := List.flatMap_append

theorem writeOne_ne_nil (char : α) : escape.writeOne char ≠ [] := by
  unfold writeOne
  split
  all_goals exact List.cons_ne_nil _ _

theorem write_ne_nil {text : List α} (nonempty : text ≠ []) : escape.write text ≠ [] := by
  obtain ⟨char, rest, rfl⟩ := List.exists_cons_of_ne_nil nonempty
  rw [write_cons]
  exact List.append_ne_nil_of_left_ne_nil (writeOne_ne_nil escape char) _

/-- What is written is a symbol that stands for itself, the marker, or a code. -/
theorem mem_write {text : List α} {char : α} (written : char ∈ escape.write text) :
    (char ∈ text ∧ escape.codeOf char = none) ∨ char = escape.marker ∨
      ∃ symbol ∈ text, escape.codeOf symbol = some char := by
  obtain ⟨symbol, member, inside⟩ := List.mem_flatMap.mp written
  cases coded : escape.codeOf symbol with
  | none =>
      rw [writeOne_plain escape coded, List.mem_singleton] at inside
      subst inside
      exact .inl ⟨member, coded⟩
  | some code =>
      rw [writeOne_coded escape coded, List.mem_cons, List.mem_singleton] at inside
      rcases inside with rfl | rfl
      · exact .inr (.inl rfl)
      · exact .inr (.inr ⟨symbol, member, coded⟩)

/-- The marker and the codes of the first are left alone by the second. -/
structure Spares (first second : Escape α) : Prop where
  marker : second.codeOf first.marker = none
  code : ∀ char code, first.codeOf char = some code → second.codeOf code = none
  char : ∀ char code, first.codeOf char = some code → second.codeOf char = none

theorem Spares.write_writeOne {first second : Escape α} (spares : first.Spares second)
    (spared : second.Spares first) (char : α) :
    second.write (first.writeOne char) = first.write (second.writeOne char) := by
  cases coded : first.codeOf char with
  | some code =>
      rw [writeOne_coded first coded, writeOne_plain second (spares.char char code coded),
        write_cons, write_cons, writeOne_plain second spares.marker,
        writeOne_plain second (spares.code char code coded), write_nil, write_cons,
        writeOne_coded first coded, write_nil]
      rfl
  | none =>
      rw [writeOne_plain first coded]
      cases recoded : second.codeOf char with
      | none =>
          rw [write_cons, write_nil, writeOne_plain second recoded, write_cons, write_nil,
            writeOne_plain first coded]
      | some code =>
          rw [write_cons, write_nil, writeOne_coded second recoded, write_cons, write_cons,
            writeOne_plain first spared.marker,
            writeOne_plain first (spared.code char code recoded), write_nil]
          rfl

/-- Two ways of escaping that spare each other commute. -/
theorem Spares.write_comm {first second : Escape α} (spares : first.Spares second)
    (spared : second.Spares first) (text : List α) :
    second.write (first.write text) = first.write (second.write text) := by
  induction text with
  | nil => rfl
  | cons char rest inductionHypothesis =>
      rw [write_cons, write_append, spares.write_writeOne spared, inductionHypothesis,
        write_cons, write_append]

/-! ## Symbols that are their own codes -/

def behind (marker : α) (special : α → Bool) (marked : special marker = true) : Escape α where
  marker := marker
  codeOf := Option.guard special
  marked unmarked := by
    rw [Option.guard_eq_none_iff.mp unmarked] at marked
    cases marked

section Behind

variable {marker mark : α} {special rival : α → Bool} {marked : special marker = true}
  {rivalMarked : rival mark = true}

theorem codeOf_behind {char code : α} :
    (behind marker special marked).codeOf char = some code ↔ char = code ∧ special char = true :=
  Option.guard_eq_some_iff

theorem codeOf_behind_none {char : α} :
    (behind marker special marked).codeOf char = none ↔ special char = false :=
  Option.guard_eq_none_iff

theorem writeOne_behind (char : α) :
    (behind marker special marked).writeOne char =
      if special char then [marker, char] else [char] := by
  by_cases coded : special char = true
  · rw [if_pos coded]
    exact writeOne_coded _ (codeOf_behind.mpr ⟨rfl, coded⟩)
  · rw [if_neg coded]
    exact writeOne_plain _ (codeOf_behind_none.mpr (Bool.eq_false_iff.mpr coded))

/-- Nothing is special for both. -/
theorem behind_spares (apart : ∀ char, special char = true → rival char = false) :
    (behind marker special marked).Spares (behind mark rival rivalMarked) where
  marker := codeOf_behind_none.mpr (apart marker marked)
  code _ _ coded := by
    obtain ⟨rfl, special⟩ := codeOf_behind.mp coded
    exact codeOf_behind_none.mpr (apart _ special)
  char _ _ coded := codeOf_behind_none.mpr (apart _ (codeOf_behind.mp coded).2)

end Behind

end Escape

namespace Unescape

variable {escape : Escape α} (unescape : Unescape escape β) [DecidableEq α]

/-- The text up to a symbol that ends it, and the rest, behind a marker or not. -/
def readFrom : Bool → List α → Option (List β × List α)
  | false, [] => some ([], [])
  | true, [] => none
  | true, code :: rest =>
      match unescape.meaning code with
      | none => none
      | some value => (readFrom false rest).map fun read => (value :: read.1, read.2)
  | false, char :: rest =>
      if char = escape.marker then readFrom true rest
      else if unescape.stops char then some ([], char :: rest)
      else (readFrom false rest).map fun read => (unescape.shown char :: read.1, read.2)

def read (text : List α) : Option (List β × List α) := unescape.readFrom false text

/-- Nothing follows, or a symbol that ends the text. -/
def Ends (rest : List α) : Prop :=
  ∀ char ∈ rest.head?, char ≠ escape.marker ∧ unescape.stops char = true

variable {unescape}

theorem read_ends {rest : List α} (ends : unescape.Ends rest) :
    unescape.read rest = some ([], rest) := by
  cases rest with
  | nil => rfl
  | cons char later =>
      obtain ⟨noMarker, stops⟩ := ends char rfl
      exact (if_neg noMarker).trans (if_pos stops)

theorem read_writeOne (char : α) (rest : List α) :
    unescape.read (escape.writeOne char ++ rest) =
      (unescape.read rest).map fun read => (unescape.shown char :: read.1, read.2) := by
  cases coded : escape.codeOf char with
  | none =>
      have noMarker : char ≠ escape.marker := by
        rintro rfl
        exact escape.marked coded
      have goesOn : ¬unescape.stops char = true := by
        intro stops
        exact unescape.codeOf_of_stops char stops coded
      rw [escape.writeOne_plain coded]
      exact (if_neg noMarker).trans (if_neg goesOn)
  | some code =>
      rw [escape.writeOne_coded coded]
      change unescape.readFrom false (escape.marker :: code :: rest) = _
      rw [readFrom, if_pos rfl, readFrom, unescape.meaning_codeOf char code coded]
      rfl

/-- What was written is read back up to what ends it. -/
theorem read_write (text : List α) {rest : List α} (ends : unescape.Ends rest) :
    unescape.read (escape.write text ++ rest) = some (text.map unescape.shown, rest) := by
  induction text with
  | nil => exact read_ends ends
  | cons char later inductionHypothesis =>
      rw [escape.write_cons, List.append_assoc, read_writeOne, inductionHypothesis]
      rfl

/-- Nothing is left behind a text that nothing ends. -/
theorem read_write_all (text : List α) :
    unescape.read (escape.write text) = some (text.map unescape.shown, []) := by
  rw [← List.append_nil (escape.write text)]
  exact read_write text (by rintro char ⟨⟩)

/-- The rest is not longer than the text. -/
theorem length_readFrom {text : List α} {behindMarker : Bool} {values : List β} {rest : List α}
    (found : unescape.readFrom behindMarker text = some (values, rest)) :
    rest.length ≤ text.length := by
  induction text generalizing behindMarker values with
  | nil =>
      cases behindMarker with
      | false =>
          cases found
          exact Nat.le_refl _
      | true => cases found
  | cons char later inductionHypothesis =>
      have shorter {read : Option (List β × List α)} {value : β}
          (mapped : (read.map fun read => (value :: read.1, read.2)) = some (values, rest)) :
          ∃ front, read = some (front, rest) := by
        obtain ⟨⟨front, back⟩, same, pair⟩ := Option.map_eq_some_iff.mp mapped
        cases pair
        exact ⟨front, same⟩
      rw [List.length_cons]
      cases behindMarker with
      | true =>
          rw [readFrom] at found
          cases meant : unescape.meaning char with
          | none =>
              rw [meant] at found
              cases found
          | some value =>
              rw [meant] at found
              obtain ⟨front, read⟩ := shorter found
              exact Nat.le_succ_of_le (inductionHypothesis read)
      | false =>
          rw [readFrom] at found
          by_cases marked : char = escape.marker
          · rw [if_pos marked] at found
            exact Nat.le_succ_of_le (inductionHypothesis found)
          · rw [if_neg marked] at found
            by_cases stops : unescape.stops char = true
            · rw [if_pos stops] at found
              cases found
              exact Nat.le_refl _
            · rw [if_neg stops] at found
              obtain ⟨front, read⟩ := shorter found
              exact Nat.le_succ_of_le (inductionHypothesis read)

end Unescape

end Juicity.Machine
