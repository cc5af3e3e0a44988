import Mathlib.Data.List.Basic
import Mathlib.Tactic.Common

/-!
Contract: lines that continue the line before, gathered into fields.

A field is a first line and the lines that continue it. Every list of lines is
gathered in one way, and gathering undoes writing the fields out. A filter on
single lines is one on whole fields exactly when every continuation is treated
like the line it continues.
-/

namespace Juicity.Machine

universe u

/-- A first line and the lines that continue it. -/
structure FieldLines (Line : Type u) where
  first : Line
  more : List Line
deriving DecidableEq

namespace FieldLines

variable {Line : Type u} {continues keep : Line → Bool}

def lines (field : FieldLines Line) : List Line := field.first :: field.more

/-- The lines of some fields, written one behind the other. -/
def write (fields : List (FieldLines Line)) : List Line := fields.flatMap lines

/-- Gather lines; a continuation in front of all other lines starts a field of its own. -/
def gather (continues : Line → Bool) : List Line → List (FieldLines Line)
  | [] => []
  | line :: rest =>
      match gather continues rest with
      | [] => [⟨line, []⟩]
      | field :: later =>
          if continues field.first then ⟨line, field.lines⟩ :: later
          else ⟨line, []⟩ :: field :: later

/-- Fields that are told apart in what they are written to. -/
structure Separate (continues : Line → Bool) (fields : List (FieldLines Line)) : Prop where
  more : ∀ field ∈ fields, ∀ line ∈ field.more, continues line = true
  starts : ∀ field ∈ fields.tail, continues field.first = false

theorem write_gather (lines : List Line) : write (gather continues lines) = lines := by
  induction lines with
  | nil => rfl
  | cons line rest inductionHypothesis =>
      unfold gather
      split
      · rename_i none
        rw [none] at inductionHypothesis
        rw [← inductionHypothesis]
        rfl
      · rename_i field later found
        rw [found] at inductionHypothesis
        rw [← inductionHypothesis]
        split
        · rfl
        · rfl

theorem separate_gather (lines : List Line) : Separate continues (gather continues lines) := by
  induction lines with
  | nil => exact ⟨fun _ member => (nomatch member), fun _ member => (nomatch member)⟩
  | cons line rest inductionHypothesis =>
      unfold gather
      split
      · refine ⟨fun field member => ?_, fun _ member => (nomatch member)⟩
        rw [List.mem_singleton.mp member]
        exact fun _ member => nomatch member
      · rename_i field later found
        rw [found] at inductionHypothesis
        obtain ⟨more, starts⟩ := inductionHypothesis
        split
        · rename_i continued
          refine ⟨fun other member => ?_, starts⟩
          rcases List.mem_cons.mp member with rfl | member
          · intro line inside
            rcases List.mem_cons.mp inside with rfl | inside
            · exact continued
            · exact more field List.mem_cons_self line inside
          · exact more other (List.mem_cons_of_mem _ member)
        · rename_i fresh
          refine ⟨fun other member => ?_, fun other member => ?_⟩
          · rcases List.mem_cons.mp member with rfl | member
            · exact fun _ inside => nomatch inside
            · exact more other member
          · rcases List.mem_cons.mp member with rfl | member
            · exact Bool.eq_false_iff.mpr fresh
            · exact starts other member

/-- A field in front is gathered in front of what follows. -/
theorem gather_append {field : FieldLines Line} {rest : List Line}
    (more : ∀ line ∈ field.more, continues line = true)
    (starts : ∀ later ∈ (gather continues rest).head?, continues later.first = false) :
    gather continues (field.lines ++ rest) = field :: gather continues rest := by
  obtain ⟨first, lines⟩ := field
  show gather continues (first :: (lines ++ rest)) = _
  induction lines generalizing first with
  | nil =>
      rw [List.nil_append, gather]
      split
      · rename_i none
        rw [none]
      · rename_i later fields found
        rw [found] at starts ⊢
        rw [if_neg (Bool.eq_false_iff.mp (starts later rfl))]
  | cons line lines inductionHypothesis =>
      have tail := inductionHypothesis line fun other member =>
        more other (List.mem_cons_of_mem _ member)
      have continued : continues line = true := more line List.mem_cons_self
      rw [gather, List.cons_append, tail]
      dsimp only
      rw [if_pos continued]
      rfl

/-- What was written is gathered again. -/
theorem gather_write {fields : List (FieldLines Line)} (separate : Separate continues fields) :
    gather continues (write fields) = fields := by
  induction fields with
  | nil => rfl
  | cons field later inductionHypothesis =>
      have apart : Separate continues later :=
        ⟨fun other member => separate.more other (List.mem_cons_of_mem _ member),
          fun other member => separate.starts other (List.mem_of_mem_tail member)⟩
      have rest := inductionHypothesis apart
      have starts : ∀ next ∈ (gather continues (write later)).head?,
          continues next.first = false := by
        rw [rest]
        exact fun next front => separate.starts next (List.mem_of_mem_head? front)
      show gather continues (field.lines ++ write later) = _
      rw [gather_append (separate.more field List.mem_cons_self) starts, rest]

theorem Separate.filter {fields : List (FieldLines Line)} (separate : Separate continues fields)
    (kept : FieldLines Line → Bool) : Separate continues (fields.filter kept) := by
  refine ⟨fun field member => separate.more field (List.mem_of_mem_filter member), ?_⟩
  intro field member
  apply separate.starts
  cases fields with
  | nil => exact member
  | cons first later =>
      rw [List.filter_cons] at member
      split at member
      · exact List.mem_of_mem_filter member
      · exact List.mem_of_mem_filter (List.mem_of_mem_tail member)

/-- Fields that start no continuation can follow. -/
theorem Separate.append {fields later : List (FieldLines Line)}
    (separate : Separate continues fields)
    (more : ∀ field ∈ later, ∀ line ∈ field.more, continues line = true)
    (starts : ∀ field ∈ later, continues field.first = false) :
    Separate continues (fields ++ later) := by
  constructor
  · intro field member
    rcases List.mem_append.mp member with front | back
    · exact separate.more field front
    · exact more field back
  · intro field member
    cases fields with
    | nil => exact starts field (List.mem_of_mem_tail member)
    | cons first rest =>
        rcases List.mem_append.mp member with front | back
        · exact separate.starts field front
        · exact starts field back

theorem write_append (fields later : List (FieldLines Line)) :
    write (fields ++ later) = write fields ++ write later := List.flatMap_append

theorem mem_write {fields : List (FieldLines Line)} {line : Line} :
    line ∈ write fields ↔ ∃ field ∈ fields, line = field.first ∨ line ∈ field.more := by
  simp [write, lines, List.mem_flatMap]

/-! ## Filtering lines and filtering fields -/

/-- The fields whose first line is kept. -/
def keptFields (keep : Line → Bool) (fields : List (FieldLines Line)) : List (FieldLines Line) :=
  fields.filter fun field => keep field.first

theorem filter_lines_of_kept {field : FieldLines Line} (kept : keep field.first = true)
    (whole : ∀ line ∈ field.more, keep line = true) : field.lines.filter keep = field.lines := by
  rw [List.filter_eq_self]
  exact List.forall_mem_cons.mpr ⟨kept, whole⟩

theorem filter_lines_of_dropped {field : FieldLines Line} (dropped : keep field.first = false) :
    field.lines.filter keep = field.more.filter keep :=
  List.filter_cons_of_neg (Bool.eq_false_iff.mp dropped)

theorem write_keptFields_cons (field : FieldLines Line) (later : List (FieldLines Line)) :
    write (keptFields keep (field :: later)) =
      (if keep field.first then field.lines else []) ++ write (keptFields keep later) := by
  unfold keptFields
  rw [List.filter_cons]
  split
  · rfl
  · rfl

/-- Where no continuation is dropped from a kept field, filtering lines keeps as much as
filtering fields. -/
theorem length_keptFields_le {fields : List (FieldLines Line)}
    (whole : ∀ field ∈ fields, keep field.first = true → ∀ line ∈ field.more, keep line = true) :
    (write (keptFields keep fields)).length ≤ ((write fields).filter keep).length := by
  induction fields with
  | nil => exact Nat.le_refl _
  | cons field later inductionHypothesis =>
      have rest := inductionHypothesis fun other member =>
        whole other (List.mem_cons_of_mem _ member)
      have shape : (write (field :: later)).filter keep =
          field.lines.filter keep ++ (write later).filter keep := List.filter_append _ _
      rw [shape, write_keptFields_cons, List.length_append, List.length_append]
      cases kept : keep field.first with
      | true =>
          rw [filter_lines_of_kept kept (whole field List.mem_cons_self kept)]
          exact Nat.add_le_add_left rest _
      | false =>
          rw [if_neg Bool.false_ne_true, List.length_nil, Nat.zero_add]
          exact Nat.le_trans rest (Nat.le_add_left _ _)

/-- Filtering lines is filtering fields exactly when every continuation is kept with its
field and dropped with its field. -/
theorem filter_write_iff (fields : List (FieldLines Line)) :
    (write fields).filter keep = write (keptFields keep fields) ↔
      ∀ field ∈ fields, ∀ line ∈ field.more, keep line = keep field.first := by
  induction fields with
  | nil => exact ⟨fun _ _ member => (nomatch member), fun _ => rfl⟩
  | cons field later inductionHypothesis =>
      have shape : (write (field :: later)).filter keep =
          field.lines.filter keep ++ (write later).filter keep := List.filter_append _ _
      constructor
      · intro same
        -- a kept field loses no line, or the line would be missing
        have whole : ∀ other ∈ field :: later, keep other.first = true →
            ∀ line ∈ other.more, keep line = true := by
          intro other member kept line inside
          have listed : line ∈ write (keptFields keep (field :: later)) :=
            mem_write.mpr ⟨other, List.mem_filter.mpr ⟨member, kept⟩, .inr inside⟩
          rw [← same] at listed
          exact (List.mem_filter.mp listed).2
        have wholeLater : ∀ other ∈ later, keep other.first = true →
            ∀ line ∈ other.more, keep line = true :=
          fun other member => whole other (List.mem_cons_of_mem _ member)
        rw [shape, write_keptFields_cons] at same
        cases kept : keep field.first with
        | true =>
            rw [filter_lines_of_kept kept (whole field List.mem_cons_self kept), kept] at same
            have rest := inductionHypothesis.mp (List.append_cancel_left same)
            refine List.forall_mem_cons.mpr ⟨fun line inside => ?_, rest⟩
            rw [kept, whole field List.mem_cons_self kept line inside]
        | false =>
            rw [filter_lines_of_dropped kept, kept] at same
            have lengths := congrArg List.length same
            have atLeast := length_keptFields_le wholeLater
            rw [List.length_append] at lengths
            have empty : field.more.filter keep = [] := by
              apply List.eq_nil_of_length_eq_zero
              simp only [Bool.false_eq_true, if_false, List.nil_append] at lengths
              omega
            rw [empty] at same
            have rest := inductionHypothesis.mp same
            refine List.forall_mem_cons.mpr ⟨fun line inside => ?_, rest⟩
            rw [kept]
            exact Bool.eq_false_iff.mpr (List.filter_eq_nil_iff.mp empty line inside)
      · intro together
        obtain ⟨here, rest⟩ := List.forall_mem_cons.mp together
        rw [shape, write_keptFields_cons, inductionHypothesis.mpr rest]
        cases kept : keep field.first with
        | true =>
            rw [filter_lines_of_kept kept fun line inside => (here line inside).trans kept]
            rfl
        | false =>
            have none : field.more.filter keep = [] := by
              rw [List.filter_eq_nil_iff]
              intro line inside
              rw [here line inside, kept]
              exact Bool.false_ne_true
            rw [filter_lines_of_dropped kept, none]
            rfl

end FieldLines

end Juicity.Machine
