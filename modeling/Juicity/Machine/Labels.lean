import Mathlib.Data.List.Basic
import Mathlib.Tactic.Common

/-!
Contract: texts of labels with a separator between them.

A text is under the texts that it ends in at a label. The module owns this order,
the texts that a walk over the labels of a text finds, and a label that is in
none of some texts.
-/

namespace Juicity.Machine.Labels

universe u

variable {Item : Type u} {separator : Item} {text part other label rest : List Item}

/-- The text is the part, or ends in the part behind a separator. -/
def Under (separator : Item) (text part : List Item) : Prop :=
  text = part ∨ ∃ front, text = front ++ separator :: part

theorem Under.refl (text : List Item) : Under separator text text := .inl rfl

theorem under_label (label part : List Item) : Under separator (label ++ separator :: part) part :=
  .inr ⟨label, rfl⟩

theorem Under.trans (first : Under separator text part) (second : Under separator part other) :
    Under separator text other := by
  rcases first with rfl | ⟨front, rfl⟩
  · exact second
  · rcases second with rfl | ⟨middle, rfl⟩
    · exact .inr ⟨front, rfl⟩
    · exact .inr ⟨front ++ separator :: middle, by rw [List.append_assoc, List.cons_append]⟩

/-- What a text is under, it ends in. -/
theorem Under.suffix (under : Under separator text part) : part <:+ text := by
  rcases under with rfl | ⟨front, rfl⟩
  · exact List.suffix_rfl
  · exact ⟨front ++ [separator], by rw [List.append_assoc, List.singleton_append]⟩

theorem Under.length_le (under : Under separator text part) : part.length ≤ text.length :=
  under.suffix.length_le

theorem Under.map {Image : Type u} (function : Item → Image) (under : Under separator text part) :
    Under (function separator) (text.map function) (part.map function) := by
  rcases under with rfl | ⟨front, rfl⟩
  · exact .inl rfl
  · exact .inr ⟨front.map function, by rw [List.map_append, List.map_cons]⟩

/-- Behind a label a text is under what it was under. -/
theorem under_cons_label (plain : separator ∉ label) :
    Under separator (label ++ separator :: rest) part ↔
      part = label ++ separator :: rest ∨ Under separator rest part := by
  constructor
  · rintro (rfl | ⟨front, shape⟩)
    · exact .inl rfl
    · right
      rcases List.append_eq_append_iff.mp shape with ⟨extra, rfl, tail⟩ | ⟨extra, rfl, tail⟩
      · cases extra with
        | nil => exact .inl (List.cons.inj tail).2
        | cons first extra =>
            obtain ⟨rfl, same⟩ := List.cons.inj tail
            exact .inr ⟨extra, same⟩
      · cases extra with
        | nil => exact .inl (List.cons.inj tail).2.symm
        | cons first extra =>
            obtain ⟨rfl, _⟩ := List.cons.inj tail
            exact absurd (List.mem_append_right _ List.mem_cons_self) plain
  · rintro (rfl | under)
    · exact .refl _
    · exact (under_label label rest).trans under

/-- A text of one label is under itself only. -/
theorem under_of_notMem (plain : separator ∉ text) : Under separator text part ↔ part = text := by
  constructor
  · rintro (rfl | ⟨front, rfl⟩)
    · rfl
    · exact absurd (List.mem_append_right _ List.mem_cons_self) plain
  · rintro rfl
    exact .refl _

/-! ## The walk over the labels -/

section Walk

variable [DecidableEq Item]

/-- The texts of the labels from each but the last one on. -/
def walk (separator : Item) (text : List Item) : List (List Item) :=
  (List.range ((text.splitOn separator).length - 1)).map fun start =>
    [separator].intercalate ((text.splitOn separator).drop start)

theorem walk_of_notMem (plain : separator ∉ text) : walk separator text = [] := by
  rw [walk, List.splitOn_eq_singleton plain]
  rfl

theorem walk_cons_label (plain : separator ∉ label) (rest : List Item) :
    walk separator (label ++ separator :: rest) =
      (label ++ separator :: rest) :: walk separator rest := by
  have cut := List.splitOn_append_cons_self_of_not_mem plain rest
  have whole : [separator].intercalate (label :: rest.splitOn separator) =
      label ++ separator :: rest := by
    rw [← cut]
    exact List.intercalate_splitOn separator
  obtain ⟨first, later, labels⟩ := List.exists_cons_of_ne_nil (List.splitOn_ne_nil separator rest)
  rw [labels] at whole
  rw [walk, walk, cut, labels, List.length_cons, List.length_cons, Nat.add_sub_cancel,
    Nat.add_sub_cancel, List.range_succ_eq_map, List.map_cons, List.drop_zero, whole, List.map_map]
  rfl

/-- The walk finds what the text is under and has a separator. -/
theorem mem_walk : part ∈ walk separator text ↔ Under separator text part ∧ separator ∈ part := by
  induction measured : text.length using Nat.strongRecOn generalizing text with
  | ind size inductionHypothesis =>
      by_cases more : separator ∈ text
      · obtain ⟨label, rest, rfl, plain⟩ := List.eq_append_cons_of_mem more
        have shorter : rest.length < size := by
          rw [← measured, List.length_append, List.length_cons]
          omega
        rw [walk_cons_label plain, List.mem_cons, under_cons_label plain,
          inductionHypothesis rest.length shorter rfl, or_and_right]
        have inside : separator ∈ label ++ separator :: rest :=
          List.mem_append_right _ List.mem_cons_self
        constructor
        · rintro (rfl | found)
          · exact .inl ⟨rfl, inside⟩
          · exact .inr found
        · rintro (⟨rfl, _⟩ | found)
          · exact .inl rfl
          · exact .inr found
      · rw [walk_of_notMem more, under_of_notMem more]
        constructor
        · intro found
          cases found
        · rintro ⟨rfl, inside⟩
          exact absurd inside more

end Walk

/-! ## A label of its own -/

/-- A label behind which a text is found from no shorter text than it is long. -/
theorem under_of_fresh (plain : separator ∉ label) (short : part.length ≤ label.length)
    (under : Under separator (label ++ separator :: rest) part) : Under separator rest part := by
  rcases (under_cons_label plain).mp under with rfl | under
  · rw [List.length_append, List.length_cons] at short
    omega
  · exact under

/-- A length that none of some texts is over. -/
theorem exists_length (texts : List (List Item)) :
    ∃ length, ∀ text ∈ texts, text.length ≤ length := by
  induction texts with
  | nil => exact ⟨0, List.forall_mem_nil _⟩
  | cons text texts inductionHypothesis =>
      obtain ⟨length, short⟩ := inductionHypothesis
      refine ⟨max text.length length, List.forall_mem_cons.mpr ⟨Nat.le_max_left _ _, ?_⟩⟩
      exact fun other member => Nat.le_trans (short other member) (Nat.le_max_right _ _)

end Juicity.Machine.Labels
