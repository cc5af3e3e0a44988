import Mathlib.Data.List.Basic

/-!
Contract: the values of the items of a list, of which each may be missing.

They are there when no item lacks one, and each stands where its item stands.
-/

namespace Juicity.Machine

theorem mapM_eq_some_iff {Item Value : Type} {function : Item → Option Value} {items : List Item}
    {values : List Value} :
    items.mapM function = some values ↔ items.map function = values.map some := by
  induction items generalizing values with
  | nil =>
      cases values with
      | nil => simp
      | cons value values => simp
  | cons item items inductionHypothesis =>
      cases values with
      | nil => simp [Option.bind_eq_some_iff]
      | cons value values => simp [Option.bind_eq_some_iff, inductionHypothesis]

/-- All items have values when each of them has one. -/
theorem exists_map_some {Item Value : Type} {function : Item → Option Value} {items : List Item}
    (whole : ∀ item ∈ items, function item ≠ none) :
    ∃ values : List Value, items.map function = values.map some := by
  induction items with
  | nil => exact ⟨[], rfl⟩
  | cons item items inductionHypothesis =>
      rw [List.forall_mem_cons] at whole
      obtain ⟨value, first⟩ := Option.ne_none_iff_exists'.mp whole.1
      obtain ⟨values, mapped⟩ := inductionHypothesis whole.2
      exact ⟨value :: values, by rw [List.map_cons, List.map_cons, first, mapped]⟩

section Collected

variable {Item Value : Type} {function : Item → Option Value} {items : List Item}
  {values : List Value}

theorem length_of_mapM (collected : items.mapM function = some values) :
    values.length = items.length := by
  have mapped := congrArg List.length (mapM_eq_some_iff.mp collected)
  rw [List.length_map, List.length_map] at mapped
  exact mapped.symm

/-- A value stands where its item stands. -/
theorem item_of_mapM (collected : items.mapM function = some values) {index : Nat} {value : Value}
    (found : values[index]? = some value) :
    ∃ item, items[index]? = some item ∧ function item = some value := by
  have mapped := congrArg (·[index]?) (mapM_eq_some_iff.mp collected)
  simp only [List.getElem?_map, found, Option.map_some] at mapped
  obtain ⟨item, present, same⟩ := Option.map_eq_some_iff.mp mapped
  exact ⟨item, present, same⟩

end Collected

end Juicity.Machine
