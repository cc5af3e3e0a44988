import Mathlib.Data.List.Nodup
import Mathlib.Data.List.InsertIdx
import Juicity.Gui.Controller.Frames

/-!
Owns what the list commands do to the entries of any list: where an entry goes,
and that the commands see the length of the list only.
-/

namespace Juicity.Gui

variable {α β : Type} {command : ListCommand} {index : Nat} {list edited : List α}
  {other : List β} {remap : Nat → Nat}

/-! ## Exchange -/

theorem swapAt_perm (list : List α) (left right : Nat) : (swapAt list left right).Perm list := by
  unfold swapAt
  split
  · rename_i first second foundFirst foundSecond
    obtain ⟨insideLeft, rfl⟩ := List.getElem?_eq_some_iff.mp foundFirst
    obtain ⟨insideRight, rfl⟩ := List.getElem?_eq_some_iff.mp foundSecond
    exact List.set_set_perm insideLeft insideRight
  · exact .refl list

/-- An entry is found where the exchange puts it. -/
theorem getElem?_swapAt {left right : Nat} (insideLeft : left < list.length)
    (insideRight : right < list.length) (i : Nat) :
    (swapAt list left right)[if i = left then right else if i = right then left else i]? =
      list[i]? := by
  have swapped : swapAt list left right =
      (list.set left list[right]).set right list[left] := by
    unfold swapAt
    rw [List.getElem?_eq_getElem insideLeft, List.getElem?_eq_getElem insideRight]
  rw [swapped]
  by_cases first : i = left
  · rw [if_pos first, List.getElem?_set_self (by rw [List.length_set]; exact insideRight), first,
      List.getElem?_eq_getElem insideLeft]
  · rw [if_neg first]
    by_cases second : i = right
    · rw [if_pos second, second]
      by_cases same : right = left
      · exact absurd (second.trans same) first
      · rw [List.getElem?_set_ne same, List.getElem?_set_self insideLeft,
          List.getElem?_eq_getElem insideRight]
    · rw [if_neg second, List.getElem?_set_ne (Ne.symm second), List.getElem?_set_ne (Ne.symm first)]

/-- An entry is found behind a copy that is put in front of it. -/
theorem getElem?_insertIdx_behind {β : Type} (other : List β) (index : Nat) (copy : β) (i : Nat) :
    (other.insertIdx (index + 1) copy)[if i > index then i + 1 else i]? = other[i]? := by
  by_cases behind : i > index
  · rw [if_pos behind, List.getElem?_insertIdx_of_gt (by omega), Nat.add_sub_cancel]
  · rw [if_neg behind, List.getElem?_insertIdx_of_lt (by omega)]

/-! ## Commands -/

section Done

variable (inside : index < list.length) (done : command.edit index list = some (edited, remap))

include inside done

/-- Every entry but a deleted one is found at its new index. -/
theorem getElem?_edit {i : Nat} (known : i < list.length)
    (kept : ¬ (command = .delete ∧ i = index)) : edited[remap i]? = list[i]? := by
  cases command with
  | moveUp =>
      simp only [ListCommand.edit, Option.ite_none_right_eq_some, Option.some.injEq,
        Prod.mk.injEq] at done
      obtain ⟨above, rfl, rfl⟩ := done
      exact getElem?_swapAt inside (by omega) i
  | moveDown =>
      simp only [ListCommand.edit, Option.ite_none_right_eq_some, Option.some.injEq,
        Prod.mk.injEq] at done
      obtain ⟨below, rfl, rfl⟩ := done
      exact getElem?_swapAt inside below i
  | duplicate =>
      simp only [ListCommand.edit, List.getElem?_eq_getElem inside, Option.map_some,
        Option.some.injEq, Prod.mk.injEq] at done
      obtain ⟨rfl, rfl⟩ := done
      exact getElem?_insertIdx_behind list index list[index] i
  | delete =>
      simp only [ListCommand.edit, Option.ite_none_left_eq_some, Option.some.injEq,
        Prod.mk.injEq] at done
      obtain ⟨several, rfl, rfl⟩ := done
      have different : i ≠ index := fun same => kept ⟨rfl, same⟩
      dsimp only
      by_cases behind : i > index
      · rw [if_pos behind, List.getElem?_eraseIdx, if_neg (by omega), Nat.sub_add_cancel (by omega)]
      · rw [if_neg behind, Nat.min_eq_left (by omega), List.getElem?_eraseIdx, if_pos (by omega)]

/-- The copy stands behind the original. -/
theorem getElem?_copy (duplicates : command = .duplicate) :
    edited[index + 1]? = list[index]? := by
  subst duplicates
  simp only [ListCommand.edit, List.getElem?_eq_getElem inside, Option.map_some,
    Option.some.injEq, Prod.mk.injEq] at done
  obtain ⟨rfl, rfl⟩ := done
  rw [List.getElem?_insertIdx_self, if_pos (by omega), List.getElem?_eq_getElem inside]

/-- The index of a deleted entry becomes that of the next one, or of the one before. -/
theorem getElem?_neighbour (deletes : command = .delete) :
    edited[remap index]? = list[if index + 1 < list.length then index + 1 else index - 1]? := by
  subst deletes
  simp only [ListCommand.edit, Option.ite_none_left_eq_some, Option.some.injEq,
    Prod.mk.injEq] at done
  obtain ⟨several, rfl, rfl⟩ := done
  dsimp only
  rw [if_neg (Nat.lt_irrefl index)]
  by_cases next : index + 1 < list.length
  · rw [if_pos next, Nat.min_eq_left (by omega), List.getElem?_eraseIdx, if_neg (by omega)]
  · rw [if_neg next, Nat.min_eq_right (by omega), List.getElem?_eraseIdx, if_pos (by omega)]
    congr 1
    omega

omit inside in
/-- A list with one entry is not deleted from. -/
theorem several_of_delete (deletes : command = .delete) : list.length ≠ 1 := by
  subst deletes
  simp only [ListCommand.edit, Option.ite_none_left_eq_some] at done
  exact done.1

/-- New indices lie inside the new list. -/
theorem remap_lt {i : Nat} (known : i < list.length) : remap i < edited.length := by
  by_cases deleted : command = .delete ∧ i = index
  · obtain ⟨deletes, rfl⟩ := deleted
    have several := several_of_delete done deletes
    have beside : (if i + 1 < list.length then i + 1 else i - 1) < list.length := by
      split
      · assumption
      · omega
    have found := getElem?_neighbour inside done deletes
    rw [List.getElem?_eq_getElem beside] at found
    exact (List.getElem?_eq_some_iff.mp found).1
  · have found := getElem?_edit inside done known deleted
    rw [List.getElem?_eq_getElem known] at found
    exact (List.getElem?_eq_some_iff.mp found).1

/-- An entry other than the copy is found at its new index whatever the copy is. -/
theorem getElem?_insertIdx_remap {β : Type} (duplicates : command = .duplicate) (other : List β)
    (copy : β) (i : Nat) : (other.insertIdx (index + 1) copy)[remap i]? = other[i]? := by
  subst duplicates
  simp only [ListCommand.edit, List.getElem?_eq_getElem inside, Option.map_some,
    Option.some.injEq, Prod.mk.injEq] at done
  obtain ⟨rfl, rfl⟩ := done
  exact getElem?_insertIdx_behind other index copy i

omit inside in
/-- A command other than Duplicate adds no entry and repeats none. -/
theorem nodup_edit (moves : command ≠ .duplicate) (distinct : list.Nodup) :
    edited.Nodup ∧ edited ⊆ list := by
  cases command with
  | moveUp =>
      simp only [ListCommand.edit, Option.ite_none_right_eq_some, Option.some.injEq,
        Prod.mk.injEq] at done
      obtain ⟨-, rfl, -⟩ := done
      exact ⟨(swapAt_perm _ _ _).nodup_iff.mpr distinct, (swapAt_perm _ _ _).subset⟩
  | moveDown =>
      simp only [ListCommand.edit, Option.ite_none_right_eq_some, Option.some.injEq,
        Prod.mk.injEq] at done
      obtain ⟨-, rfl, -⟩ := done
      exact ⟨(swapAt_perm _ _ _).nodup_iff.mpr distinct, (swapAt_perm _ _ _).subset⟩
  | duplicate => exact absurd rfl moves
  | delete =>
      simp only [ListCommand.edit, Option.ite_none_left_eq_some, Option.some.injEq,
        Prod.mk.injEq] at done
      obtain ⟨-, rfl, -⟩ := done
      exact ⟨distinct.sublist (List.eraseIdx_sublist _ _), List.eraseIdx_subset⟩

/-- A deleted entry is gone. -/
theorem deleted_notMem [BEq α] [LawfulBEq α] (deletes : command = .delete) (distinct : list.Nodup) :
    list[index] ∉ edited := by
  subst deletes
  simp only [ListCommand.edit, Option.ite_none_left_eq_some, Option.some.injEq,
    Prod.mk.injEq] at done
  obtain ⟨-, rfl, -⟩ := done
  rw [← distinct.erase_getElem index inside]
  exact distinct.not_mem_erase

/-- Duplicate adds one entry, Delete takes one away. -/
theorem length_edit : edited.length =
    if command = .duplicate then list.length + 1
    else if command = .delete then list.length - 1
    else list.length := by
  cases command with
  | moveUp =>
      simp only [ListCommand.edit, Option.ite_none_right_eq_some, Option.some.injEq,
        Prod.mk.injEq] at done
      obtain ⟨-, rfl, -⟩ := done
      exact (swapAt_perm _ _ _).length_eq
  | moveDown =>
      simp only [ListCommand.edit, Option.ite_none_right_eq_some, Option.some.injEq,
        Prod.mk.injEq] at done
      obtain ⟨-, rfl, -⟩ := done
      exact (swapAt_perm _ _ _).length_eq
  | duplicate =>
      simp only [ListCommand.edit, List.getElem?_eq_getElem inside, Option.map_some,
        Option.some.injEq, Prod.mk.injEq] at done
      obtain ⟨rfl, -⟩ := done
      exact List.length_insertIdx_of_le_length (by omega) _
  | delete =>
      simp only [ListCommand.edit, Option.ite_none_left_eq_some, Option.some.injEq,
        Prod.mk.injEq] at done
      obtain ⟨-, rfl, -⟩ := done
      exact List.length_eraseIdx_of_lt inside

omit done in
theorem duplicate_ne_none : ListCommand.duplicate.edit index list ≠ none := by
  rw [ListCommand.edit, List.getElem?_eq_getElem inside]
  exact Option.some_ne_none _

omit inside done in
theorem delete_ne_none (several : list.length ≠ 1) : ListCommand.delete.edit index list ≠ none := by
  rw [ListCommand.edit, if_neg several]
  exact Option.some_ne_none _

/-- A command sees the length only. -/
theorem edit_of_length (same : other.length = list.length) :
    ∃ otherEdited, command.edit index other = some (otherEdited, remap) := by
  cases command with
  | moveUp =>
      simp only [ListCommand.edit, Option.ite_none_right_eq_some, Option.some.injEq,
        Prod.mk.injEq] at done ⊢
      obtain ⟨above, _, rfl⟩ := done
      exact ⟨_, above, rfl, rfl⟩
  | moveDown =>
      simp only [ListCommand.edit, Option.ite_none_right_eq_some, Option.some.injEq,
        Prod.mk.injEq] at done ⊢
      obtain ⟨below, _, rfl⟩ := done
      exact ⟨_, by rw [same]; exact below, rfl, rfl⟩
  | duplicate =>
      simp only [ListCommand.edit, List.getElem?_eq_getElem inside,
        List.getElem?_eq_getElem (show index < other.length by rw [same]; exact inside),
        Option.map_some, Option.some.injEq, Prod.mk.injEq] at done ⊢
      obtain ⟨_, rfl⟩ := done
      exact ⟨_, rfl, rfl⟩
  | delete =>
      simp only [ListCommand.edit, Option.ite_none_left_eq_some, Option.some.injEq,
        Prod.mk.injEq] at done ⊢
      obtain ⟨several, _, rfl⟩ := done
      exact ⟨_, by rw [same]; exact several, rfl, by rw [same]⟩

end Done

/-- So does one that is refused. -/
theorem edit_none_of_length (same : other.length = list.length) (inside : index < list.length)
    (refused : command.edit index list = none) : command.edit index other = none := by
  cases accepted : command.edit index other with
  | none => rfl
  | some result =>
      obtain ⟨_, done⟩ := edit_of_length (by rw [same]; exact inside) accepted same.symm
      rw [refused] at done
      cases done

end Juicity.Gui
