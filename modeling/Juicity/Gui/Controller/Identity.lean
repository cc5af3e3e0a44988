import Juicity.Gui.Controller.Editor

/-!
Owns the identities of nodes, as ghosts beside the controller: every row of the
working list and of the saved list has a name, kept by edits, moves and saves, and
given back by a revert. A row that is added, copied or read from a file gets a
fresh name; a row that the editor stays on across a reload keeps its own.

Contract: the names are distinct, there is one for each row, and the draft was
loaded from the row that is selected.
-/

namespace Juicity.Gui

open Juicity.Common Juicity.Machine

/-- Names of the rows, of the node the draft was loaded from, and of the node the sheet
was opened for. Names from `next` on are fresh. -/
structure Names where
  working : List Nat
  saved : List Nat
  draft : Option Nat
  sheet : Option Nat
  next : Nat

namespace Names

variable (names : Names) (side : NodeSide)

/-- The names of a controller that was started. -/
def start : Names where
  working := List.range side.rows.length
  saved := List.range side.rows.length
  draft := some side.selected
  sheet := none
  next := side.rows.length

/-- The rows move with their names, and a copy gets a fresh one. -/
def command (index : Nat) (command : ListCommand) : Names :=
  if index ≥ side.rows.length then names
  else
    match command.edit index names.working with
    | none => names
    | some (moved, remap) =>
        match command with
        | .moveUp | .moveDown => { names with working := moved }
        | .duplicate =>
            { names with
              working := names.working.insertIdx (index + 1) names.next
              draft := some names.next
              next := names.next + 1 }
        | .delete =>
            { names with
              working := moved
              draft := if side.selected = index then moved[remap index]? else names.draft }

/-- Rows read from a file get fresh names, but for the one the editor stays on. Edits of
the list that are kept keep their names. -/
def reload (saved : Saved) (listed : Bool) : Names :=
  let read := saved.profiles.profiles
  let fresh := List.range' names.next read.length
  if listed = false then names
  else if side.listDirty then { names with saved := fresh, next := names.next + read.length }
  else
    let selected := min side.selected (read.length - 1)
    if read[selected]? = side.row side.selected then
      let working := (names.working[side.selected]?).elim fresh (fresh.set selected)
      { names with working, saved := working, next := names.next + read.length }
    else
      { working := fresh
        saved := fresh
        draft := fresh[selected]?
        sheet := none
        next := names.next + read.length }

def take : NodeEvent → Names
  | .select index =>
      if index = side.selected ∨ index ≥ side.rows.length then names
      else { names with draft := names.working[index]? }
  | .append added =>
      { names with
        working := names.working ++ List.range' names.next added.length
        draft := some names.next
        next := names.next + added.length }
  | .command index command => names.command side index command
  | .openSheet => { names with sheet := names.working[side.selected]? }
  | .commitSheet | .cancelSheet => { names with sheet := none }
  | .save saved =>
      if saved.profiles = side.profiles then { names with saved := names.working } else names
  | .revert =>
      if side.dirty then
        { names with
          working := names.saved
          draft := names.saved[side.saved.active]?
          sheet := none }
      else names
  | .reload saved listed => names.reload side saved listed
  | .edit _ _ | .activate _ | .editSheet _ _ => names

/-- Every row has one name, and no two rows of a list have the same. -/
structure Tracks (names : Names) (side : NodeSide) : Prop where
  working : names.working.length = side.rows.length
  saved : names.saved.length = side.saved.profiles.profiles.length
  distinct : names.working.Nodup
  savedDistinct : names.saved.Nodup
  used : ∀ name ∈ names.working, name < names.next
  savedUsed : ∀ name ∈ names.saved, name < names.next
  draft : names.draft = names.working[side.selected]?

variable {names side}

theorem tracks_start (coherent : side.Coherent) (saved : side.saved.profiles = side.profiles) :
    (start side).Tracks side where
  working := List.length_range
  saved := by
    rw [saved]
    exact List.length_range
  distinct := List.nodup_range
  savedDistinct := List.nodup_range
  used := fun _ => List.mem_range.mp
  savedUsed := fun _ => List.mem_range.mp
  draft := (List.getElem?_range coherent.selected).symm

/-! ## List commands -/

/-- What a command that edits the list does to the names. -/
structure Moved (names : Names) (side : NodeSide) (index : Nat) (command : ListCommand)
    (rows : List StoredProfile) (remap : Nat → Nat) (after : Names) : Prop where
  inside : index < side.rows.length
  done : command.edit index side.rows = some (rows, remap)
  length : after.working.length = rows.length
  distinct : after.working.Nodup
  used : ∀ name ∈ after.working, name < after.next
  next : names.next ≤ after.next
  kept : ∀ i < side.rows.length, ¬(command = .delete ∧ i = index) →
    after.working[remap i]? = names.working[i]?
  copy : command = .duplicate → after.working[index + 1]? = some names.next
  neighbour : command = .delete → after.working[remap index]? =
    names.working[if index + 1 < side.rows.length then index + 1 else index - 1]?
  gone : command = .delete → ∀ name ∈ after.working, names.working[index]? ≠ some name
  draft : after.draft =
    if command = .duplicate then some names.next
    else if command = .delete ∧ side.selected = index then after.working[remap index]?
    else names.draft
  saved : after.saved = names.saved
  sheet : after.sheet = names.sheet

/-- Moved and deleted rows take their names along. -/
theorem moved_of_edit (tracks : names.Tracks side) {index : Nat} {command : ListCommand}
    (moves : command ≠ .duplicate) {rows : List StoredProfile} {moved : List Nat}
    {remap : Nat → Nat} (inside : index < side.rows.length)
    (done : command.edit index side.rows = some (rows, remap))
    (named : command.edit index names.working = some (moved, remap)) :
    Moved names side index command rows remap
      { names with
        working := moved
        draft := if command = .delete ∧ side.selected = index then moved[remap index]?
          else names.draft } := by
  have known : index < names.working.length := by rw [tracks.working]; exact inside
  obtain ⟨distinct, subset⟩ := nodup_edit named moves tracks.distinct
  exact {
    inside, done, distinct
    length := by rw [length_edit known named, length_edit inside done, tracks.working]
    used := fun name member => tracks.used name (subset member)
    next := Nat.le_refl _
    kept := fun i bound stays => getElem?_edit known named (by rw [tracks.working]; exact bound) stays
    copy := fun duplicates => absurd duplicates moves
    neighbour := fun deletes => by
      rw [getElem?_neighbour known named deletes, tracks.working]
    gone := fun deletes name member held => by
      obtain ⟨_, rfl⟩ := List.getElem?_eq_some_iff.mp held
      exact deleted_notMem known named deletes tracks.distinct member
    draft := (if_neg moves).symm
    saved := rfl
    sheet := rfl }

/-- A copy gets a fresh name. -/
theorem moved_of_copy (tracks : names.Tracks side) {index : Nat} {rows : List StoredProfile}
    {remap : Nat → Nat} (inside : index < side.rows.length)
    (done : ListCommand.duplicate.edit index side.rows = some (rows, remap)) :
    Moved names side index .duplicate rows remap
      { names with
        working := names.working.insertIdx (index + 1) names.next
        draft := some names.next
        next := names.next + 1 } := by
  have known : index + 1 ≤ names.working.length := by rw [tracks.working]; exact inside
  have permuted := List.perm_insertIdx names.next names.working known
  exact {
    inside, done
    length := by
      rw [List.length_insertIdx_of_le_length known, length_edit inside done, tracks.working,
        if_pos rfl]
    distinct := permuted.nodup_iff.mpr (List.nodup_cons.mpr
      ⟨fun old => Nat.lt_irrefl _ (tracks.used _ old), tracks.distinct⟩)
    used := fun name member => by
      rcases List.mem_cons.mp (permuted.subset member) with rfl | old
      · exact Nat.lt_succ_self _
      · exact Nat.lt_succ_of_lt (tracks.used name old)
    next := Nat.le_succ _
    kept := fun i _ _ => getElem?_insertIdx_remap inside done rfl _ _ i
    copy := fun _ => by
      rw [List.getElem?_insertIdx_self, if_pos known]
    neighbour := fun deletes => nomatch deletes
    gone := fun deletes => nomatch deletes
    draft := (if_pos rfl).symm
    saved := rfl
    sheet := rfl }

/-- A list command does to the names what it does to the rows. -/
theorem command_cases (tracks : names.Tracks side) (index : Nat) (command : ListCommand) :
    (names.command side index command = names ∧ side.command index command = side ∧
        (side.rows.length ≤ index ∨ command.edit index side.rows = none)) ∨
      ∃ rows remap, Moved names side index command rows remap (names.command side index command) ∧
        side.command index command =
          let moved := { side with profiles := ⟨rows⟩, active := remap side.active }
          if command = .duplicate then moved.display (index + 1)
          else if command = .delete ∧ side.selected = index then
            moved.display (remap side.selected)
          else { moved with selected := remap side.selected } := by
  rcases NodeSide.command_cases side index command with
    ⟨same, refused⟩ | ⟨rows, remap, inside, done, edited⟩
  · refine .inl ⟨?_, same, refused⟩
    unfold Names.command
    rcases refused with outside | none
    · exact if_pos outside
    · by_cases outside : index ≥ side.rows.length
      · exact if_pos outside
      · rw [if_neg outside,
          edit_none_of_length tracks.working (Nat.lt_of_not_le outside) none]
  · refine .inr ⟨rows, remap, ?_, edited⟩
    obtain ⟨moved, named⟩ := edit_of_length inside done tracks.working
    have kept : names.command side index command = _ := if_neg (Nat.not_le_of_lt inside)
    rw [kept, named]
    cases command with
    | moveUp | moveDown => exact moved_of_edit tracks (by decide) inside done named
    | duplicate => exact moved_of_copy tracks inside done
    | delete => simpa using moved_of_edit tracks (by decide) inside done named

/-! ## Every event keeps the names -/

theorem selected_display {index : Nat} (inside : index < side.rows.length) :
    (side.display index).selected = index :=
  Nat.min_eq_left (Nat.le_sub_one_of_lt inside)

theorem Tracks.command (tracks : names.Tracks side) (coherent : side.Coherent) (index : Nat)
    (command : ListCommand) :
    (names.command side index command).Tracks (side.command index command) := by
  rcases command_cases tracks index command with ⟨same, stays, -⟩ | ⟨rows, remap, moved, edited⟩
  · rw [same, stays]
    exact tracks
  · rw [edited]
    dsimp only
    have savedLength := tracks.saved
    have savedDistinct := tracks.savedDistinct
    have savedUsed := tracks.savedUsed
    rw [← moved.saved] at savedLength savedDistinct savedUsed
    have savedUsed := fun name member => Nat.lt_of_lt_of_le (savedUsed name member) moved.next
    by_cases duplicates : command = .duplicate
    · have copied := moved.copy duplicates
      have behind : index + 1 < rows.length := by
        rw [← moved.length]
        exact (List.getElem?_eq_some_iff.mp copied).1
      rw [if_pos duplicates]
      refine ⟨moved.length, savedLength, moved.distinct, savedDistinct, moved.used, savedUsed, ?_⟩
      rw [selected_display behind, moved.draft, if_pos duplicates, copied]
    · rw [if_neg duplicates]
      by_cases deletes : command = .delete ∧ side.selected = index
      · have beside := remap_lt moved.inside moved.done coherent.selected
        rw [if_pos deletes]
        refine ⟨moved.length, savedLength, moved.distinct, savedDistinct, moved.used, savedUsed, ?_⟩
        rw [selected_display beside, moved.draft, if_neg duplicates, if_pos deletes, deletes.2]
      · rw [if_neg deletes]
        refine ⟨moved.length, savedLength, moved.distinct, savedDistinct, moved.used, savedUsed, ?_⟩
        rw [moved.draft, if_neg duplicates, if_neg deletes, tracks.draft]
        exact (moved.kept _ coherent.selected deletes).symm

/-- Names that are not yet used, in order. -/
theorem fresh_used {next count name : Nat} (member : name ∈ List.range' next count) :
    next ≤ name ∧ name < next + count :=
  List.mem_range'_1.mp member

theorem Tracks.append (tracks : names.Tracks side) {added : List StoredProfile}
    (some : added ≠ []) :
    (names.take side (.append added)).Tracks (side.take (.append added)) := by
  have one := List.length_pos_of_ne_nil some
  have rows : (side.append added).rows = side.rows ++ added := rfl
  have fresh : ∀ name ∈ List.range' names.next added.length, name ∉ names.working := by
    intro name member old
    exact Nat.lt_irrefl _ (Nat.lt_of_lt_of_le (tracks.used name old) (fresh_used member).1)
  refine ⟨?_, tracks.saved, ?_, tracks.savedDistinct, ?_, ?_, ?_⟩
  · show (names.working ++ List.range' names.next added.length).length = _
    rw [show side.take (.append added) = side.append added from rfl, rows, List.length_append,
      List.length_append, List.length_range', tracks.working]
  · exact List.nodup_append.mpr ⟨tracks.distinct, List.nodup_range',
      fun old member name new same => fresh name new (same ▸ member)⟩
  · intro name member
    rcases List.mem_append.mp member with old | new
    · exact Nat.lt_of_lt_of_le (tracks.used name old) (Nat.le_add_right _ _)
    · exact (fresh_used new).2
  · exact fun name member => Nat.lt_of_lt_of_le (tracks.savedUsed name member) (Nat.le_add_right _ _)
  · have selected : (side.append added).selected = side.rows.length := by
      show min side.rows.length ((side.rows ++ added).length - 1) = _
      rw [List.length_append]
      omega
    show Option.some names.next =
      (names.working ++ List.range' names.next added.length)[(side.append added).selected]?
    rw [selected, ← tracks.working, List.getElem?_append_right (Nat.le_refl _), Nat.sub_self,
      List.getElem?_range' one]
    rfl

theorem Tracks.save (tracks : names.Tracks side) {saved : Saved} (sound : side.Sound (.save saved)) :
    (names.take side (.save saved)).Tracks (side.take (.save saved)) := by
  show (if _ then _ else _ : Names).Tracks _
  by_cases listed : saved.profiles = side.profiles
  · rw [if_pos listed]
    refine ⟨tracks.working, ?_, tracks.distinct, tracks.distinct, tracks.used, tracks.used,
      tracks.draft⟩
    show _ = saved.profiles.profiles.length
    rw [listed]
    exact tracks.working
  · rw [if_neg listed]
    rcases sound with rfl | ⟨same, -⟩
    · exact tracks
    · exact absurd same listed

theorem Tracks.revert (tracks : names.Tracks side) (coherent : side.Coherent) :
    (names.take side .revert).Tracks (side.take .revert) := by
  show (if _ then _ else _ : Names).Tracks side.revert
  cases edited : side.dirty with
  | false =>
      rw [if_neg (by decide), NodeSide.revert, if_pos edited]
      exact tracks
  | true =>
      rw [if_pos rfl, coherent.revert_eq edited]
      refine ⟨tracks.saved, tracks.saved, tracks.savedDistinct, tracks.savedDistinct,
        tracks.savedUsed, tracks.savedUsed, ?_⟩
      show _ = names.saved[min side.saved.active (side.saved.profiles.profiles.length - 1)]?
      rw [Nat.min_eq_left (Nat.le_sub_one_of_lt coherent.saved)]

/-! ## Reloads -/

/-- What a reload does to the nodes and their names: the list is not read, or only the
saved one, or both are and the editor stays on its row or is loaded again. -/
inductive Reloaded (names : Names) (side : NodeSide) (saved : Saved) : Names → NodeSide → Prop where
  | unread (active : Nat) (unlisted : saved.profiles = side.saved.profiles) :
      Reloaded names side saved names { side with active, saved }
  | edited (active : Nat) :
      Reloaded names side saved
        { names with
          saved := List.range' names.next saved.profiles.profiles.length
          next := names.next + saved.profiles.profiles.length }
        { side with active, saved }
  | followed (selected name : Nat) (inside : selected < saved.profiles.profiles.length)
      (here : names.working[side.selected]? = some name) :
      Reloaded names side saved
        { names with
          working := (List.range' names.next saved.profiles.profiles.length).set selected name
          saved := (List.range' names.next saved.profiles.profiles.length).set selected name
          next := names.next + saved.profiles.profiles.length }
        ⟨saved.profiles, saved.active, selected, side.draft, side.advanced, saved⟩
  | loaded (selected : Nat) (inside : selected < saved.profiles.profiles.length) :
      Reloaded names side saved
        { working := List.range' names.next saved.profiles.profiles.length
          saved := List.range' names.next saved.profiles.profiles.length
          draft := (List.range' names.next saved.profiles.profiles.length)[selected]?
          sheet := none
          next := names.next + saved.profiles.profiles.length }
        (NodeSide.load ⟨saved.profiles, saved.active, selected, side.draft, none, saved⟩)

theorem reloaded_reload (tracks : names.Tracks side) (coherent : side.Coherent) {saved : Saved}
    {listed : Bool} (sound : side.Sound (.reload saved listed)) :
    Reloaded names side saved (names.reload side saved listed) (side.reload saved listed) := by
  obtain ⟨inside, unlisted⟩ := sound
  cases listed with
  | false =>
      rw [NodeSide.reload_kept coherent (.inr rfl)]
      exact .unread _ (unlisted rfl)
  | true =>
      unfold Names.reload
      dsimp only
      rw [if_neg (by decide)]
      cases edited : side.listDirty with
      | true =>
          rw [if_pos rfl, NodeSide.reload_kept coherent (.inl edited)]
          exact .edited _
      | false =>
          have bound : min side.selected (saved.profiles.profiles.length - 1) <
              saved.profiles.profiles.length := by omega
          rw [if_neg Bool.false_ne_true, NodeSide.reload_read edited inside]
          dsimp only
          by_cases same : saved.profiles.profiles[min side.selected
              (saved.profiles.profiles.length - 1)]? = side.row side.selected
          · have here : names.working[side.selected]? = some _ :=
              List.getElem?_eq_getElem (by rw [tracks.working]; exact coherent.selected)
            rw [if_pos same, if_pos same, here]
            exact .followed _ _ bound here
          · rw [if_neg same, if_neg same]
            exact .loaded _ bound

/-- Fresh names of which one gave way to a name in use. -/
theorem fresh_set {next count selected name : Nat} (old : name < next) :
    ((List.range' next count).set selected name).Nodup ∧
      ∀ other ∈ (List.range' next count).set selected name, other < next + count := by
  have unused : name ∉ List.range' next count := fun member =>
    Nat.not_lt_of_le (fresh_used member).1 old
  refine ⟨List.Nodup.set List.nodup_range' unused, fun other member => ?_⟩
  rcases List.mem_or_eq_of_mem_set member with fresh | rfl
  · exact (fresh_used fresh).2
  · exact Nat.lt_of_lt_of_le old (Nat.le_add_right _ _)

theorem Tracks.reloaded {saved : Saved} {after : Names} {shown : NodeSide}
    (tracks : names.Tracks side) (step : Reloaded names side saved after shown) :
    after.Tracks shown := by
  have fresh : ∀ name ∈ List.range' names.next saved.profiles.profiles.length,
      name < names.next + saved.profiles.profiles.length := fun name member => (fresh_used member).2
  cases step with
  | unread active unlisted =>
      refine ⟨tracks.working, ?_, tracks.distinct, tracks.savedDistinct, tracks.used,
        tracks.savedUsed, tracks.draft⟩
      rw [unlisted]
      exact tracks.saved
  | edited active =>
      exact ⟨tracks.working, List.length_range', tracks.distinct, List.nodup_range',
        fun name member => Nat.lt_of_lt_of_le (tracks.used name member) (Nat.le_add_right _ _),
        fresh, tracks.draft⟩
  | followed selected name inside here =>
      have length : ((List.range' names.next saved.profiles.profiles.length).set selected
          name).length = saved.profiles.profiles.length := by
        rw [List.length_set, List.length_range']
      obtain ⟨distinct, used⟩ := fresh_set (tracks.used name (List.mem_of_getElem? here))
      refine ⟨length, length, distinct, distinct, used, used, ?_⟩
      rw [tracks.draft, here]
      exact (List.getElem?_set_self (by rw [List.length_range']; exact inside)).symm
  | loaded selected inside =>
      refine ⟨List.length_range', List.length_range', List.nodup_range', List.nodup_range', fresh,
        fresh, ?_⟩
      show (List.range' names.next saved.profiles.profiles.length)[selected]? =
        (List.range' names.next saved.profiles.profiles.length)[min selected
          (saved.profiles.profiles.length - 1)]?
      rw [Nat.min_eq_left (Nat.le_sub_one_of_lt inside)]

/-- An edit of the selected row keeps every name. -/
theorem Tracks.commit (tracks : names.Tracks side) : names.Tracks side.commit := by
  obtain ⟨rows, length, same⟩ := side.commit_same
  rw [same]
  exact ⟨tracks.working.trans length.symm, tracks.saved, tracks.distinct, tracks.savedDistinct,
    tracks.used, tracks.savedUsed, tracks.draft⟩

/-- The sheet and the active index are no matter of the lists. -/
theorem Tracks.of_same {other : Names} {after : NodeSide} (tracks : names.Tracks side)
    (working : other.working = names.working) (saved : other.saved = names.saved)
    (draft : other.draft = names.draft) (next : other.next = names.next)
    (profiles : after.profiles = side.profiles) (selected : after.selected = side.selected)
    (stored : after.saved = side.saved) : other.Tracks after where
  working := by rw [working, NodeSide.rows, profiles]; exact tracks.working
  saved := by rw [saved, stored]; exact tracks.saved
  distinct := by rw [working]; exact tracks.distinct
  savedDistinct := by rw [saved]; exact tracks.savedDistinct
  used := by rw [working, next]; exact tracks.used
  savedUsed := by rw [saved, next]; exact tracks.savedUsed
  draft := by rw [draft, working, selected]; exact tracks.draft

theorem Tracks.take (tracks : names.Tracks side) (coherent : side.Coherent) {event : NodeEvent}
    (sound : side.Sound event) : (names.take side event).Tracks (side.take event) := by
  cases event with
  | select index =>
      show (if _ then _ else _ : Names).Tracks (if _ then _ else _)
      by_cases stays : index = side.selected ∨ index ≥ side.rows.length
      · rw [if_pos stays, if_pos stays]
        exact tracks
      · have inside := Nat.lt_of_not_le fun outside => stays (.inr outside)
        rw [if_neg stays, if_neg stays]
        refine ⟨tracks.working, tracks.saved, tracks.distinct, tracks.savedDistinct, tracks.used,
          tracks.savedUsed, ?_⟩
        rw [selected_display inside]
  | append added => exact tracks.append sound
  | command index command => exact tracks.command coherent index command
  | edit field value =>
      have typed : names.Tracks { side with draft := side.draft.set field value } :=
        tracks.of_same rfl rfl rfl rfl rfl rfl rfl
      exact typed.commit
  | activate index =>
      show names.Tracks (side.activate index)
      unfold NodeSide.activate
      split
      · exact tracks
      · split
        · exact tracks.of_same rfl rfl rfl rfl rfl rfl rfl
        · exact tracks
  | openSheet | editSheet field value | cancelSheet =>
      exact tracks.of_same rfl rfl rfl rfl rfl rfl rfl
  | commitSheet =>
      show Tracks _ side.commitSheet
      unfold NodeSide.commitSheet
      cases opened : side.advanced with
      | none => exact tracks.of_same rfl rfl rfl rfl rfl rfl rfl
      | some sheet =>
          have taken : { names with sheet := none }.Tracks
              { side with advanced := none, draft := side.draft.takeAdvanced sheet } :=
            tracks.of_same rfl rfl rfl rfl rfl rfl rfl
          exact taken.commit
  | save saved => exact tracks.save sound
  | revert => exact tracks.revert coherent
  | reload saved listed => exact tracks.reloaded (reloaded_reload tracks coherent sound)

/-- A draft whose node changes was loaded from the selected row. -/
theorem loaded_of_draft (tracks : names.Tracks side) (coherent : side.Coherent) {event : NodeEvent}
    (sound : side.Sound event) (other : (names.take side event).draft ≠ names.draft) :
    (side.take event).draft = (side.take event).draftAt (side.take event).selected := by
  cases event with
  | select index =>
      by_cases stays : index = side.selected ∨ index ≥ side.rows.length
      · exact absurd (congrArg Names.draft (if_pos stays)) other
      · have shown : side.take (.select index) = side.display index := if_neg stays
        rw [shown]
        rfl
  | append added => rfl
  | command index command =>
      rcases command_cases tracks index command with ⟨same, -⟩ | ⟨rows, remap, moved, edited⟩
      · exact absurd (congrArg Names.draft same) other
      · have draft := moved.draft
        rw [show side.take (.command index command) = side.command index command from rfl, edited]
        dsimp only
        by_cases duplicates : command = .duplicate
        · rw [if_pos duplicates]
          rfl
        · rw [if_neg duplicates] at draft ⊢
          by_cases deletes : command = .delete ∧ side.selected = index
          · rw [if_pos deletes]
            rfl
          · rw [if_neg deletes] at draft
            exact absurd draft other
  | edit | activate | openSheet | editSheet | commitSheet | cancelSheet => exact absurd rfl other
  | save saved =>
      refine absurd ?_ other
      show (if _ then _ else _ : Names).draft = _
      split
      · rfl
      · rfl
  | revert =>
      show side.revert.draft = side.revert.draftAt side.revert.selected
      unfold NodeSide.revert
      cases edited : side.dirty with
      | false =>
          refine absurd ?_ other
          show (if side.dirty then _ else _ : Names).draft = _
          rw [edited]
          rfl
      | true => rfl
  | reload saved listed =>
      have step := reloaded_reload tracks coherent sound
      change (names.reload side saved listed).draft ≠ names.draft at other
      show (side.reload saved listed).draft =
        (side.reload saved listed).draftAt (side.reload saved listed).selected
      generalize names.reload side saved listed = after at step other
      generalize side.reload saved listed = shown at step
      cases step with
      | unread | edited | followed => exact absurd rfl other
      | loaded => rfl

end Names

/-! ## Runs with names -/

/-- The application with the names of its nodes. -/
structure Tracked (Digest : Type) where
  world : World Digest
  names : Names

section Runs

variable {Digest : Type} [DecidableEq Digest]

/-- The names after an action on the application. -/
def Names.follow (env : Env Digest) (controller : Controller Digest) (names : Names) :
    Action → Names
  | .perform operation answers now =>
      (operation.nodeEvent env answers now controller).elim names (names.take controller.nodeSide)
  | .external _ _ | .rules _ _ => names

def trackedStep (env : Env Digest) (tracked : Tracked Digest) (action : Action) :
    Option (Tracked Digest) :=
  (step env tracked.world action).map fun world =>
    ⟨world, tracked.names.follow env tracked.world.controller action⟩

omit [DecidableEq Digest] in
def Tracked.start (env : Env Digest) (storage : Storage) (moved : ConfigFile → Bool) :
    Tracked Digest :=
  ⟨.start env storage moved, .start (Controller.new env storage moved).nodeSide⟩

variable {env : Env Digest} {storage : Storage} {moved : ConfigFile → Bool}
  {tracked after : Tracked Digest} {action : Action}

theorem trackedStep_eq_some : trackedStep env tracked action = some after ↔
    step env tracked.world action = some after.world ∧
      after.names = tracked.names.follow env tracked.world.controller action := by
  unfold trackedStep
  rw [Option.map_eq_some_iff]
  constructor
  · rintro ⟨world, taken, rfl⟩
    exact ⟨taken, rfl⟩
  · rintro ⟨taken, names⟩
    exact ⟨after.world, taken, by rw [← names]⟩

/-- The names change nothing about what the application does. -/
theorem reachable_of_tracked
    (reached : Reachable (trackedStep env) (.start env storage moved) tracked) :
    Reachable (step env) (.start env storage moved) tracked.world := by
  obtain ⟨history, run⟩ := reached
  induction run with
  | start => exact ⟨[], .start⟩
  | next before taken inductionHypothesis =>
      exact inductionHypothesis.next (trackedStep_eq_some.mp taken).1

/-- The names fit the nodes in one state. -/
structure Tracked.Fits (tracked : Tracked Digest) : Prop where
  coherent : tracked.world.controller.nodeSide.Coherent
  tracks : tracked.names.Tracks tracked.world.controller.nodeSide

omit [DecidableEq Digest] in
theorem fits_start (env : Env Digest) (storage : Storage) (moved : ConfigFile → Bool) :
    (Tracked.start env storage moved).Fits where
  coherent := Controller.coherent_new env storage moved
  tracks := Names.tracks_start (Controller.coherent_new env storage moved) rfl

/-- What an operation does to the nodes and their names is one event. -/
theorem nodeSide_tracked {operation : Operation} {answers : Answers} {now : Nat}
    (taken : trackedStep env tracked (.perform operation answers now) = some after) :
    match operation.nodeEvent env answers now tracked.world.controller with
    | none => after.world.controller.nodeSide = tracked.world.controller.nodeSide ∧
        after.names = tracked.names
    | some event =>
        after.world.controller.nodeSide = tracked.world.controller.nodeSide.take event ∧
          after.names = tracked.names.take tracked.world.controller.nodeSide event := by
  obtain ⟨stepped, names⟩ := trackedStep_eq_some.mp taken
  have side := Controller.nodeSide_perform (step_perform stepped).2.1
  rw [Names.follow] at names
  cases happens : operation.nodeEvent env answers now tracked.world.controller with
  | none =>
      rw [happens] at side names
      exact ⟨side, names⟩
  | some event =>
      rw [happens] at side names
      exact ⟨side, names⟩

/-- A step leaves the nodes and their names alone, or is an event of theirs. -/
theorem trackedStep_cases (taken : trackedStep env tracked action = some after) :
    (after.world.controller.nodeSide = tracked.world.controller.nodeSide ∧
        after.names = tracked.names) ∨
      ∃ operation answers now event, action = .perform operation answers now ∧
        operation.nodeEvent env answers now tracked.world.controller = some event ∧
        after.world.controller.nodeSide = tracked.world.controller.nodeSide.take event ∧
        after.names = tracked.names.take tracked.world.controller.nodeSide event := by
  cases action with
  | perform operation answers now =>
      have change := nodeSide_tracked taken
      cases happens : operation.nodeEvent env answers now tracked.world.controller with
      | none =>
          rw [happens] at change
          exact .inl change
      | some event =>
          rw [happens] at change
          exact .inr ⟨operation, answers, now, event, rfl, happens, change⟩
  | external | rules =>
      obtain ⟨stepped, names⟩ := trackedStep_eq_some.mp taken
      rw [← Option.some.inj stepped]
      exact .inl ⟨rfl, names⟩

theorem Tracked.Fits.step (fits : tracked.Fits)
    (taken : trackedStep env tracked action = some after) : after.Fits := by
  rcases trackedStep_cases taken with
    ⟨side, names⟩ | ⟨operation, answers, now, event, -, happens, side, names⟩
  · exact ⟨by rw [side]; exact fits.coherent, by rw [side, names]; exact fits.tracks⟩
  · have sound := Controller.sound_nodeEvent fits.coherent.saved happens
    exact ⟨by rw [side]; exact fits.coherent.take sound,
      by rw [side, names]; exact fits.tracks.take fits.coherent sound⟩

theorem fits_of_reachable
    (reached : Reachable (trackedStep env) (.start env storage moved) tracked) : tracked.Fits :=
  Reachable.invariant (fits_start env storage moved) (fun _ _ _ fits taken => fits.step taken) reached

end Runs

end Juicity.Gui
