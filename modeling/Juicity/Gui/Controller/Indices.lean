import Juicity.Gui.Coding
import Juicity.Gui.Controller.Identity

/-!
Contract: the active index and the selected index follow their nodes, in every run
from files whose active index lies inside the list.
-/

namespace Juicity.Gui

open Juicity.Common Juicity.Machine

variable {Digest : Type}

namespace Tracked

variable (tracked : Tracked Digest)

def rows : List StoredProfile := tracked.world.controller.gui.profiles.profiles

def active : Nat := tracked.world.controller.gui.runtime.selectedProfile

def selected : Nat := tracked.world.controller.nodes.selected

/-- The node that the active index is on. -/
def activeNode : Option Nat := tracked.names.working[tracked.active]?

/-- The node that the editor is on. -/
def selectedNode : Option Nat := tracked.names.working[tracked.selected]?

/-- The indices lie inside their lists, every row is one node, and the draft belongs to
the selected one: it was loaded from that node, and its valid texts are in the row. -/
structure InPlace : Prop where
  listed : tracked.rows ≠ []
  active : tracked.active < tracked.rows.length
  selected : tracked.selected < tracked.rows.length
  saved : tracked.world.controller.saved.active <
    tracked.world.controller.saved.profiles.profiles.length
  named : tracked.names.working.length = tracked.rows.length
  distinct : tracked.names.working.Nodup
  owner : tracked.names.draft = tracked.selectedNode
  applied : ∀ profile, tracked.world.controller.editedProfile = some profile →
    tracked.world.controller.nodes.draft.applyTo profile = profile

/-- What a command on the row at an index keeps on the same node. -/
structure CommandFollows (index : Nat) (command : ListCommand) (before after : Tracked Digest) :
    Prop where
  rows : ∀ i j name : Nat, before.names.working[i]? = some name →
    after.names.working[j]? = some name → after.rows[j]? = before.rows[i]?
  active : ¬(command = .delete ∧ index = before.active ∧ 1 < before.rows.length) →
    after.activeNode = before.activeNode
  selected : ¬(command = .duplicate ∧ index < before.rows.length) →
    ¬(command = .delete ∧ index = before.selected ∧ 1 < before.rows.length) →
      after.selectedNode = before.selectedNode
  copy : command = .duplicate → index < before.rows.length →
    after.selected = index + 1 ∧ after.rows[index + 1]? = before.rows[index]? ∧
      (∀ name : Nat, name ∈ before.names.working → after.selectedNode ≠ some name) ∧
      after.world.controller.nodes.draft = before.world.controller.gui.draftAt index
  neighbour : command = .delete → index = before.selected → 1 < before.rows.length →
    after.selectedNode = before.names.working[
      if index + 1 < before.rows.length then index + 1 else index - 1]?

/-- Every node with its index, in one state and over every step from it. -/
structure Followed [DecidableEq Digest] (env : Env Digest) : Prop where
  inPlace : tracked.InPlace
  reloads : ∀ action after, trackedStep env tracked action = some after →
    after.selectedNode ≠ tracked.selectedNode →
      after.world.controller.nodes.draft = after.world.controller.gui.draftAt after.selected
  command : ∀ index command answers now after,
    trackedStep env tracked (.perform (.nodeCommand index command) answers now) = some after →
      CommandFollows index command tracked after

end Tracked

/-! ## Commands -/

namespace Names

variable {names : Names} {side : NodeSide}

theorem rows_command {index : Nat} {command : ListCommand} {rows : List StoredProfile}
    {remap : Nat → Nat}
    (edited : side.command index command =
      let moved := { side with profiles := ⟨rows⟩, active := remap side.active }
      if command = .duplicate then moved.display (index + 1)
      else if command = .delete ∧ side.selected = index then
        moved.display (remap side.selected)
      else { moved with selected := remap side.selected }) :
    (side.command index command).rows = rows ∧
      (side.command index command).active = remap side.active := by
  rw [edited]
  dsimp only
  split
  · exact ⟨rfl, rfl⟩
  · split
    · exact ⟨rfl, rfl⟩
    · exact ⟨rfl, rfl⟩

/-- A row and its name are moved to the same place. -/
theorem Moved.row {index : Nat} {command : ListCommand} {rows : List StoredProfile}
    {remap : Nat → Nat} {after : Names} (tracks : names.Tracks side)
    (moved : Moved names side index command rows remap after) {i j name : Nat}
    (old : names.working[i]? = some name) (new : after.working[j]? = some name) :
    rows[j]? = side.rows[i]? := by
  obtain ⟨known, _⟩ := List.getElem?_eq_some_iff.mp old
  have inList : i < side.rows.length := by rw [← tracks.working]; exact known
  by_cases deleted : command = .delete ∧ i = index
  · obtain ⟨deletes, rfl⟩ := deleted
    exact absurd old (moved.gone deletes name (List.mem_of_getElem? new))
  · have place : after.working[remap i]? = after.working[j]? :=
      ((moved.kept i inList deleted).trans old).trans new.symm
    have bound : remap i < after.working.length := by
      rw [moved.length]
      exact remap_lt moved.inside moved.done inList
    rw [← (List.getElem?_inj bound moved.distinct).mp place]
    exact getElem?_edit moved.inside moved.done inList deleted

end Names

variable [DecidableEq Digest] {env : Env Digest} {storage : Storage} {moved : ConfigFile → Bool}
  {tracked after : Tracked Digest} {index now : Nat} {command : ListCommand} {answers : Answers}

omit [DecidableEq Digest] in
/-- A command that is refused keeps every node. -/
theorem Tracked.CommandFollows.of_same (fits : tracked.Fits)
    (side : after.world.controller.nodeSide = tracked.world.controller.nodeSide)
    (names : after.names = tracked.names)
    (refused : tracked.rows.length ≤ index ∨ command.edit index tracked.rows = none) :
    CommandFollows index command tracked after where
  rows := fun i j name old new => by
    obtain ⟨bound, _⟩ := List.getElem?_eq_some_iff.mp old
    rw [names, ← old] at new
    rw [(List.getElem?_inj bound fits.tracks.distinct).mp new.symm]
    exact congrArg (fun side : NodeSide => side.rows[j]?) side
  active := fun _ => by
    rw [activeNode, names]
    exact congrArg (fun side : NodeSide => tracked.names.working[side.active]?) side
  selected := fun _ _ => by
    rw [selectedNode, names]
    exact congrArg (fun side : NodeSide => tracked.names.working[side.selected]?) side
  copy := fun duplicates inside => by
    rcases refused with outside | none
    · exact absurd inside (Nat.not_lt_of_le outside)
    · rw [duplicates] at none
      exact absurd none (duplicate_ne_none inside)
  neighbour := fun deletes here several => by
    rcases refused with outside | none
    · rw [here] at outside
      exact absurd fits.coherent.selected (Nat.not_lt_of_le outside)
    · rw [deletes] at none
      exact absurd none (delete_ne_none (Nat.ne_of_gt several))

theorem commandFollows (fits : tracked.Fits) (valid : tracked.active < tracked.rows.length)
    (taken : trackedStep env tracked (.perform (.nodeCommand index command) answers now) =
      some after) : Tracked.CommandFollows index command tracked after := by
  obtain ⟨side, names⟩ : _ ∧ _ := nodeSide_tracked taken
  rcases Names.command_cases fits.tracks index command with
    ⟨same, stays, refused⟩ | ⟨rows, remap, moved, edited⟩
  · exact .of_same fits (side.trans stays) (names.trans same) refused
  · have tracks := fits.tracks.command fits.coherent index command
    obtain ⟨rowsAre, activeIs⟩ := Names.rows_command edited
    rw [show tracked.names.command tracked.world.controller.nodeSide index command = after.names
      from names.symm] at moved tracks
    rw [show tracked.world.controller.nodeSide.command index command =
      after.world.controller.nodeSide from side.symm] at edited tracks rowsAre activeIs
    have several : command = .delete → 1 < tracked.rows.length := fun deletes =>
      Nat.lt_of_le_of_ne (Nat.succ_le_of_lt (Nat.zero_lt_of_lt moved.inside))
        (several_of_delete moved.done deletes).symm
    dsimp only at edited
    exact {
      rows := fun i j name old new => by
        rw [show after.rows = rows from rowsAre]
        exact moved.row fits.tracks old new
      active := fun stays => by
        rw [Tracked.activeNode, show after.active = _ from activeIs]
        exact moved.kept _ valid fun ⟨deletes, here⟩ => stays ⟨deletes, here.symm, several deletes⟩
      selected := fun notCopied stays => by
        have duplicates : command ≠ .duplicate := fun copies => notCopied ⟨copies, moved.inside⟩
        have deletes : ¬(command = .delete ∧ tracked.world.controller.nodeSide.selected = index) :=
          fun ⟨deletes, here⟩ => stays ⟨deletes, here.symm, several deletes⟩
        rw [if_neg duplicates, if_neg deletes] at edited
        have selected : after.selected = remap tracked.selected := congrArg NodeSide.selected edited
        rw [Tracked.selectedNode, selected]
        exact moved.kept _ fits.coherent.selected deletes
      copy := fun duplicates inside => by
        rw [if_pos duplicates] at edited
        have copied := moved.copy duplicates
        have same := getElem?_copy moved.inside moved.done duplicates
        have behind : index + 1 < rows.length := by
          rw [← moved.length]
          exact (List.getElem?_eq_some_iff.mp copied).1
        have selected : after.selected = index + 1 :=
          (congrArg NodeSide.selected edited).trans (Names.selected_display behind)
        refine ⟨selected, ?_, fun name old => ?_, ?_⟩
        · rw [show after.rows = rows from rowsAre]
          exact same
        · rw [Tracked.selectedNode, selected, copied]
          intro fresh
          exact Nat.ne_of_gt (fits.tracks.used name old) (Option.some.inj fresh)
        · have draft : after.world.controller.nodes.draft =
              (rows[min (index + 1) (rows.length - 1)]?.map DraftData.fromProfile).getD .default :=
            congrArg NodeSide.draft edited
          rw [draft, Nat.min_eq_left (Nat.le_sub_one_of_lt behind), same]
          rfl
      neighbour := fun deletes here several => by
        have duplicates : command ≠ .duplicate := by
          rw [deletes]
          decide
        rw [if_neg duplicates, if_pos ⟨deletes, here.symm⟩] at edited
        have beside := remap_lt moved.inside moved.done fits.coherent.selected
        have selected : after.selected = remap tracked.selected :=
          (congrArg NodeSide.selected edited).trans (Names.selected_display beside)
        rw [Tracked.selectedNode, selected, ← here]
        exact moved.neighbour deletes }

/-! ## Runs -/

theorem inPlace_of_reachable (started : (Controller.new env storage moved).Valid)
    (reached : Reachable (trackedStep env) (.start env storage moved) tracked) : tracked.InPlace := by
  obtain ⟨coherent, tracks⟩ := fits_of_reachable reached
  exact {
    listed := List.ne_nil_of_length_pos (Nat.zero_lt_of_lt coherent.selected)
    active := valid_of_reachable started (reachable_of_tracked reached)
    selected := coherent.selected
    saved := coherent.saved
    named := tracks.working
    distinct := tracks.distinct
    owner := tracks.draft
    applied := coherent.applied }

/-- When another node is selected, the editor is loaded from it. -/
theorem reloads_of_step {action : Action} (fits : tracked.Fits)
    (taken : trackedStep env tracked action = some after)
    (other : after.selectedNode ≠ tracked.selectedNode) :
    after.world.controller.nodes.draft = after.world.controller.gui.draftAt after.selected := by
  have owners : after.names.draft ≠ tracked.names.draft := by
    rw [(fits.step taken).tracks.draft, fits.tracks.draft]
    exact other
  rcases trackedStep_cases taken with
    ⟨-, same⟩ | ⟨operation, answers, now, event, -, happens, side, names⟩
  · exact absurd (congrArg Names.draft same) owners
  · rw [names] at owners
    have loaded := Names.loaded_of_draft fits.tracks fits.coherent
      (Controller.sound_nodeEvent fits.coherent.saved happens) owners
    rw [← side] at loaded
    exact loaded

theorem indices_follow_nodes (started : (Controller.new env storage moved).Valid)
    (reached : Reachable (trackedStep env) (.start env storage moved) tracked) :
    tracked.Followed env where
  inPlace := inPlace_of_reachable started reached
  reloads := fun _ _ taken other => reloads_of_step (fits_of_reachable reached) taken other
  command := fun _ _ _ _ _ taken =>
    commandFollows (fits_of_reachable reached) (inPlace_of_reachable started reached).active taken

/-- The first of two nodes is copied, with the second one active. -/
theorem indices_follow_nodes_copied :
    ∃ tracked : Tracked Bytes,
      Reachable (trackedStep nodesEnv) (.start nodesEnv nodesStorage fun _ => false) tracked ∧
        tracked.rows.length = 3 ∧ tracked.activeNode = some 1 ∧ tracked.active = 2 ∧
        tracked.Followed nodesEnv := by
  have executed : ((exec (trackedStep nodesEnv) (.start nodesEnv nodesStorage fun _ => false)
      [.perform (.nodeCommand 0 .duplicate) .willing 0]).any fun tracked =>
        decide (tracked.rows.length = 3) && decide (tracked.activeNode = some 1) &&
          decide (tracked.active = 2)) = true := by
    decide +kernel
  obtain ⟨tracked, ended, facts⟩ := (Option.any_eq_true _ _).mp executed
  simp only [Bool.and_eq_true, decide_eq_true_eq] at facts
  have reached := reachable_of_exec ended
  have started : (Controller.new nodesEnv nodesStorage fun _ => false).Valid := by
    unfold Controller.Valid
    decide +kernel
  exact ⟨tracked, reached, facts.1.1, facts.1.2, facts.2, indices_follow_nodes started reached⟩

end Juicity.Gui
