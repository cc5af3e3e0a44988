import Juicity.Gui.Controller.CoreSteps
import Juicity.Gui.Controller.Known
import Juicity.Gui.Controller.ListEdit

/-!
Contract: every operation on nodes, as what it does to the node side. The core,
the files and the notices that go with it are gone; what is left is the list, its
indices, the editor and its sheet.
-/

namespace Juicity.Gui

open Juicity.Common Juicity.Machine

namespace NodeSide

variable (side : NodeSide)

/-! ## Operations -/

/-- Another row is selected, and the editor shows it. -/
def display (index : Nat) : NodeSide := { side with selected := index }.load

/-- New rows are added behind the others, and the first of them is shown. -/
def append (added : List StoredProfile) : NodeSide :=
  { side with profiles := ⟨side.rows ++ added⟩, selected := side.rows.length }.load

/-- The rows and both indices after a list command. -/
def command (index : Nat) (command : ListCommand) : NodeSide :=
  if index ≥ side.rows.length then side
  else
    match command.edit index side.rows with
    | none => side
    | some (rows, remap) =>
        let moved := { side with profiles := ⟨rows⟩, active := remap side.active }
        if command = .duplicate then moved.display (index + 1)
        else if command = .delete ∧ side.selected = index then moved.display (remap side.selected)
        else { moved with selected := remap side.selected }

/-- An open sheet is closed and its fields are copied into the selected row. -/
def commitSheet : NodeSide :=
  match side.advanced with
  | none => side
  | some sheet =>
      ({ side with advanced := none, draft := side.draft.takeAdvanced sheet } : NodeSide).commit

/-- A complete row becomes the active one. -/
def activate (index : Nat) : NodeSide :=
  match side.row index with
  | none => side
  | some target => if missingFields target = [] then { side with active := index } else side

def listDirty : Bool :=
  decide (side.profiles ≠ side.saved.profiles ∨ side.active ≠ side.saved.active)

def dirty : Bool := side.listDirty || (side.row side.selected).any side.draft.unapplied

/-- The saved rows and index, with the editor on the active row. -/
def restore : NodeSide :=
  let profiles := side.saved.profiles.filled
  let active := min side.saved.active (profiles.profiles.length - 1)
  ({ side with profiles, active, selected := active, advanced := none } : NodeSide).load

def revert : NodeSide := if side.dirty = false then side else side.restore

/-- Files were read: `saved` is what they hold, and `listed` whether the list is among
them. Unsaved edits of the list stay. -/
def reload (saved : Saved) (listed : Bool) : NodeSide :=
  let profiles :=
    (if side.listDirty then side.profiles
    else if listed then saved.profiles else side.profiles).filled
  let last := profiles.profiles.length - 1
  let shown : NodeSide := { side with
    profiles
    active := min (if side.listDirty then side.active else saved.active) last
    selected := min side.selected last
    saved }
  if shown.row shown.selected = side.row side.selected then shown
  else ({ shown with advanced := none } : NodeSide).load

end NodeSide

/-- The profiles in a text of links, and the lines skipped; no result is a panic. -/
def Env.links {Digest : Type} (env : Env Digest) (text : String) :
    Option (List StoredProfile × Nat) :=
  (((lines text).map trim).filter (· ≠ "")).foldlM (Controller.importLine env) ([], 0)

namespace Controller

variable {Digest : Type} {env : Env Digest} (answers : Answers) (now : Nat)
  (controller : Controller Digest) {after : Controller Digest}

/-! ## Selection and list -/

theorem nodeSide_selectNode (index : Nat) :
    (controller.selectNode index).nodeSide =
      if index = controller.nodeSide.selected ∨ index ≥ controller.nodeSide.rows.length then
        controller.nodeSide
      else controller.nodeSide.display index := by
  unfold selectNode
  by_cases stays : index = controller.nodes.selected ∨
      index ≥ controller.gui.profiles.profiles.length
  · rw [if_pos stays]
    exact (if_pos stays).symm
  · rw [if_neg stays]
    exact (if_neg stays).symm

theorem nodeSide_addNode (name : String) :
    (controller.addNode name).nodeSide =
      controller.nodeSide.append [{ StoredProfile.default with name := name }] := by
  unfold addNode
  dsimp only
  rw [List.length_append]
  rfl

theorem nodeSide_follow_if {follows : Prop} [Decidable follows] (shown : Controller Digest) :
    (if follows then shown.follow answers now else shown).nodeSide = shown.nodeSide := by
  split
  · rw [nodeSide_follow]
  · rfl

theorem nodeSide_nodeCommand (index : Nat) (command : ListCommand) :
    (controller.nodeCommand answers now index command).nodeSide =
      controller.nodeSide.command index command := by
  unfold nodeCommand NodeSide.command
  dsimp only
  by_cases outside : index ≥ controller.gui.profiles.profiles.length
  · rw [if_pos outside]
    exact (if_pos outside).symm
  · rw [if_neg outside]
    refine Eq.trans ?_ (if_neg outside).symm
    show _ = match command.edit index controller.gui.profiles.profiles with
      | none => _
      | some (rows, remap) => _
    cases done : command.edit index controller.gui.profiles.profiles with
    | none => rfl
    | some result =>
        obtain ⟨rows, remap⟩ := result
        dsimp only
        refine (nodeSide_follow_if answers now _).trans ?_
        split
        · rfl
        · split
          · rename_i deleted
            exact (if_pos deleted).symm
          · rename_i kept
            exact (if_neg kept).symm

/-! ## Editor and sheet -/

theorem nodeSide_commitDraft : controller.commitDraft.nodeSide = controller.nodeSide.commit := by
  have shown : controller.nodeSide.row controller.nodeSide.selected =
      controller.gui.profiles.profiles[controller.nodes.selected]? := rfl
  unfold commitDraft NodeSide.commit
  rw [shown]
  dsimp only
  cases controller.gui.profiles.profiles[controller.nodes.selected]? with
  | none => rfl
  | some profile => rfl

theorem nodeSide_editNode (field : DraftField) (value : String) :
    (controller.editNode field value).nodeSide =
      ({ controller.nodeSide with
        draft := controller.nodeSide.draft.set field value } : NodeSide).commit := by
  rw [editNode, nodeSide_commitDraft]
  rfl

theorem nodeSide_openAdvanced :
    controller.openAdvanced.nodeSide =
      { controller.nodeSide with advanced := some controller.nodeSide.draft } := rfl

theorem nodeSide_editAdvanced (field : DraftField) (value : String) :
    (controller.editAdvanced field value).nodeSide = { controller.nodeSide with
      advanced := controller.nodeSide.advanced.map fun sheet => sheet.set field value } := by
  unfold editAdvanced
  cases opened : controller.nodes.advanced with
  | none =>
      have shut : controller.nodeSide.advanced = none := opened
      rw [shut]
      show controller.nodeSide = { controller.nodeSide with advanced := none }
      rw [← shut]
  | some sheet =>
      have open_ : controller.nodeSide.advanced = some sheet := opened
      rw [open_]
      rfl

theorem nodeSide_commitAdvanced :
    controller.commitAdvanced.nodeSide =
      if controller.nodes.advancedErrors = [] then controller.nodeSide.commitSheet
      else controller.nodeSide := by
  unfold commitAdvanced NodeSide.commitSheet
  by_cases fine : controller.nodes.advancedErrors = []
  · rw [if_neg (fun errors => errors fine), if_pos fine]
    show _ = match controller.nodes.advanced with
      | none => _
      | some sheet => _
    cases controller.nodes.advanced with
    | none => rfl
    | some sheet =>
        dsimp only
        rw [nodeSide_commitDraft]
        rfl
  · rw [if_pos fine, if_neg fine]

theorem nodeSide_cancelAdvanced :
    controller.cancelAdvanced.nodeSide = { controller.nodeSide with advanced := none } := rfl

/-! ## Active node -/

/-- A running core that follows the active node. -/
theorem nodeSide_switch (index : Nat) :
    (if (controller.setWorkingActive index).connected then
        (controller.setWorkingActive index).startActive answers now
      else controller.setWorkingActive index).nodeSide =
      { controller.nodeSide with active := index } := by
  split
  · rw [nodeSide_startActive]
    rfl
  · rfl

theorem nodeSide_setActiveNode :
    (controller.setActiveNode answers now).nodeSide =
      controller.nodeSide.activate controller.nodeSide.selected := by
  unfold setActiveNode NodeSide.activate
  dsimp only
  show _ = match controller.gui.profiles.profiles[controller.nodes.selected]? with
    | none => _
    | some target => _
  cases controller.gui.profiles.profiles[controller.nodes.selected]? with
  | none => rfl
  | some target =>
      dsimp only
      by_cases complete : missingFields target = []
      · rw [if_pos complete, if_pos complete]
        exact nodeSide_switch answers now controller _
      · rw [if_neg complete, if_neg complete]
        rfl

theorem nodeSide_activateNode (index : Nat) :
    (controller.activateNode answers now index).nodeSide =
      controller.nodeSide.activate index := by
  unfold activateNode NodeSide.activate
  show _ = match controller.gui.profiles.profiles[index]? with
    | none => _
    | some target => _
  cases controller.gui.profiles.profiles[index]? with
  | none => rfl
  | some target =>
      dsimp only
      by_cases complete : missingFields target = []
      · rw [if_pos complete, if_pos complete]
        split
        · rename_i same
          rw [← same]
          rfl
        · exact nodeSide_switch answers now controller index
      · rw [if_neg complete, if_neg complete]
        rfl

/-! ## Links -/

/-- Lines are imported behind what is there. -/
theorem foldlM_importLine (env : Env Digest) (first : List StoredProfile) (given : List String)
    (added : List StoredProfile) (skipped : Nat) :
    given.foldlM (importLine env) (first ++ added, skipped) =
      (given.foldlM (importLine env) (added, skipped)).map fun (added, skipped) =>
        (first ++ added, skipped) := by
  induction given generalizing added skipped with
  | nil => rfl
  | cons line rest inductionHypothesis =>
      simp only [List.foldlM_cons, importLine]
      cases importShareLink env.url env.base64 line with
      | ok imported =>
          dsimp only [Option.bind_eq_bind, Option.bind_some]
          rw [List.append_assoc]
          exact inductionHypothesis _ _
      | error failure =>
          cases failure with
          | bail reason => exact inductionHypothesis _ _
          | panicked => rfl

theorem nodeSide_importText {text : String} (taken : controller.importText env text = some after) :
    ∃ added skipped, env.links text = some (added, skipped) ∧
      after.nodeSide = if added = [] then controller.nodeSide
        else controller.nodeSide.append added := by
  unfold importText at taken
  have folded := foldlM_importLine env controller.gui.profiles.profiles
    (((lines text).map trim).filter (· ≠ "")) [] 0
  rw [List.append_nil] at folded
  dsimp only at taken
  rw [folded] at taken
  obtain ⟨⟨profiles, skipped⟩, shifted, rfl⟩ := Option.map_eq_some_iff.mp taken
  obtain ⟨⟨added, lost⟩, read, same⟩ := Option.map_eq_some_iff.mp shifted
  obtain ⟨rfl, rfl⟩ := Prod.mk.inj same
  refine ⟨added, lost, read, ?_⟩
  dsimp only
  rw [List.length_append, Nat.add_sub_cancel_left]
  by_cases none : added = []
  · rw [if_pos (by rw [none]; rfl), if_pos none, none, List.append_nil]
    rfl
  · rw [if_neg (fun empty => none (List.length_eq_zero_iff.mp empty)), if_neg none]
    rfl

/-! ## Save, revert and reload -/

theorem nodeSide_clearSaveNotice :
    controller.clearSaveNotice.nodeSide = controller.nodeSide :=
  congrArg Sides.nodes (sides_clearSaveNotice controller)

theorem nodesDirty_eq : controller.nodesDirty = controller.nodeSide.dirty := rfl

theorem nodeSide_revertNodes : controller.revertNodes.nodeSide = controller.nodeSide.revert := by
  unfold revertNodes NodeSide.revert
  rw [nodesDirty_eq]
  split
  · rfl
  · dsimp only
    rw [nodeSide_clearSaveNotice, GuiState.normalizeSelectedIndex_eq]
    rfl

/-- A save changes the saved nodes only: they become the working list, with the old
saved index or the working one, or they stay. -/
theorem SaveRun.nodeSide {flag : Bool} (run : SaveRun env answers controller after flag) :
    after.nodeSide = { controller.nodeSide with saved := after.saved } ∧
      (after.saved = controller.saved ∨ after.saved.profiles = controller.gui.profiles ∧
        (after.saved.active =
            min controller.saved.active (controller.gui.profiles.profiles.length - 1) ∨
          after.saved.active =
            min controller.gui.runtime.selectedProfile
              (controller.gui.profiles.profiles.length - 1))) := by
  have listed : (controller.saveRefusal.1.listSaved env).nodeSide =
      { controller.nodeSide with saved := (controller.saveRefusal.1.listSaved env).saved } := by
    rcases listSaved_cases env controller.saveRefusal.1 with same | stored
    · rw [same]
      rfl
    · rw [stored]
      rfl
  have stored : (controller.saveRefusal.1.listSaved env).saved = controller.saved ∨
      (controller.saveRefusal.1.listSaved env).saved.profiles = controller.gui.profiles ∧
        (controller.saveRefusal.1.listSaved env).saved.active =
          min controller.saved.active (controller.gui.profiles.profiles.length - 1) := by
    rcases listSaved_cases env controller.saveRefusal.1 with same | stored
    · rw [same]
      exact .inl rfl
    · rw [stored]
      exact .inr ⟨rfl, rfl⟩
  cases run with
  | clean | refused | listFailed => exact ⟨rfl, .inl rfl⟩
  | indexFailed error attempted reached changed failed =>
      refine ⟨listed, ?_⟩
      rcases stored with same | ⟨profiles, active⟩
      · exact .inl same
      · exact .inr ⟨profiles, .inl active⟩
  | listOnly attempted reached same =>
      rw [nodeSide_clearSaveNotice, clearSaveNotice_saved]
      refine ⟨listed, ?_⟩
      rcases stored with same | ⟨profiles, active⟩
      · exact .inl same
      · exact .inr ⟨profiles, .inl active⟩
  | indexToo attempted reached changed written =>
      rw [nodeSide_clearSaveNotice, clearSaveNotice_saved]
      constructor
      · exact congrArg (fun side : NodeSide => { side with saved :=
          { (controller.saveRefusal.1.listSaved env).saved with
            active := controller.nextSaved.active } }) listed
      · exact .inr ⟨profiles_listSaved env controller, .inr rfl⟩

variable [DecidableEq Digest]

omit [DecidableEq Digest] in
theorem sides_followConfig (old : AppConfig) :
    (controller.followConfig answers old).sides = controller.sides := by
  unfold followConfig
  dsimp only
  have restarted := sides_restartPac answers controller
    (decide (old.pacListen ≠ controller.gui.config.pacListen))
  generalize controller.restartPac answers
    (decide (old.pacListen ≠ controller.gui.config.pacListen)) = restart at restarted ⊢
  obtain ⟨middle, outcome⟩ := restart
  cases outcome with
  | error => exact restarted
  | ok =>
      dsimp only
      split
      · rw [sides_applyProxy]
        exact restarted
      · exact restarted

omit [DecidableEq Digest] in
theorem nodeSide_rebase (before : Controller Digest) (files : List ConfigFile) :
    (controller.rebase before files).nodeSide =
      let profiles :=
        (if before.nodeSide.listDirty then controller.gui.profiles
        else if .profiles ∈ files then controller.saved.profiles
        else controller.gui.profiles).filled
      { controller.nodeSide with
        profiles
        active := min (if before.nodeSide.listDirty then before.nodeSide.active
          else controller.saved.active) (profiles.profiles.length - 1) } := by
  unfold rebase
  dsimp only
  rw [GuiState.normalizeSelectedIndex_eq]
  by_cases edited : before.listDirty = true
  · have same : before.nodeSide.listDirty = true := edited
    simp only [if_pos edited, if_pos same]
    split
    · rfl
    · rfl
  · have same : ¬before.nodeSide.listDirty = true := edited
    simp only [if_neg edited, if_neg same]
    rfl

omit [DecidableEq Digest] in
theorem nodeSide_afterReload (edited : Option StoredProfile) :
    (controller.afterReload edited).nodeSide =
      let shown : NodeSide := { controller.nodeSide with
        selected := min controller.nodeSide.selected (controller.nodeSide.rows.length - 1) }
      if shown.row shown.selected = edited then shown
      else ({ shown with advanced := none } : NodeSide).load := by
  unfold afterReload
  dsimp only
  split
  · rename_i same
    exact (if_pos same).symm
  · rename_i differ
    exact (if_neg differ).symm

theorem nodeSide_shown (env : Env Digest) :
    (controller.shown env now).nodeSide =
      controller.nodeSide.reload (controller.loaded env now).saved
        (decide (.profiles ∈ controller.reloaded env)) := by
  rw [shown, nodeSide_afterReload, nodeSide_rebase]
  simp only [NodeSide.reload, decide_eq_true_eq]
  rfl

theorem nodeSide_onFilesChanged (env : Env Digest) :
    (controller.onFilesChanged env answers now).nodeSide =
      if controller.reloaded env = [] then controller.nodeSide
      else controller.nodeSide.reload (controller.loaded env now).saved
        (decide (.profiles ∈ controller.reloaded env)) := by
  rw [onFilesChanged_eq]
  split
  · rename_i none
    rw [loaded_of_reloaded_nil controller none]
    rfl
  · split
    · rw [← nodeSide_shown]
      exact congrArg Sides.nodes (sides_followConfig answers _ _)
    · rw [nodeSide_shown]

end Controller

end Juicity.Gui
