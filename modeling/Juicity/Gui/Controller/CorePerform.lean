import Juicity.Gui.Controller.NodeEvents

/-!
Contract: `coreStep_perform` says what any operation but a reload does to the core.
An operation that leaves a running core alone leaves the active node where it is,
unless it restores or replaces the list.
-/

namespace Juicity.Gui

open Juicity.Common Juicity.Machine

namespace Controller

variable {Digest : Type} {env : Env Digest} {answers : Answers} {now : Nat}
  {controller after : Controller Digest} {operation : Operation}

/-! ## Operations on nodes that leave the core alone -/

theorem coreSide_selectNode (index : Nat) :
    (controller.selectNode index).coreSide = controller.coreSide := by
  unfold selectNode
  split
  · rfl
  · rfl

theorem coreSide_commitDraft : controller.commitDraft.coreSide = controller.coreSide := by
  unfold commitDraft
  dsimp only
  split
  · rfl
  · rfl

theorem coreSide_commitAdvanced : controller.commitAdvanced.coreSide = controller.coreSide := by
  unfold commitAdvanced
  split
  · rfl
  · split
    · rfl
    · exact coreSide_commitDraft

theorem coreSide_editAdvanced (field : DraftField) (value : String) :
    (controller.editAdvanced field value).coreSide = controller.coreSide := by
  unfold editAdvanced
  split
  · rfl
  · rfl

theorem coreSide_importText {text : String} (taken : controller.importText env text = some after) :
    after.coreSide = controller.coreSide := by
  obtain ⟨⟨profiles, skipped⟩, -, rfl⟩ := Option.map_eq_some_iff.mp taken
  dsimp only
  split
  · rfl
  · rfl

theorem coreSide_importLinks (taken : controller.importLinks env answers = some after) :
    after.coreSide = controller.coreSide := by
  unfold importLinks at taken
  split at taken
  · exact coreSide_importText taken
  · obtain rfl := Option.some.inj taken
    rfl

theorem coreSide_clearSaveNotice : controller.clearSaveNotice.coreSide = controller.coreSide :=
  congrArg Sides.core (sides_clearSaveNotice controller)

theorem coreSide_revertNodes : controller.revertNodes.coreSide = controller.coreSide := by
  unfold revertNodes
  split
  · rfl
  · dsimp only
    rw [coreSide_clearSaveNotice, GuiState.normalizeSelectedIndex_eq]
    rfl

theorem SaveRun.coreSide {flag : Bool} (run : SaveRun env answers controller after flag) :
    after.coreSide = controller.coreSide := by
  have listed : (controller.saveRefusal.1.listSaved env).coreSide = controller.coreSide := by
    rcases listSaved_cases env controller.saveRefusal.1 with same | stored
    · rw [same]
      rfl
    · rw [stored]
      rfl
  cases run with
  | clean | refused | listFailed => rfl
  | indexFailed => exact listed
  | listOnly =>
      rw [coreSide_clearSaveNotice]
      exact listed
  | indexToo =>
      rw [coreSide_clearSaveNotice]
      exact listed

theorem coreSide_saveNodes (env : Env Digest) (answers : Answers) (controller : Controller Digest) :
    (controller.saveNodes env answers).coreSide = controller.coreSide :=
  (saveRun_writeNodes env answers controller).coreSide

theorem coreSide_answerPrompt (answer : Answer) :
    (controller.answerPrompt env answers answer).1.coreSide = controller.coreSide := by
  unfold answerPrompt
  split
  · rfl
  · cases answer with
    | save =>
        have stored := coreSide_saveNodes env answers controller
        dsimp only
        split
        · exact stored
        · exact stored
    | discard => exact coreSide_revertNodes
    | cancel => rfl

/-! ## Operations on nodes that the core follows -/

/-- A list command is carried out, and then a running core whose node was deleted
follows. -/
theorem nodeCommand_core (answers : Answers) (now : Nat) (controller : Controller Digest)
    (index : Nat) (command : ListCommand) :
    ∃ shown : Controller Digest, shown.coreSide = controller.coreSide ∧
      (controller.nodeCommand answers now index command = shown ∧
          (controller.connected = true → ¬(command = .delete ∧
            index = controller.nodeSide.active ∧ index < controller.nodeSide.rows.length ∧
            1 < controller.nodeSide.rows.length)) ∨
        controller.connected = true ∧
          controller.nodeCommand answers now index command = shown.follow answers now) := by
  unfold nodeCommand
  dsimp only
  by_cases outside : index ≥ controller.gui.profiles.profiles.length
  · rw [if_pos outside]
    exact ⟨controller, rfl, .inl ⟨rfl, fun _ deletes => Nat.not_lt_of_le outside deletes.2.2.1⟩⟩
  · rw [if_neg outside]
    cases done : command.edit index controller.gui.profiles.profiles with
    | none =>
        refine ⟨controller, rfl, .inl ⟨rfl, fun _ ⟨deletes, _, _, several⟩ => ?_⟩⟩
        rw [deletes] at done
        exact delete_ne_none (Nat.ne_of_gt several) done
    | some result =>
        obtain ⟨rows, remap⟩ := result
        dsimp only
        generalize moved : (if command = .duplicate then _ else _ : Controller Digest) = shown
        have core : shown.coreSide = controller.coreSide := by
          rw [← moved]
          split
          · rfl
          · split
            · rfl
            · rfl
        refine ⟨shown, core, ?_⟩
        have running : shown.connected = controller.connected := congrArg CoreSide.connected core
        by_cases follows : command = .delete ∧
            index = controller.gui.runtime.selectedProfile ∧ shown.connected = true
        · rw [if_pos follows, ← running]
          exact .inr ⟨follows.2.2, rfl⟩
        · rw [if_neg follows, ← running]
          exact .inl ⟨rfl, fun connected ⟨deletes, here, _⟩ => follows ⟨deletes, here, connected⟩⟩

/-- Another node was made active, and then a running core follows. -/
theorem coreStep_switch (operation : Operation) (answers : Answers) (now : Nat) {index : Nat}
    {target : StoredProfile}
    (found : controller.nodeSide.row index = some target) (complete : missingFields target = []) :
    let switched := controller.setWorkingActive index
    let after := if switched.connected then switched.startActive answers now else switched
    CoreStep operation answers controller.coreSide after.gui.selectedProfile after.coreSide ∧
      (controller.connected = true → after.coreCalls ≠ controller.coreCalls) := by
  have node : (controller.setWorkingActive index).gui.selectedProfile = some target := found
  dsimp only
  split
  · rename_i running
    have active := selectedProfile_of_nodeSide _
      (nodeSide_startActive answers now (controller.setWorkingActive index))
    rw [active]
    refine ⟨coreStep_startActive answers now (controller.setWorkingActive index), fun _ => ?_⟩
    rw [coreCalls_startActive answers now _ node complete]
    exact List.cons_ne_self _ _
  · rename_i idle
    exact ⟨.kept, fun running => absurd running idle⟩

theorem coreStep_setActiveNode (operation : Operation) :
    CoreStep operation answers controller.coreSide
        (controller.setActiveNode answers now).gui.selectedProfile
        (controller.setActiveNode answers now).coreSide ∧
      (controller.connected = true →
        (controller.setActiveNode answers now).coreCalls = controller.coreCalls →
          (controller.setActiveNode answers now).nodeSide.active = controller.nodeSide.active) := by
  unfold setActiveNode
  dsimp only
  cases found : controller.gui.profiles.profiles[controller.nodes.selected]? with
  | none => exact ⟨.kept, fun _ _ => rfl⟩
  | some target =>
      dsimp only
      by_cases complete : missingFields target = []
      · rw [if_pos complete]
        obtain ⟨step, restarted⟩ := coreStep_switch operation answers now found complete
        exact ⟨step, fun running same => absurd same (restarted running)⟩
      · rw [if_neg complete]
        exact ⟨.kept, fun _ _ => rfl⟩

theorem coreStep_activateNode (operation : Operation) (index : Nat) :
    CoreStep operation answers controller.coreSide
        (controller.activateNode answers now index).gui.selectedProfile
        (controller.activateNode answers now index).coreSide ∧
      (controller.connected = true →
        (controller.activateNode answers now index).coreCalls = controller.coreCalls →
          (controller.activateNode answers now index).nodeSide.active =
            controller.nodeSide.active) := by
  unfold activateNode
  cases found : controller.gui.profiles.profiles[index]? with
  | none => exact ⟨.kept, fun _ _ => rfl⟩
  | some target =>
      dsimp only
      by_cases complete : missingFields target = []
      · rw [if_pos complete]
        by_cases here : controller.gui.runtime.selectedProfile = index
        · rw [if_pos here]
          exact ⟨.kept, fun _ _ => rfl⟩
        · rw [if_neg here]
          obtain ⟨step, restarted⟩ := coreStep_switch operation answers now found complete
          exact ⟨step, fun running same => absurd same (restarted running)⟩
      · rw [if_neg complete]
        exact ⟨.kept, fun _ _ => rfl⟩

theorem coreStep_nodeCommand (operation : Operation) (index : Nat) (command : ListCommand) :
    CoreStep operation answers controller.coreSide
        (controller.nodeCommand answers now index command).gui.selectedProfile
        (controller.nodeCommand answers now index command).coreSide ∧
      (controller.connected = true →
        (controller.nodeCommand answers now index command).coreCalls = controller.coreCalls →
          ¬(command = .delete ∧ index = controller.nodeSide.active ∧
            index < controller.nodeSide.rows.length ∧ 1 < controller.nodeSide.rows.length)) := by
  obtain ⟨shown, core, ⟨same, stays⟩ | ⟨running, followed⟩⟩ :=
    nodeCommand_core answers now controller index command
  · rw [same, core]
    exact ⟨.kept, fun running _ => stays running⟩
  · have connected : shown.connected = true := (congrArg CoreSide.connected core).trans running
    have node := selectedProfile_of_nodeSide shown (nodeSide_follow answers now shown)
    obtain ⟨step, restarted⟩ := coreStep_follow answers now shown operation connected
    rw [followed, ← core, node]
    refine ⟨step, fun _ same => absurd ?_ restarted⟩
    exact same.trans (congrArg CoreSide.calls core).symm

variable [DecidableEq Digest]

/-- What an operation other than a reload does to the core. -/
theorem coreStep_perform (loaded : operation ≠ .onFilesChanged)
    (taken : operation.perform env answers now controller = some after) :
    CoreStep operation answers controller.coreSide after.gui.selectedProfile after.coreSide := by
  have aside (same : after.coreSide = controller.coreSide) :
      CoreStep operation answers controller.coreSide after.gui.selectedProfile after.coreSide := by
    rw [same]
    exact .kept
  have placed (nodes : after.nodeSide = controller.nodeSide)
      (step : CoreStep operation answers controller.coreSide controller.gui.selectedProfile
        after.coreSide) :
      CoreStep operation answers controller.coreSide after.gui.selectedProfile after.coreSide := by
    rw [selectedProfile_of_nodeSide controller nodes]
    exact step
  cases operation with
  | onFilesChanged => exact absurd rfl loaded
  | startup =>
      obtain rfl := Option.some.inj taken
      exact placed (nodeSide_startup answers now controller) (coreStep_startup answers now controller)
  | shutdown =>
      obtain rfl := Option.some.inj taken
      exact placed (nodeSide_shutdown answers now controller env)
        (coreStep_shutdown answers now controller env rfl)
  | toggleConnection =>
      obtain rfl := Option.some.inj taken
      exact placed (nodeSide_toggleConnection answers now controller)
        (coreStep_toggleConnection answers now controller)
  | pollCore =>
      obtain rfl := Option.some.inj taken
      exact placed (nodeSide_pollCore answers controller) (coreStep_pollCore answers controller rfl)
  | commitSetting =>
      exact placed (nodeSide_commitSetting answers now controller env taken)
        (coreStep_commitSetting answers now controller env taken)
  | nodeCommand index command =>
      obtain rfl := Option.some.inj taken
      exact (coreStep_nodeCommand _ index command).1
  | setActiveNode =>
      obtain rfl := Option.some.inj taken
      exact (coreStep_setActiveNode _).1
  | onTray event =>
      cases event with
      | toggleConnection =>
          obtain rfl := Option.some.inj taken
          exact placed (nodeSide_toggleConnection answers now controller)
            (coreStep_toggleConnection answers now controller)
      | selectNode index =>
          obtain rfl := Option.some.inj taken
          exact (coreStep_activateNode _ index).1
      | importClipboard => exact aside (coreSide_importLinks taken)
      | _ => exact aside (congrArg Sides.core (sides_perform rfl taken))
  | selectNode index =>
      obtain rfl := Option.some.inj taken
      exact aside (coreSide_selectNode index)
  | editNode field value =>
      obtain rfl := Option.some.inj taken
      exact aside coreSide_commitDraft
  | importLinks => exact aside (coreSide_importLinks taken)
  | importText text => exact aside (coreSide_importText taken)
  | editAdvanced field value =>
      obtain rfl := Option.some.inj taken
      exact aside (coreSide_editAdvanced field value)
  | commitAdvanced =>
      obtain rfl := Option.some.inj taken
      exact aside coreSide_commitAdvanced
  | addNode | openAdvanced | cancelAdvanced =>
      obtain rfl := Option.some.inj taken
      exact aside rfl
  | saveNodes =>
      obtain rfl := Option.some.inj taken
      exact aside (coreSide_saveNodes env answers controller)
  | revertNodes =>
      obtain rfl := Option.some.inj taken
      exact aside coreSide_revertNodes
  | answerPrompt answer =>
      obtain rfl := Option.some.inj taken
      exact aside (coreSide_answerPrompt answer)
  | _ => exact aside (congrArg Sides.core (sides_perform rfl taken))

end Controller

end Juicity.Gui
