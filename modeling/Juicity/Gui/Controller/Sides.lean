import Juicity.Gui.Controller.Writes

/-!
Owns the two sides of the controller that its invariants are about. The node side is
the working list with its two indices, the editor with its sheet, and the saved
nodes; the core side is what the core was last asked and what is believed of it. What
the window, the settings, the files and the proxy do leaves both alone.
-/

namespace Juicity.Gui

open Juicity.Common Juicity.Machine

/-- What the operations on nodes read and write. -/
structure NodeSide where
  profiles : ProfileStore
  active : Nat
  selected : Nat
  draft : DraftData
  advanced : Option DraftData
  saved : Saved

namespace NodeSide

variable (side : NodeSide)

def rows : List StoredProfile := side.profiles.profiles

def row (index : Nat) : Option StoredProfile := side.rows[index]?

/-- The draft of the row at an index. -/
def draftAt (index : Nat) : DraftData := ((side.row index).map DraftData.fromProfile).getD .default

/-- The editor is loaded from the selected row. -/
def load : NodeSide :=
  let selected := min side.selected (side.rows.length - 1)
  { side with selected, draft := side.draftAt selected }

/-- The draft is copied into the selected row. -/
def commit : NodeSide :=
  match side.row side.selected with
  | some profile =>
      { side with profiles := ⟨side.rows.set side.selected (side.draft.applyTo profile)⟩ }
  | none => side

end NodeSide

/-- What the operations on the core read and write. -/
structure CoreSide where
  connected : Bool
  startedWith : Option StoredProfile
  calls : List CoreCall
  wasRunning : Bool

structure Sides where
  nodes : NodeSide
  core : CoreSide

namespace Controller

variable {Digest : Type} (env : Env Digest) (answers : Answers) (now : Nat)
  (controller : Controller Digest)

def nodeSide : NodeSide where
  profiles := controller.gui.profiles
  active := controller.gui.runtime.selectedProfile
  selected := controller.nodes.selected
  draft := controller.nodes.draft
  advanced := controller.nodes.advanced
  saved := controller.saved

def coreSide : CoreSide where
  connected := controller.connected
  startedWith := controller.nodes.startedWith
  calls := controller.coreCalls
  wasRunning := controller.gui.runtime.wasRunning

def sides : Sides := ⟨controller.nodeSide, controller.coreSide⟩

/-! ## Notices and files -/

@[simp] theorem sides_setNotice (notice : Notice) :
    (controller.setNotice notice).sides = controller.sides := rfl

@[simp] theorem sides_dismissNotice :
    controller.dismissNotice.sides = controller.sides := rfl

@[simp] theorem sides_report (outcome : Except String Unit) (notice : String → Notice) :
    (controller.report outcome notice).sides = controller.sides := by
  cases outcome with
  | ok => rfl
  | error => rfl

@[simp] theorem sides_expireNotice (seq : Nat) :
    (controller.expireNotice seq).sides = controller.sides := by
  unfold expireNotice
  split
  · rfl
  · rfl

@[simp] theorem sides_clearSaveNotice :
    controller.clearSaveNotice.sides = controller.sides := by
  unfold clearSaveNotice
  split
  · rfl
  · rfl
  · rfl
  · rfl
  · rfl

@[simp] theorem sides_markDirty (file : ConfigFile) :
    (controller.markDirty now file).sides = controller.sides := rfl

@[simp] theorem sides_flushAll :
    (controller.flushAll env answers now).1.sides = controller.sides := rfl

@[simp] theorem sides_flushDue :
    (controller.flushDue env answers now).sides = controller.sides := by
  unfold flushDue
  split
  · dsimp only
    rw [sides_report, sides_flushAll]
  · rfl

/-! ## Proxy and rules -/

@[simp] theorem sides_callProxy (config : AppConfig) :
    (controller.callProxy config).sides = controller.sides := rfl

@[simp] theorem sides_applyProxy :
    (controller.applyProxy answers).sides = controller.sides := by
  rw [applyProxy, sides_report, sides_callProxy]

@[simp] theorem sides_restartPac (forceRestart : Bool) :
    (controller.restartPac answers forceRestart).1.sides = controller.sides := by
  obtain ⟨server, bound, rules, same⟩ :=
    controller.gui.restartPacServer_same forceRestart answers.bind
  have gui : (controller.restartPac answers forceRestart).1.gui = _ := same
  unfold sides nodeSide coreSide
  rw [gui]
  rfl

@[simp] theorem sides_setConfig (config : AppConfig) :
    (controller.setConfig config).sides = controller.sides := rfl

@[simp] theorem sides_changeConfig (config : AppConfig) :
    (controller.changeConfig now config).sides = controller.sides := rfl

theorem sides_changeConfig_unless {same : Prop} [Decidable same] (config : AppConfig) :
    (if same then controller else controller.changeConfig now config).sides =
      controller.sides := by
  split
  · rfl
  · rfl

@[simp] theorem sides_setProxyMode (mode : SystemProxyMode) :
    (controller.setProxyMode answers now mode).sides = controller.sides := by
  unfold setProxyMode
  dsimp only
  split
  · rfl
  · simp

@[simp] theorem sides_setPacRule (rule : PacRuleMode) :
    (controller.setPacRule answers now rule).sides = controller.sides := by
  unfold setPacRule
  dsimp only
  split
  · rfl
  · simp

@[simp] theorem sides_reapplyPacProxy :
    (controller.reapplyPacProxy answers).sides = controller.sides := by
  unfold reapplyPacProxy
  split
  · rw [sides_applyProxy]
  · rfl

@[simp] theorem sides_setPacSource (mode : PacMode) :
    (controller.setPacSource answers now mode).sides = controller.sides := by
  unfold setPacSource
  dsimp only
  split
  · rfl
  · rw [sides_reapplyPacProxy, sides_changeConfig]

@[simp] theorem sides_changePacListen (listen : String) :
    (controller.changePacListen answers now listen).sides = controller.sides := by
  unfold changePacListen
  have restarted := sides_restartPac answers
    (controller.setConfig { controller.gui.config with pacListen := listen }) true
  dsimp only
  split
  · rename_i middle outcome
    rw [outcome] at restarted
    rw [sides_reapplyPacProxy, sides_markDirty]
    exact restarted
  · rename_i middle error outcome
    rw [outcome] at restarted
    exact restarted

@[simp] theorem sides_beginRules : controller.beginRules.1.sides = controller.sides := by
  unfold beginRules
  split
  · rfl
  · rfl

@[simp] theorem sides_finishRules (result : Except String Unit) :
    (controller.finishRules answers result).sides = controller.sides := by
  unfold finishRules
  cases result with
  | ok =>
      dsimp only
      rw [sides_setNotice, sides_restartPac]
      rfl
  | error => rfl

@[simp] theorem sides_copyPacUrl :
    (controller.copyPacUrl answers).sides = controller.sides := by
  unfold copyPacUrl
  split
  · rfl
  · rfl

/-! ## Settings -/

/-- Settings that concern neither the active node nor the core. -/
theorem sides_changeRuntime {runtime : RuntimeState}
    (index : runtime.selectedProfile = controller.gui.runtime.selectedProfile)
    (running : runtime.wasRunning = controller.gui.runtime.wasRunning) :
    (controller.changeRuntime now runtime).sides = controller.sides := by
  show Sides.mk (NodeSide.mk _ runtime.selectedProfile _ _ _ _)
    (CoreSide.mk _ _ _ runtime.wasRunning) = _
  rw [index, running]
  rfl

/-- A setter of the settings page. -/
theorem sides_changeRuntime_unless {same : Prop} [Decidable same] {runtime : RuntimeState}
    (index : runtime.selectedProfile = controller.gui.runtime.selectedProfile)
    (running : runtime.wasRunning = controller.gui.runtime.wasRunning) :
    (if same then controller else controller.changeRuntime now runtime).sides =
      controller.sides := by
  split
  · rfl
  · exact sides_changeRuntime now controller index running

@[simp] theorem sides_setAutostart (enabled : Bool) :
    (controller.setAutostart env answers now enabled).sides = controller.sides := by
  unfold setAutostart
  dsimp only
  split
  · rfl
  · split
    · exact sides_changeRuntime now controller rfl rfl
    · rfl

@[simp] theorem sides_installAppIcon :
    (controller.installAppIcon answers).sides = controller.sides := by
  unfold installAppIcon
  split
  · rfl
  · rfl

theorem sides_openSetting {key : SettingKey} {after : Controller Digest}
    (taken : controller.openSetting key = some after) : after.sides = controller.sides := by
  cases key with
  | mixedPort =>
      obtain ⟨split, -, rfl⟩ := Option.map_eq_some_iff.mp taken
      rfl
  | onlinePacUrl =>
      obtain rfl := Option.some.inj taken
      split
      · rfl
      · rfl
  | directUrl | proxyUrl | updateHours | pacListen =>
      obtain rfl := Option.some.inj taken
      rfl

@[simp] theorem sides_editSetting (text : String) :
    (controller.editSetting env text).sides = controller.sides := by
  unfold editSetting
  split
  · rfl
  · rfl

/-- The settings of the sheet but for the port of the core. -/
theorem sides_commitValue {key : SettingKey} {value : String} {after : Controller Digest}
    (portless : key ≠ .mixedPort) (taken : controller.commitValue answers now key value = some after) :
    after.sides = controller.sides := by
  cases key with
  | mixedPort => exact absurd rfl portless
  | directUrl | proxyUrl =>
      obtain rfl := Option.some.inj taken
      exact sides_changeConfig_unless now controller _
  | updateHours =>
      obtain ⟨hours, -, rfl⟩ := Option.map_eq_some_iff.mp taken
      exact sides_changeConfig_unless now controller _
  | pacListen =>
      obtain rfl := Option.some.inj taken
      split
      · rfl
      · rw [sides_changePacListen]
  | onlinePacUrl =>
      obtain rfl := Option.some.inj taken
      generalize (if value = "" then none else some value) = url
      split
      · rfl
      · rw [sides_reapplyPacProxy, sides_changeConfig]

/-! ## Links and leaving -/

theorem sides_withShareLink {next : String → Controller Digest} {after : Controller Digest}
    (shared : ∀ link, (next link).sides = controller.sides)
    (taken : controller.withShareLink env next = some after) :
    after.sides = controller.sides := by
  unfold withShareLink at taken
  split at taken
  · obtain rfl := Option.some.inj taken
    rfl
  · split at taken
    · obtain rfl := Option.some.inj taken
      rfl
    · split at taken
      · obtain rfl := Option.some.inj taken
        exact shared _
      · obtain rfl := Option.some.inj taken
        rfl
      · cases taken

theorem sides_exportLink {after : Controller Digest}
    (taken : controller.exportLink env answers = some after) :
    after.sides = controller.sides := by
  refine sides_withShareLink env controller (fun link => ?_) taken
  split
  · rfl
  · rfl

theorem sides_shareQrCode {after : Controller Digest}
    (taken : controller.shareQrCode env answers = some after) :
    after.sides = controller.sides := by
  refine sides_withShareLink env controller (fun link => ?_) taken
  split
  · rfl
  · rfl

@[simp] theorem sides_requestLeave (leave : Leave) :
    (controller.requestLeave leave).1.sides = controller.sides := by
  unfold requestLeave
  split
  · rfl
  · split
    · rfl
    · rfl

end Controller

/-- The operation concerns neither the nodes nor the core. -/
def Operation.isOutside : Operation → Bool
  | .expireNotice _ | .dismissNotice | .flushDue | .flushAll | .setProxyMode _ | .setPacRule _
  | .updateRules | .finishRules _ | .copyPacUrl | .exportLink | .shareQrCode | .closeQrCode
  | .requestLeave _ | .setLanguage _ | .setAppearance _ | .setAutostart _ | .installAppIcon
  | .setHideOnStart _ | .setCloseToTray _ | .setStartupConnection _ | .setPacSource _
  | .setUpdateHours _ | .openSetting _ | .editSetting _ | .cancelSetting
  | .onTray (.setProxyMode _) | .onTray (.setPacRule _) | .onTray .updateRules | .onTray .window =>
      true
  | _ => false

namespace Controller

theorem sides_perform {Digest : Type} [DecidableEq Digest] {env : Env Digest} {answers : Answers}
    {now : Nat} {controller after : Controller Digest} {operation : Operation}
    (outside : operation.isOutside = true)
    (taken : operation.perform env answers now controller = some after) :
    after.sides = controller.sides := by
  cases operation with
  | exportLink => exact sides_exportLink env answers controller taken
  | shareQrCode => exact sides_shareQrCode env answers controller taken
  | openSetting key => exact sides_openSetting controller taken
  | setLanguage | setAppearance | setHideOnStart | setCloseToTray | setStartupConnection =>
      obtain rfl := Option.some.inj taken
      exact sides_changeRuntime_unless now controller rfl rfl
  | setUpdateHours hours =>
      obtain rfl := Option.some.inj taken
      exact sides_changeConfig_unless now controller _
  | updateRules =>
      obtain rfl := Option.some.inj taken
      exact sides_beginRules controller
  | closeQrCode | cancelSetting =>
      obtain rfl := Option.some.inj taken
      rfl
  | onTray event =>
      cases event with
      | setProxyMode mode =>
          obtain rfl := Option.some.inj taken
          exact sides_setProxyMode answers now controller mode
      | setPacRule rule =>
          obtain rfl := Option.some.inj taken
          exact sides_setPacRule answers now controller rule
      | updateRules =>
          obtain rfl := Option.some.inj taken
          exact sides_beginRules controller
      | window =>
          obtain rfl := Option.some.inj taken
          rfl
      | toggleConnection | selectNode | importClipboard => cases outside
  | expireNotice | dismissNotice | flushDue | flushAll | setProxyMode | setPacRule | finishRules
  | copyPacUrl | requestLeave | setAutostart | installAppIcon | setPacSource | editSetting =>
      obtain rfl := Option.some.inj taken
      simp
  | _ => cases outside

end Controller

end Juicity.Gui
