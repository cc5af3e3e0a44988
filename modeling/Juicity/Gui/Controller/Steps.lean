import Juicity.Gui.Controller.Settings
import Juicity.Machine.Run

/-!
Owns `startup`, `shutdown` and `on_files_changed` of
`gui/src/ui/controller/mod.rs`, and the runs of the controller: its operations in
any order, with any answers, while other programs write the configuration files
and the rule files.
-/

namespace Juicity.Gui

open Juicity.Common Juicity.Machine

namespace Controller

variable {Digest : Type} [DecidableEq Digest] (env : Env Digest) (answers : Answers) (now : Nat)
  (controller : Controller Digest)

/-- PAC server, startup connection, saved proxy mode, and the rule overdue check. -/
def startup : Controller Digest × Option RuleJob :=
  -- a PAC server that fails to start is only logged
  let served := (controller.restartPac answers true).1
  let connected := served.startupConnection answers now
  let applied :=
    if connected.gui.config.systemProxyMode = .disable then connected
    else connected.applyProxy answers
  if applied.rulesOverdue answers then applied.beginRules else (applied, none)

/-- Stop the core, restore the OS proxy, then flush. Failures are only logged. -/
def shutdown : Controller Digest :=
  let stopped := { controller with
    connected := false
    coreCalls := .stop :: controller.coreCalls }
  let config := stopped.gui.config
  let restored :=
    if config.systemProxyMode = .disable then stopped
    else stopped.callProxy { config with systemProxyMode := .disable }
  (restored.flushAll env answers now).1

/-- A change of the settings that the OS proxy depends on. -/
def proxyChanged (old config : AppConfig) : Bool :=
  decide (old.systemProxyMode ≠ config.systemProxyMode ∨ old.mixedListen ≠ config.mixedListen ∨
    old.pacListen ≠ config.pacListen ∨ old.pacMode ≠ config.pacMode ∨
    old.onlinePacUrl ≠ config.onlinePacUrl)

/-- The working copy after a reload of these files, which left `saved` as it is. -/
def rebase (before : Controller Digest) (reloaded : List ConfigFile) : Controller Digest :=
  let gui := controller.gui
  let rebased :=
    if before.listDirty then
      -- keep the edits; Save will overwrite the external change
      let kept := { controller with
        gui := gui.setSelected before.gui.runtime.selectedProfile }
      if .profiles ∈ reloaded ∧ kept.listDirty then kept.setNotice .profilesChanged else kept
    else
      let profiles := if .profiles ∈ reloaded then controller.saved.profiles else gui.profiles
      { controller with gui := { gui with profiles }.setSelected controller.saved.active }
  { rebased with gui := rebased.gui.normalizeSelectedIndex }

/-- The PAC server and the OS proxy after a reload of app.json. -/
def followConfig (old : AppConfig) : Controller Digest :=
  let listenChanged := decide (old.pacListen ≠ controller.gui.config.pacListen)
  match controller.restartPac answers listenChanged with
  -- do not point the OS at a PAC URL nobody serves
  | (restarted, .error error) => restarted.setNotice (.proxyFailed error)
  | (restarted, .ok ()) =>
      if proxyChanged old restarted.gui.config then restarted.applyProxy answers else restarted

/-- Handle a watcher event: ignore our own writes, keep locally dirty files, reload
clean files that changed on disk. -/
def onFilesChanged : Controller Digest :=
  let reload := controller.persist.reloadChanged env controller.gui controller.saved now
  let loaded := { controller with
    persist := reload.persist
    gui := reload.gui
    saved := reload.saved }
  if reload.reloaded = [] then loaded
  else
    let shown :=
      (loaded.rebase controller reload.reloaded).afterReload controller.editedProfile
    if .app ∈ reload.reloaded then shown.followConfig answers controller.gui.config else shown

end Controller

/-! ## Operations -/

inductive Operation where
  | startup
  | shutdown
  | expireNotice (seq : Nat)
  | dismissNotice
  | flushDue
  | flushAll
  | onFilesChanged
  | toggleConnection
  | setProxyMode (mode : SystemProxyMode)
  | setPacRule (rule : PacRuleMode)
  | updateRules
  | finishRules (result : Except String Unit)
  | copyPacUrl
  | pollCore
  | selectNode (index : Nat)
  | addNode (name : String)
  | nodeCommand (index : Nat) (command : ListCommand)
  | editNode (field : DraftField) (value : String)
  | setActiveNode
  | importLinks
  | importText (text : String)
  | exportLink
  | shareQrCode
  | closeQrCode
  | openAdvanced
  | editAdvanced (field : DraftField) (value : String)
  | commitAdvanced
  | cancelAdvanced
  | saveNodes
  | revertNodes
  | requestLeave (leave : Leave)
  | answerPrompt (answer : Answer)
  | setLanguage (language : LanguagePreference)
  | setAppearance (appearance : AppearancePreference)
  | setAutostart (enabled : Bool)
  | installAppIcon
  | setHideOnStart (hide : Bool)
  | setCloseToTray (closeToTray : Bool)
  | setStartupConnection (connection : StartupConnectionState)
  | setPacSource (mode : PacMode)
  | setUpdateHours (hours : UInt32)
  | openSetting (key : SettingKey)
  | editSetting (text : String)
  | cancelSetting
  | commitSetting
  | onTray (event : TrayEvent)

section Steps

variable {Digest : Type} [DecidableEq Digest] (env : Env Digest)

/-- Carry out an operation at a moment; no result is a panic. -/
def Operation.perform (operation : Operation) (answers : Answers) (now : Nat)
    (controller : Controller Digest) : Option (Controller Digest) :=
  match operation with
  | .startup => some (controller.startup answers now).1
  | .shutdown => some (controller.shutdown env answers now)
  | .expireNotice seq => some (controller.expireNotice seq)
  | .dismissNotice => some controller.dismissNotice
  | .flushDue => some (controller.flushDue env answers now)
  | .flushAll => some (controller.flushAll env answers now).1
  | .onFilesChanged => some (controller.onFilesChanged env answers now)
  | .toggleConnection => some (controller.toggleConnection answers now)
  | .setProxyMode mode => some (controller.setProxyMode answers now mode)
  | .setPacRule rule => some (controller.setPacRule answers now rule)
  | .updateRules => some controller.updateRules.1
  | .finishRules result => some (controller.finishRules answers result)
  | .copyPacUrl => some (controller.copyPacUrl answers)
  | .pollCore => some (controller.pollCore answers)
  | .selectNode index => some (controller.selectNode index)
  | .addNode name => some (controller.addNode name)
  | .nodeCommand index command => some (controller.nodeCommand answers now index command)
  | .editNode field value => some (controller.editNode field value)
  | .setActiveNode => some (controller.setActiveNode answers now)
  | .importLinks => controller.importLinks env answers
  | .importText text => controller.importText env text
  | .exportLink => controller.exportLink env answers
  | .shareQrCode => controller.shareQrCode env answers
  | .closeQrCode => some controller.closeQrCode
  | .openAdvanced => some controller.openAdvanced
  | .editAdvanced field value => some (controller.editAdvanced field value)
  | .commitAdvanced => some controller.commitAdvanced
  | .cancelAdvanced => some controller.cancelAdvanced
  | .saveNodes => some (controller.saveNodes env answers)
  | .revertNodes => some controller.revertNodes
  | .requestLeave leave => some (controller.requestLeave leave).1
  | .answerPrompt answer => some (controller.answerPrompt env answers answer).1
  | .setLanguage language => some (controller.setLanguage now language)
  | .setAppearance appearance => some (controller.setAppearance now appearance)
  | .setAutostart enabled => some (controller.setAutostart env answers now enabled)
  | .installAppIcon => some (controller.installAppIcon answers)
  | .setHideOnStart hide => some (controller.setHideOnStart now hide)
  | .setCloseToTray closeToTray => some (controller.setCloseToTray now closeToTray)
  | .setStartupConnection connection => some (controller.setStartupConnection now connection)
  | .setPacSource mode => some (controller.setPacSource answers now mode)
  | .setUpdateHours hours => some (controller.setUpdateHours now hours)
  | .openSetting key => controller.openSetting key
  | .editSetting text => some (controller.editSetting env text)
  | .cancelSetting => some controller.cancelSetting
  | .commitSetting => controller.commitSetting env answers now
  | .onTray event => controller.onTray env answers now event

/-- The application and what other programs do: `external` writes a configuration
file, `rules` replaces the rule files, as a download does. -/
inductive Action where
  | perform (operation : Operation) (answers : Answers) (now : Nat)
  | external (file : ConfigFile) (content : Bytes)
  | rules (chinaList gfw : Option String)

/-- Ghosts: a `foreign` file was written by another program since the application
last wrote it or looked at it; `exited` is set by `shutdown`. -/
structure World (Digest : Type) where
  controller : Controller Digest
  foreign : ConfigFile → Bool
  exited : Bool

/-- Storage as other programs leave it. -/
def World.setStorage {Digest : Type} (world : World Digest) (storage : Storage) : World Digest :=
  { world with
    controller := { world.controller with gui := { world.controller.gui with storage } } }

/-- The event is a completed write of the file. -/
def FileEvent.writes (file : ConfigFile) : FileEvent → Bool
  | .wrote written _ _ => decide (written = file)
  | .loaded _ _ | .failed _ => false

/-- The file was written between two states of the storage. -/
def wroteSince (before after : Storage) (file : ConfigFile) : Bool :=
  (before.since after).any (FileEvent.writes file)

def step (world : World Digest) (action : Action) : Option (World Digest) :=
  match action with
  | .perform operation answers now =>
      if world.exited then none
      else
        (operation.perform env answers now world.controller).map fun controller =>
          { controller
            foreign := fun file =>
              match operation with
              | .onFilesChanged => false
              | _ =>
                  world.foreign file &&
                    !wroteSince world.controller.gui.storage controller.gui.storage file
            exited := match operation with
              | .shutdown => true
              | _ => false }
  | .external file content =>
      let storage := world.controller.gui.storage
      some
        { world.setStorage { storage with
            files := Function.update storage.files file (some content) } with
          foreign := Function.update world.foreign file true }
  | .rules chinaList gfw =>
      some (world.setStorage { world.controller.gui.storage with chinaList, gfw })

/-- The application as it starts on these files. -/
def World.start (storage : Storage) (moved : ConfigFile → Bool) : World Digest :=
  ⟨Controller.new env storage moved, fun _ => false, false⟩

variable {env}

/-- What taking an operation says: the application had not exited, and the new
controller is what the operation leaves. -/
theorem step_perform {operation : Operation} {answers : Answers} {now : Nat}
    {world next : World Digest}
    (taken : step env world (.perform operation answers now) = some next) :
    world.exited = false ∧
      operation.perform env answers now world.controller = some next.controller ∧
      (next.exited = true ↔ operation = .shutdown) := by
  simp only [step, Option.ite_none_left_eq_some] at taken
  obtain ⟨running, taken⟩ := taken
  obtain ⟨after, done, rfl⟩ := Option.map_eq_some_iff.mp taken
  refine ⟨by simpa using running, done, ?_⟩
  cases operation <;> simp

/-- A file stays foreign until the application writes it or looks at it. -/
theorem foreign_perform {operation : Operation} {answers : Answers} {now : Nat}
    {world next : World Digest} (working : operation ≠ .onFilesChanged)
    (taken : step env world (.perform operation answers now) = some next) (file : ConfigFile) :
    next.foreign file = (world.foreign file &&
      !wroteSince world.controller.gui.storage next.controller.gui.storage file) := by
  simp only [step, Option.ite_none_left_eq_some] at taken
  obtain ⟨-, taken⟩ := taken
  obtain ⟨after, done, rfl⟩ := Option.map_eq_some_iff.mp taken
  cases operation <;> trivial

end Steps

end Juicity.Gui
