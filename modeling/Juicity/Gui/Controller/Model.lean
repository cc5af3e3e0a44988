import Juicity.Gui.Controller.Draft
import Juicity.Gui.Controller.Persist

/-!
Owns the state of the controller in `gui/src/ui/controller/mod.rs`, its notices,
its save timer, and the operations of `overview.rs`. What the outside world
answers during an operation is an argument of it. The snapshots pushed into the
window, the log lines and the traffic counters are not modelled, nor is which of
them a call changed.
-/

namespace Juicity.Gui

open Juicity.Common

/-- Feedback shown in the Banner. -/
inductive Notice where
  | none
  | imported
  | importFailed (reason : String)
  | importPartial (added skipped : Nat)
  | exportFailed (reason : String)
  | exportInvalid
  | linkCopied
  | startFailed (reason : String)
  | rulesUpdated
  | rulesFailed (reason : String)
  | proxyFailed (reason : String)
  | saveFailed (reason : String)
  | coreExited (reason : String)
  | noNode
  | missingFields (fields : List RequiredField)
  | nodesSaveFailed (reason : String)
  | saveInvalid
  | nodeIncomplete (name : String) (fields : List RequiredField)
  | profilesChanged
  | appIconInstalled
  | appIconFailed (reason : String)
deriving DecidableEq

def Notice.isError : Notice → Bool
  | .startFailed _ | .rulesFailed _ | .proxyFailed _ | .saveFailed _ | .coreExited _ | .noNode
  | .missingFields _ | .importFailed _ | .exportFailed _ | .exportInvalid | .nodesSaveFailed _
  | .saveInvalid | .nodeIncomplete _ _ | .profilesChanged | .appIconFailed _ => true
  | .none | .imported | .importPartial _ _ | .linkCopied | .rulesUpdated | .appIconInstalled =>
      false

/-- What the effects, the file system and the clock of the rule files answer
during one operation; no operation asks one of them twice. -/
structure Answers where
  write : ConfigFile → Except String Unit
  bind : Except String Unit
  startCore : Except String Unit
  pollCore : Option String
  applySystemProxy : Except String Unit
  copyText : Except String Unit
  pasteText : Except String String
  setAutostart : Except String Unit
  installAppIcon : Except String Unit
  qrMask : Except String Unit
  rulesAgeHours : Option Nat

/-- A call of `start_core` or `stop_core`. -/
inductive CoreCall where
  | start (profile : StoredProfile) (outcome : Except String Unit)
  | stop

/-- A call of `apply_system_proxy`: its argument, and the state it was made in. -/
structure ProxyCall where
  config : AppConfig
  gui : GuiState

/-- What a close request does once it is allowed to proceed. -/
inductive Leave where
  | hide
  | quit
deriving DecidableEq

/-- A value edited in the settings sheet. -/
inductive SettingKey where
  | mixedPort
  | directUrl
  | proxyUrl
  | updateHours
  | pacListen
  | onlinePacUrl
deriving DecidableEq

/-- Why a sheet value was rejected. -/
inductive SettingError where
  | port
  | listenAddress
  | url
  | hours
deriving DecidableEq

/-- The open sheet and its uncommitted text. -/
structure SettingSheet where
  key : SettingKey
  draft : String
  error : Option SettingError
deriving DecidableEq

/-- `qr` is the link of the share sheet while it is open. -/
structure NodesState where
  selected : Nat
  draft : DraftData
  errors : List (DraftField × DraftError)
  advanced : Option DraftData
  advancedErrors : List (DraftField × DraftError)
  qr : Option String
  startedWith : Option StoredProfile
deriving DecidableEq

/-- A rule download to run on a worker thread. -/
structure RuleJob where
  directUrl : String
  proxyUrl : String
deriving DecidableEq

/-- `gui.profiles` is the working copy of the list in `saved`. Ghosts: the calls of
the effects, newest first. -/
structure Controller (Digest : Type) where
  gui : GuiState
  persist : Persist Digest
  connected : Bool
  rulesUpdating : Bool
  notice : Notice
  noticeSeq : Nat
  nodes : NodesState
  saved : Saved
  leave : Option Leave
  sheet : Option SettingSheet
  coreCalls : List CoreCall
  proxyCalls : List ProxyCall

/-- The draft of the profile at an index. -/
def GuiState.draftAt (gui : GuiState) (index : Nat) : DraftData :=
  (gui.profiles.profiles[index]?.map DraftData.fromProfile).getD .default

def NodesState.new (gui : GuiState) : NodesState :=
  let selected := min gui.runtime.selectedProfile (gui.profiles.profiles.length - 1)
  { selected
    draft := gui.draftAt selected
    errors := []
    advanced := none
    advancedErrors := []
    qr := none
    startedWith := none }

namespace Controller

variable {Digest : Type}

/-- The corrupt files in `moved` could be moved aside. -/
def new (env : Env Digest) (storage : Storage) (moved : ConfigFile → Bool) : Controller Digest :=
  let (gui, loaded) := GuiState.loadTracked env.serde storage moved
  { gui
    persist := Persist.new env loaded
    connected := false
    rulesUpdating := false
    notice := .none
    noticeSeq := 0
    nodes := NodesState.new gui
    saved := Saved.new gui
    leave := none
    sheet := none
    coreCalls := []
    proxyCalls := [] }

variable (env : Env Digest) (answers : Answers) (now : Nat) (controller : Controller Digest)

/-! ## Notices -/

def setNotice (notice : Notice) : Controller Digest :=
  { controller with notice, noticeSeq := controller.noticeSeq + 1 }

def dismissNotice : Controller Digest := controller.setNotice .none

/-- Hide an info notice once its timer fires, unless a newer one replaced it. -/
def expireNotice (seq : Nat) : Controller Digest :=
  if seq = controller.noticeSeq ∧ controller.notice.isError = false then controller.dismissNotice
  else controller

/-- The notice of a failure. -/
def report (outcome : Except String Unit) (notice : String → Notice) : Controller Digest :=
  match outcome with
  | .ok () => controller
  | .error error => controller.setNotice (notice error)

/-! ## Saving -/

/-- `mark_dirty`: the save timer writes the file after the debounce. -/
def markDirty (file : ConfigFile) : Controller Digest :=
  { controller with persist := controller.persist.mark file now }

/-- Write every dirty file now. -/
def flushAll : Controller Digest × Except String Unit :=
  let (persist, storage, outcome) :=
    controller.persist.flush env controller.gui controller.saved answers.write now
  ({ controller with persist, gui := { controller.gui with storage } }, outcome)

/-- Write dirty files once the debounce has elapsed. -/
def flushDue : Controller Digest :=
  match controller.persist.delay now with
  | some 0 =>
      let (flushed, outcome) := controller.flushAll env answers now
      flushed.report outcome .saveFailed
  | _ => controller

/-! ## System proxy -/

/-- The effect `apply_system_proxy`. -/
def callProxy (config : AppConfig) : Controller Digest :=
  { controller with proxyCalls := ⟨config, controller.gui⟩ :: controller.proxyCalls }

/-- Apply the current settings; a failure is shown. -/
def applyProxy : Controller Digest :=
  (controller.callProxy controller.gui.config).report answers.applySystemProxy .proxyFailed

/-- `restart_pac_server` on the state of the controller. -/
def restartPac (forceRestart : Bool) : Controller Digest × Except String Unit :=
  let (gui, outcome) := controller.gui.restartPacServer forceRestart answers.bind
  ({ controller with gui }, outcome)

/-- URL the system proxy uses in PAC mode. -/
def effectivePacUrl (config : AppConfig) : String :=
  match config.pacMode, config.onlinePacUrl with
  | .online, some url => url
  | _, _ => pacUrl config.pacListen

def setConfig (config : AppConfig) : Controller Digest :=
  { controller with gui := { controller.gui with config } }

def setRuntime (runtime : RuntimeState) : Controller Digest :=
  { controller with gui := { controller.gui with runtime } }

def setProxyMode (mode : SystemProxyMode) : Controller Digest :=
  let config := controller.gui.config
  if config.systemProxyMode = mode then controller
  else
    ((controller.setConfig { config with systemProxyMode := mode }).markDirty now .app).applyProxy
      answers

def setPacRule (rule : PacRuleMode) : Controller Digest :=
  let config := controller.gui.config
  if config.pacRuleMode = rule then controller
  else
    -- a failure is only logged
    ((controller.setConfig { config with pacRuleMode := rule }).restartPac answers false).1.markDirty
      now .app

/-! ## Connection -/

/-- Start the core, or restart it, with the active node. -/
def startCore (profile : StoredProfile) : Controller Digest :=
  let called := { controller with
    coreCalls := .start profile answers.startCore :: controller.coreCalls }
  let runtime := controller.gui.runtime
  match answers.startCore with
  | .ok () =>
      let started :=
        ({ called with
            connected := true
            nodes := { called.nodes with startedWith := some profile } }.setRuntime
          { runtime with wasRunning := true }).markDirty now .runtime
      match started.notice with
      | .startFailed _ | .coreExited _ | .noNode | .missingFields _ => started.dismissNotice
      | _ => started
  | .error error =>
      -- a failed restart leaves no core running
      let stopped :=
        if called.connected then
          ({ called with
              connected := false
              nodes := { called.nodes with startedWith := none } }.setRuntime
            { runtime with wasRunning := false }).markDirty now .runtime
        else called
      stopped.setNotice (.startFailed error)

/-- A node with missing fields leaves a running core untouched. -/
def startActive : Controller Digest :=
  match controller.gui.selectedProfile with
  | none => controller.setNotice .noNode
  | some profile =>
      if missingFields profile = [] then controller.startCore answers now profile
      else controller.setNotice (.missingFields (missingFields profile))

/-- Start the active node of the working list or stop the core. -/
def toggleConnection : Controller Digest :=
  if controller.connected then
    ({ controller with
        connected := false
        nodes := { controller.nodes with startedWith := none }
        coreCalls := .stop :: controller.coreCalls }.setRuntime
      { controller.gui.runtime with wasRunning := false }).markDirty now .runtime
  else controller.startActive answers now

/-- Detect a core that exited on its own. -/
def pollCore : Controller Digest :=
  if controller.connected then
    match answers.pollCore with
    | some reason =>
        { controller with
          connected := false
          nodes := { controller.nodes with startedWith := none } }.setNotice (.coreExited reason)
    | none => controller
  else controller

/-! ## Rules -/

/-- `rules_overdue`: a missing file is overdue. -/
def rulesOverdue : Bool :=
  let hours := controller.gui.config.pacAutoUpdateHours.toNat
  decide (hours > 0) && (answers.rulesAgeHours.all fun age => decide (age ≥ hours))

def beginRules : Controller Digest × Option RuleJob :=
  if controller.rulesUpdating then (controller, none)
  else
    ({ controller with rulesUpdating := true },
      some ⟨controller.gui.config.pacDirectUrl, controller.gui.config.pacProxyUrl⟩)

def updateRules : Controller Digest × Option RuleJob := controller.beginRules

def finishRules (result : Except String Unit) : Controller Digest :=
  let idle := { controller with rulesUpdating := false }
  match result with
  | .ok () => (idle.restartPac answers false).1.setNotice .rulesUpdated
  | .error error => idle.setNotice (.rulesFailed error)

/-- A failure is only logged. -/
def copyPacUrl : Controller Digest :=
  match answers.copyText with
  | .ok () => controller.setNotice .linkCopied
  | .error _ => controller

end Controller

end Juicity.Gui
