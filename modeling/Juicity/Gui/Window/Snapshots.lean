import Juicity.Gui.Controller.Steps
import Juicity.Machine.Shown

/-!
Owns what the controller shows: the snapshots of `overview.rs`, `nodes.rs`,
`settings.rs` and `tray.rs` in `gui/src/ui/controller/`. The age of the rule files
is read from the disk and the clock and is left out, as is the picture of a QR
code, which its link determines.
-/

namespace Juicity.Gui

open Juicity.Machine

/-- `localAddress` is the local host and port; none is a panic. -/
structure OverviewSnapshot where
  running : Bool
  activeName : String
  activeAddress : String
  localAddress : Option (String × String)
  pacUrl : String
  proxyMode : SystemProxyMode
  pacRule : PacRuleMode
  rulesUpdating : Bool
deriving DecidableEq

/-- One row of the node list. -/
structure RowData where
  name : String
  address : String
  protocol : ProxyProtocol
  inUse : Bool
  group : String
deriving DecidableEq

/-- Everything the nodes page shows except the editor's text fields. -/
structure NodesSnapshot where
  rows : List RowData
  selected : Nat
  draft : DraftData
  errors : List (DraftField × DraftError)
  reconnectRequired : Bool
  advanced : Option DraftData
  qr : Option String
  dirty : Bool
  prompt : Bool
deriving DecidableEq

/-- Everything the settings page shows. -/
structure SettingsSnapshot where
  language : LanguagePreference
  appearance : AppearancePreference
  autostart : Bool
  hideOnStart : Bool
  closeToTray : Bool
  startup : StartupConnectionState
  mixedPort : Option String
  directUrl : String
  proxyUrl : String
  updateHours : UInt32
  pacSource : PacMode
  pacListen : String
  onlinePacUrl : String
  sheet : Option SettingSheet
deriving DecidableEq

/-- What the tray shows; `nodes` are the display names of all nodes. -/
structure TrayModel where
  connected : Bool
  activeName : String
  proxyMode : SystemProxyMode
  pacRule : PacRuleMode
  nodes : List String
  active : Option Nat
deriving DecidableEq

def protocolText : ProxyProtocol → String
  | .juicity => "juicity"
  | .shadowsocks => "shadowsocks"

/-- The line under the name of the active node. -/
def activeAddress (profile : StoredProfile) : String :=
  if profile.server = "" then protocolText profile.protocol
  else
    protocolText profile.protocol ++ " · " ++ formatHostPort profile.server profile.serverPort

def RowData.of (active index : Nat) (profile : StoredProfile) : RowData where
  name := profile.displayName
  address :=
    if profile.server = "" then "" else formatHostPort profile.server profile.serverPort
  protocol := profile.protocol
  inUse := decide (index = active)
  group := profile.group.getD ""

namespace Controller

variable {Digest : Type} (controller : Controller Digest)

def overview : OverviewSnapshot :=
  let config := controller.gui.config
  let active := controller.gui.selectedProfile
  { running := controller.connected
    activeName := (active.map StoredProfile.displayName).getD ""
    activeAddress := (active.map Gui.activeAddress).getD ""
    localAddress :=
      (splitHostPort config.mixedListen).map fun (host, port) => (host, toString port.toNat)
    pacUrl := effectivePacUrl config
    proxyMode := config.systemProxyMode
    pacRule := config.pacRuleMode
    rulesUpdating := controller.rulesUpdating }

/-- The snapshot of the nodes page, `Controller::nodes`. -/
def nodesPage : NodesSnapshot :=
  let active := controller.gui.runtime.selectedProfile
  let state := controller.nodes
  { rows := controller.gui.profiles.profiles.mapIdx (RowData.of active)
    selected := state.selected
    draft := state.draft
    errors := state.errors ++ state.advancedErrors
    -- unsaved edits are not applied; the saved version of the active node counts
    reconnectRequired :=
      controller.connected && decide (state.selected = active) &&
        decide (state.startedWith ≠ controller.saved.profiles.profiles[active]?)
    advanced := state.advanced
    qr := state.qr
    dirty := controller.nodesDirty
    prompt := controller.leave.isSome }

def settings : SettingsSnapshot :=
  let config := controller.gui.config
  let runtime := controller.gui.runtime
  { language := runtime.language
    appearance := runtime.appearance
    autostart := runtime.autoStart
    hideOnStart := runtime.hideWindowOnStartup
    closeToTray := runtime.closeToTray
    startup := runtime.startupConnectionState
    mixedPort := (splitHostPort config.mixedListen).map fun (_, port) => toString port.toNat
    directUrl := config.pacDirectUrl
    proxyUrl := config.pacProxyUrl
    updateHours := config.pacAutoUpdateHours
    pacSource := config.pacMode
    pacListen := config.pacListen
    onlinePacUrl := config.onlinePacUrl.getD ""
    sheet := controller.sheet }

def trayModel : TrayModel :=
  let profiles := controller.gui.profiles.profiles
  let selected := controller.gui.runtime.selectedProfile
  { connected := controller.connected
    activeName := (controller.gui.selectedProfile.map StoredProfile.displayName).getD ""
    proxyMode := controller.gui.config.systemProxyMode
    pacRule := controller.gui.config.pacRuleMode
    nodes := profiles.map StoredProfile.displayName
    active := if selected < profiles.length then some selected else none }

end Controller

/-- What is pushed into the window on its own. -/
inductive Part where
  | overview
  | notice
  | nodes
  /-- The text fields of the editor. -/
  | editor
  | settings
  | tray
deriving DecidableEq

def Part.Shows : Part → Type
  | .overview => OverviewSnapshot
  | .notice => Notice × Nat
  | .nodes => NodesSnapshot
  | .editor => DraftData
  | .settings => SettingsSnapshot
  | .tray => TrayModel

/-- What the controller shows of a part. -/
def Controller.view {Digest : Type} : (part : Part) → Controller Digest → part.Shows
  | .overview, controller => controller.overview
  | .notice, controller => (controller.notice, controller.noticeSeq)
  | .nodes, controller => controller.nodesPage
  | .editor, controller => controller.nodes.draft
  | .settings, controller => controller.settings
  | .tray, controller => controller.trayModel

end Juicity.Gui
