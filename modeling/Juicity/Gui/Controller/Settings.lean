import Juicity.Gui.Controller.Nodes

/-!
Owns `gui/src/ui/controller/settings.rs` and `tray.rs`: the settings with the
sheet that holds its own draft, and the actions of the tray. No result is a
panic.
-/

namespace Juicity.Gui

open Juicity.Common Juicity.Machine

/-! ## Sheet values -/

/-- Host names are labels of letters, digits and hyphens, IPv4 is read as such. -/
def validHost (host : List Char) : Bool :=
  if host.all fun char => isDigitOf 10 char || char = '.' then
    (IpText.std.parseIpv4 (String.ofList host)).isSome
  else
    (host.splitOn '.').all fun label =>
      decide (label ≠ []) && decide (label.head? ≠ some '-') && decide (label.getLast? ≠ some '-') &&
        label.all fun char => char.isAlphanum || char = '-'

/-- The host as it is written back, and the port. -/
def splitListen (text : List Char) : Option (String × List Char) :=
  match text with
  | '[' :: rest =>
      (endOfBrackets rest).bind fun (ip, port) =>
        (IpText.std.parseIpv6 (String.ofList ip)).map fun _ =>
          ("[" ++ String.ofList ip ++ "]", port)
  | _ =>
      (Machine.Url.cutLast ':' text).bind fun (host, port) =>
        if validHost host then some (String.ofList host, port) else none

/-- Normalize `host:port`; the port is 1–65535 without leading zeros. -/
def parseListen (text : String) : Option String :=
  if text.toList.any isWhitespace then none
  else
    (splitListen text.toList).bind fun (host, port) =>
      if port ≠ [] ∧ port.all (isDigitOf 10) then
        ((parseU16 port).filter (· > 0)).map fun number =>
          host ++ ":" ++ toString number.toNat
      else none

def httpUrl (url : UrlCrate) (text : String) : Except SettingError String :=
  match url.parse text with
  | some parsed =>
      if (parsed.scheme = "http" ∨ parsed.scheme = "https") ∧ parsed.hostStr.isSome then .ok text
      else .error .url
  | none => .error .url

/-- Validate a sheet value; the result is the normalized text. -/
def validate (url : UrlCrate) (key : SettingKey) (text : String) : Except SettingError String :=
  let text := trim text
  match key with
  | .mixedPort =>
      match parseU16 text.toList with
      | some port => if port > 0 then .ok (toString port.toNat) else .error .port
      | none => .error .port
  | .pacListen =>
      match parseListen text with
      | some listen => .ok listen
      | none => .error .listenAddress
  | .directUrl | .proxyUrl => httpUrl url text
  -- empty clears the online URL
  | .onlinePacUrl => if text = "" then .ok "" else httpUrl url text
  | .updateHours =>
      match parseU32 text.toList with
      | some hours => if hours ≥ 1 then .ok (toString hours.toNat) else .error .hours
      | none => .error .hours

/-- What the tray menu asks for; the other entries change no state. -/
inductive TrayEvent where
  | toggleConnection
  | setProxyMode (mode : SystemProxyMode)
  | setPacRule (rule : PacRuleMode)
  | updateRules
  | selectNode (index : Nat)
  | importClipboard
  | window

namespace Controller

variable {Digest : Type} (env : Env Digest) (answers : Answers) (now : Nat)
  (controller : Controller Digest)

/-! ## Runtime settings -/

/-- Store changed runtime settings. -/
def changeRuntime (runtime : RuntimeState) : Controller Digest :=
  (controller.setRuntime runtime).markDirty now .runtime

def setLanguage (language : LanguagePreference) : Controller Digest :=
  let runtime := controller.gui.runtime
  if runtime.language = language then controller
  else controller.changeRuntime now { runtime with language }

def setAppearance (appearance : AppearancePreference) : Controller Digest :=
  let runtime := controller.gui.runtime
  if runtime.appearance = appearance then controller
  else controller.changeRuntime now { runtime with appearance }

/-- The switch reverts when the entry cannot be written. -/
def setAutostart (enabled : Bool) : Controller Digest :=
  let runtime := controller.gui.runtime
  if env.autostartSupported = false ∨ runtime.autoStart = enabled then controller
  else
    match answers.setAutostart with
    | .ok () => controller.changeRuntime now { runtime with autoStart := enabled }
    | .error error =>
        controller.setNotice (.saveFailed ("Could not update the autostart entry: " ++ error))

def installAppIcon : Controller Digest :=
  match answers.installAppIcon with
  | .ok () => controller.setNotice .appIconInstalled
  | .error error => controller.setNotice (.appIconFailed error)

def setHideOnStart (hide : Bool) : Controller Digest :=
  let runtime := controller.gui.runtime
  if runtime.hideWindowOnStartup = hide then controller
  else controller.changeRuntime now { runtime with hideWindowOnStartup := hide }

def setCloseToTray (closeToTray : Bool) : Controller Digest :=
  let runtime := controller.gui.runtime
  if runtime.closeToTray = closeToTray then controller
  else controller.changeRuntime now { runtime with closeToTray }

def setStartupConnection (connection : StartupConnectionState) : Controller Digest :=
  let runtime := controller.gui.runtime
  if runtime.startupConnectionState = connection then controller
  else controller.changeRuntime now { runtime with startupConnectionState := connection }

/-- Connect on start when the startup setting asks for it. -/
def startupConnection : Controller Digest :=
  let start :=
    match controller.gui.runtime.startupConnectionState with
    | .off => false
    | .on => true
    | .lastState => controller.gui.runtime.wasRunning
  if start then controller.startActive answers now else controller

/-! ## Application settings -/

/-- Store changed application settings. -/
def changeConfig (config : AppConfig) : Controller Digest :=
  (controller.setConfig config).markDirty now .app

/-- Re-point the OS proxy when it is in PAC mode. -/
def reapplyPacProxy : Controller Digest :=
  if controller.gui.config.systemProxyMode = .pac then controller.applyProxy answers else controller

/-- Local or online: which PAC URL the system proxy points at. -/
def setPacSource (mode : PacMode) : Controller Digest :=
  let config := controller.gui.config
  if config.pacMode = mode then controller
  else (controller.changeConfig now { config with pacMode := mode }).reapplyPacProxy answers

def setUpdateHours (hours : UInt32) : Controller Digest :=
  let config := controller.gui.config
  if config.pacAutoUpdateHours = hours then controller
  else controller.changeConfig now { config with pacAutoUpdateHours := hours }

/-- The local mixed port changed: regenerate the PAC, re-point the system proxy and
restart a running core. -/
def applyListenChange : Controller Digest :=
  let (restarted, outcome) := controller.restartPac answers false
  let reported := restarted.report outcome .proxyFailed
  let applied :=
    if reported.gui.config.systemProxyMode = .disable then reported
    else reported.applyProxy answers
  if applied.connected then applied.startActive answers now else applied

/-- Serve from a new PAC address; on failure the previous address and server stay. -/
def changePacListen (listen : String) : Controller Digest :=
  let gui := controller.gui
  let changed := controller.setConfig { gui.config with pacListen := listen }
  match changed.restartPac answers true with
  | (restarted, .ok ()) => (restarted.markDirty now .app).reapplyPacProxy answers
  | (restarted, .error error) =>
      -- the address is the previous one again, and so is what is known about binding it
      { restarted with
        gui := { restarted.gui with config := gui.config, pacBound := gui.pacBound } }.setNotice
          (.proxyFailed error)

/-! ## Sheet -/

def openSheet (key : SettingKey) (draft : String) : Controller Digest :=
  { controller with sheet := some ⟨key, draft, none⟩ }

/-- Open the sheet with the current value as its draft. -/
def openSetting (key : SettingKey) : Option (Controller Digest) :=
  let config := controller.gui.config
  match key with
  | .mixedPort =>
      (splitHostPort config.mixedListen).map fun (_, port) =>
        controller.openSheet key (toString port.toNat)
  | .directUrl => some (controller.openSheet key config.pacDirectUrl)
  | .proxyUrl => some (controller.openSheet key config.pacProxyUrl)
  | .updateHours =>
      some (controller.openSheet key
        (if config.pacAutoUpdateHours = 0 then "24" else toString config.pacAutoUpdateHours.toNat))
  | .pacListen => some (controller.openSheet key config.pacListen)
  -- the row is disabled in local mode
  | .onlinePacUrl =>
      some (if config.pacMode = .online then
        controller.openSheet key (config.onlinePacUrl.getD "") else controller)

/-- Update the sheet draft and its inline error. -/
def editSetting (text : String) : Controller Digest :=
  match controller.sheet with
  | none => controller
  | some sheet =>
      let error :=
        match validate env.url sheet.key text with
        | .ok _ => none
        | .error error => some error
      { controller with sheet := some { sheet with draft := text, error } }

def cancelSetting : Controller Digest := { controller with sheet := none }

/-- Apply a validated value of the sheet. -/
def commitValue (key : SettingKey) (value : String) : Option (Controller Digest) :=
  let config := controller.gui.config
  match key with
  | .mixedPort =>
      (parseU16 value.toList).bind fun port =>
        (splitHostPort config.mixedListen).map fun (host, _) =>
          let listen := formatHostPort host port
          if listen = config.mixedListen then controller
          else
            (controller.changeConfig now { config with mixedListen := listen }).applyListenChange
              answers now
  | .directUrl =>
      some (if config.pacDirectUrl = value then controller
        else controller.changeConfig now { config with pacDirectUrl := value })
  | .proxyUrl =>
      some (if config.pacProxyUrl = value then controller
        else controller.changeConfig now { config with pacProxyUrl := value })
  | .updateHours =>
      (parseU32 value.toList).map fun hours =>
        if config.pacAutoUpdateHours = hours then controller
        else controller.changeConfig now { config with pacAutoUpdateHours := hours }
  | .pacListen =>
      some (if config.pacListen = value then controller
        else controller.changePacListen answers now value)
  | .onlinePacUrl =>
      let url := if value = "" then none else some value
      some (if config.onlinePacUrl = url then controller
        else
          (controller.changeConfig now { config with onlinePacUrl := url }).reapplyPacProxy answers)

/-- Validate, apply and close; an invalid draft keeps the sheet open. -/
def commitSetting : Option (Controller Digest) :=
  match controller.sheet with
  | none => some controller
  | some sheet =>
      match validate env.url sheet.key sheet.draft with
      | .error error => some { controller with sheet := some { sheet with error := some error } }
      | .ok value => { controller with sheet := none }.commitValue answers now sheet.key value

/-! ## Tray -/

/-- Make a node active without moving the editor selection; a running core switches
to it. -/
def activateNode (index : Nat) : Controller Digest :=
  match controller.gui.profiles.profiles[index]? with
  | none => controller
  | some target =>
      if missingFields target = [] then
        if controller.gui.runtime.selectedProfile = index then controller
        else
          let switched := controller.setWorkingActive index
          if switched.connected then switched.startActive answers now else switched
      else controller.setNotice (.missingFields (missingFields target))

def onTray (event : TrayEvent) : Option (Controller Digest) :=
  match event with
  | .toggleConnection => some (controller.toggleConnection answers now)
  | .setProxyMode mode => some (controller.setProxyMode answers now mode)
  | .setPacRule rule => some (controller.setPacRule answers now rule)
  | .updateRules => some controller.updateRules.1
  | .selectNode index => some (controller.activateNode answers now index)
  | .importClipboard => controller.importLinks env answers
  | .window => some controller

end Controller

end Juicity.Gui
