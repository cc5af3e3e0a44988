import Juicity.Gui.Link

/-!
Owns `gui/src/config.rs`: the three configuration files, their records with the
defaults, and the storage they are read from and written to; with
`gui/src/validate.rs`. How `serde_json` writes and reads a record is a
parameter. A file that is there is taken to be readable.
-/

namespace Juicity.Gui

open Juicity.Common

inductive SystemProxyMode where
  | disable
  | pac
  | global
deriving DecidableEq

inductive PacMode where
  | local
  | online
deriving DecidableEq

/-- Which rule set the local PAC file is generated from. -/
inductive PacRuleMode where
  | bypassChina
  | proxyGfw
deriving DecidableEq

inductive StartupConnectionState where
  | off
  | on
  | lastState
deriving DecidableEq

inductive LanguagePreference where
  | followSystem
  | en
  | zhCn
  | zhTw
  | ru
deriving DecidableEq

inductive AppearancePreference where
  | followSystem
  | light
  | dark
deriving DecidableEq

/-- `ProxyProfile` with the fields that links do not carry. -/
structure StoredProfile extends ProxyProfile where
  pluginArgs : Option String
  timeout : UInt32
  group : Option String
  configPath : Option String
  link : Option String
deriving DecidableEq

def StoredProfile.default : StoredProfile where
  toProxyProfile := ProxyProfile.default
  pluginArgs := none
  timeout := 5
  group := none
  configPath := none
  link := none

/-- The label shown in the server list. -/
def StoredProfile.displayName (profile : StoredProfile) : String :=
  if profile.name ≠ "" ∧ profile.name ≠ "New Server" then profile.name
  else if profile.server ≠ "" then profile.server ++ ":" ++ toString profile.serverPort.toNat
  else "New Server"

structure AppConfig where
  mixedListen : String
  systemProxyMode : SystemProxyMode
  pacMode : PacMode
  pacRuleMode : PacRuleMode
  pacListen : String
  onlinePacUrl : Option String
  pacDirectUrl : String
  pacProxyUrl : String
  pacAutoUpdateHours : UInt32
deriving DecidableEq

def AppConfig.default : AppConfig where
  mixedListen := "127.0.0.1:1080"
  systemProxyMode := .disable
  pacMode := .local
  pacRuleMode := .bypassChina
  pacListen := "127.0.0.1:1090"
  onlinePacUrl := none
  pacDirectUrl :=
    "https://raw.githubusercontent.com/Loyalsoldier/v2ray-rules-dat/release/direct-list.txt"
  pacProxyUrl :=
    "https://raw.githubusercontent.com/Loyalsoldier/v2ray-rules-dat/release/proxy-list.txt"
  pacAutoUpdateHours := 0

structure ProfileStore where
  profiles : List StoredProfile
deriving DecidableEq

def ProfileStore.default : ProfileStore := ⟨[]⟩

/-- A store is never left empty: it gets a default profile. -/
def ProfileStore.filled (store : ProfileStore) : ProfileStore :=
  if store.profiles = [] then ⟨[StoredProfile.default]⟩ else store

theorem ProfileStore.filled_ne_nil (store : ProfileStore) : store.filled.profiles ≠ [] := by
  unfold ProfileStore.filled
  split
  · exact List.cons_ne_nil _ _
  · assumption

structure RuntimeState where
  language : LanguagePreference
  appearance : AppearancePreference
  autoStart : Bool
  selectedProfile : Nat
  closeToTray : Bool
  hideWindowOnStartup : Bool
  startupConnectionState : StartupConnectionState
  wasRunning : Bool
deriving DecidableEq

def RuntimeState.default : RuntimeState where
  language := .followSystem
  appearance := .followSystem
  autoStart := false
  selectedProfile := 0
  closeToTray := true
  hideWindowOnStartup := false
  startupConnectionState := .off
  wasRunning := false

/-! ## Validation -/

/-- A mandatory profile field. -/
inductive RequiredField where
  | server
  | uuid
  | password
deriving DecidableEq

/-- Mandatory fields the profile is still missing, in display order. -/
def missingFields (profile : StoredProfile) : List RequiredField :=
  let server := if trim profile.server = "" then [RequiredField.server] else []
  match profile.protocol with
  | .juicity =>
      server ++ (if trim profile.uuid = "" then [.uuid] else []) ++
        (if profile.password = "" then [.password] else [])
  | .shadowsocks =>
      server ++ (if profile.password = "" ∧ profile.method ≠ "none" ∧ profile.method ≠ "plain" then
        [.password] else [])

/-! ## Storage -/

inductive ConfigFile where
  | app
  | profiles
  | runtime
deriving DecidableEq

/-- How a record is written to a file and read from one. -/
structure Codec (α : Type) where
  toVec : α → Bytes
  fromSlice : Bytes → Option α

/-- What is written reads back as what it was. -/
def Codec.Lawful {α : Type} (codec : Codec α) : Prop :=
  ∀ value, codec.fromSlice (codec.toVec value) = some value

/-- The records of app.json, profiles.json and runtime.json in `serde_json`. -/
structure Serde where
  app : Codec AppConfig
  profiles : Codec ProfileStore
  runtime : Codec RuntimeState

structure Serde.Lawful (serde : Serde) : Prop where
  app : serde.app.Lawful
  profiles : serde.profiles.Lawful
  runtime : serde.runtime.Lawful

/-- A missing file has no content. -/
abbrev Files := ConfigFile → Option Bytes

/-- What happened to a configuration file: `loaded` is a content that replaced the
one in memory, `wrote` a completed write, with all the files after it, and
`failed` a write that was not completed. -/
inductive FileEvent where
  | loaded (file : ConfigFile) (content : Bytes)
  | wrote (file : ConfigFile) (content : Bytes) (files : Files)
  | failed (file : ConfigFile)

/-- The configuration directory. Ghost: `events`, newest first. -/
structure Storage where
  files : Files
  chinaList : Option String
  gfw : Option String
  events : List FileEvent

namespace Storage

/-- `write_atomic`: a failed write leaves the file as it was. -/
def writeAtomic (storage : Storage) (file : ConfigFile) (payload : Bytes)
    (outcome : Except String Unit) : Storage × Except String Unit :=
  match outcome with
  | .ok () =>
      let files := Function.update storage.files file (some payload)
      ({ storage with files, events := .wrote file payload files :: storage.events }, .ok ())
  | .error error => ({ storage with events := .failed file :: storage.events }, .error error)

/-- The content of a file was taken into memory. -/
def noteLoaded (storage : Storage) (file : ConfigFile) (content : Bytes) : Storage :=
  { storage with events := .loaded file content :: storage.events }

/-- The events of a later state that an earlier one does not have. -/
def since (before after : Storage) : List FileEvent :=
  after.events.take (after.events.length - before.events.length)

theorem since_append {before after : Storage} {new : List FileEvent}
    (events : after.events = new ++ before.events) : before.since after = new := by
  rw [since, events, List.length_append, Nat.add_sub_cancel, List.take_left]

end Storage

end Juicity.Gui
