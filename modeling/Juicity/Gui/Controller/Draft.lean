import Juicity.Gui.State

/-!
Owns the editor draft of `gui/src/ui/controller/nodes.rs`: the text of one node
as typed, what is wrong with it, and how its valid fields reach the profile.
-/

namespace Juicity.Gui

open Juicity.Common

inductive DraftField where
  | name
  | protocol
  | server
  | port
  | uuid
  | password
  | method
  | sni
  | allowInsecure
  | pinnedCertchainSha256
  | congestionControl
  | plugin
  | pluginOptions
  | pluginArgs
  | timeout
  | group
deriving DecidableEq

/-- Why a draft field cannot be saved. -/
inductive DraftError where
  | required
  | port
  | timeout
deriving DecidableEq

/-- Editor text for one node, as typed. -/
structure DraftData where
  name : String
  protocol : ProxyProtocol
  server : String
  port : String
  uuid : String
  password : String
  method : String
  sni : String
  allowInsecure : Bool
  pinnedCertchainSha256 : String
  congestionControl : String
  plugin : String
  pluginOptions : String
  pluginArgs : String
  timeout : String
  group : String
deriving DecidableEq

def DraftData.default : DraftData where
  name := ""
  protocol := .juicity
  server := ""
  port := ""
  uuid := ""
  password := ""
  method := ""
  sni := ""
  allowInsecure := false
  pinnedCertchainSha256 := ""
  congestionControl := ""
  plugin := ""
  pluginOptions := ""
  pluginArgs := ""
  timeout := ""
  group := ""

def parsePort (text : String) : Option UInt16 :=
  (parseU16 (trim text).toList).filter (· > 0)

def parseTimeout (text : String) : Option UInt32 := parseU32 (trim text).toList

namespace DraftData

def fromProfile (profile : StoredProfile) : DraftData where
  name := profile.name
  protocol := profile.protocol
  server := profile.server
  port := toString profile.serverPort.toNat
  uuid := profile.uuid
  password := profile.password
  method := profile.method
  sni := profile.sni.getD ""
  allowInsecure := profile.allowInsecure
  pinnedCertchainSha256 := profile.pinnedCertchainSha256.getD ""
  congestionControl := profile.congestionControl.getD "bbr"
  plugin := profile.plugin.getD ""
  pluginOptions := profile.pluginOpts.getD ""
  pluginArgs := profile.pluginArgs.getD ""
  timeout := toString profile.timeout.toNat
  group := profile.group.getD ""

variable (draft : DraftData)

def set (field : DraftField) (value : String) : DraftData :=
  match field with
  | .name => { draft with name := value }
  | .protocol =>
      { draft with protocol := if value = "shadowsocks" then .shadowsocks else .juicity }
  | .server => { draft with server := value }
  | .port => { draft with port := value }
  | .uuid => { draft with uuid := value }
  | .password => { draft with password := value }
  | .method => { draft with method := value }
  | .sni => { draft with sni := value }
  | .allowInsecure => { draft with allowInsecure := decide (value = "true") }
  | .pinnedCertchainSha256 => { draft with pinnedCertchainSha256 := value }
  | .congestionControl => { draft with congestionControl := value }
  | .plugin => { draft with plugin := value }
  | .pluginOptions => { draft with pluginOptions := value }
  | .pluginArgs => { draft with pluginArgs := value }
  | .timeout => { draft with timeout := value }
  | .group => { draft with group := value }

/-- Copy the fields edited in the Advanced sheet. -/
def takeAdvanced (sheet : DraftData) : DraftData :=
  { draft with
    sni := sheet.sni
    allowInsecure := sheet.allowInsecure
    pinnedCertchainSha256 := sheet.pinnedCertchainSha256
    congestionControl := sheet.congestionControl
    plugin := sheet.plugin
    pluginOptions := sheet.pluginOptions
    pluginArgs := sheet.pluginArgs
    timeout := sheet.timeout
    group := sheet.group }

/-- Mandatory fields that are empty, asked of a profile with nothing else filled in. -/
def missing : List DraftField :=
  (missingFields
    { StoredProfile.default with
      protocol := draft.protocol
      server := draft.server
      uuid := draft.uuid
      password := draft.password
      method := draft.method }).map fun
    | .server => .server
    | .uuid => .uuid
    | .password => .password

def errors : List (DraftField × DraftError) :=
  draft.missing.map (·, .required) ++
    (if parsePort draft.port = none then [(.port, .port)] else []) ++
    (if parseTimeout draft.timeout = none then [(.timeout, .timeout)] else [])

/-- The text of a field that can hold invalid input. -/
def checkedText : DraftField → String
  | .server => draft.server
  | .port => draft.port
  | .uuid => draft.uuid
  | .password => draft.password
  | .timeout => draft.timeout
  -- `errors` reports no other field
  | _ => ""

/-- Invalid text that `applyTo` kept out of the profile. -/
def unapplied (profile : StoredProfile) : Bool :=
  let stored := fromProfile profile
  draft.errors.any fun error => draft.checkedText error.1 ≠ stored.checkedText error.1

/-- Write every changed, valid field into the profile; invalid or emptied mandatory
fields keep the last valid value. -/
def applyTo (profile : StoredProfile) : StoredProfile :=
  let current := fromProfile profile
  let missing := draft.missing
  { profile with
    name := if draft.name ≠ current.name then trim draft.name else profile.name
    protocol := draft.protocol
    server :=
      if draft.server ≠ current.server ∧ .server ∉ missing then trim draft.server
      else profile.server
    serverPort := (parsePort draft.port).getD profile.serverPort
    uuid :=
      if draft.uuid ≠ current.uuid ∧ .uuid ∉ missing then trim draft.uuid else profile.uuid
    password := if .password ∉ missing then draft.password else profile.password
    method := draft.method
    sni := if draft.sni ≠ current.sni then nonEmptyText draft.sni else profile.sni
    allowInsecure := draft.allowInsecure
    pinnedCertchainSha256 :=
      if draft.pinnedCertchainSha256 ≠ current.pinnedCertchainSha256 then
        nonEmptyText draft.pinnedCertchainSha256
      else profile.pinnedCertchainSha256
    congestionControl :=
      if draft.congestionControl ≠ current.congestionControl then
        normalizeCongestionControl draft.congestionControl
      else profile.congestionControl
    plugin := if draft.plugin ≠ current.plugin then nonEmptyText draft.plugin else profile.plugin
    pluginOpts :=
      if draft.pluginOptions ≠ current.pluginOptions then nonEmptyText draft.pluginOptions
      else profile.pluginOpts
    pluginArgs :=
      if draft.pluginArgs ≠ current.pluginArgs then nonEmptyText draft.pluginArgs
      else profile.pluginArgs
    timeout := (parseTimeout draft.timeout).getD profile.timeout
    group := if draft.group ≠ current.group then nonEmptyText draft.group else profile.group }

/-- A draft without errors holds no text that was kept out. -/
theorem unapplied_of_errors_nil {draft : DraftData} (clean : draft.errors = [])
    (profile : StoredProfile) : draft.unapplied profile = false := by
  simp [unapplied, clean]

end DraftData

end Juicity.Gui
