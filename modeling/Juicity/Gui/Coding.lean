import Juicity.Gui.Controller.Model
import Juicity.Gui.LinkCompatibility
import Juicity.Machine.TableCode
import Mathlib.Logic.Equiv.List
import Mathlib.Tactic.DeriveEncodable

/-!
Owns a `Serde` that keeps what is asked of `serde_json`: every record has a code in
bytes that reads back as the record. Also owns an environment with such records,
and the files with two nodes that the controller is tried on.
-/

namespace Juicity.Gui

open Juicity.Common (Bytes UrlCrate)
open Juicity.Machine

instance encodableChar : Encodable Char := .ofLeftInverse Char.toNat Char.ofNat Char.ofNat_toNat

instance encodableString : Encodable String :=
  .ofLeftInverse String.toList String.ofList fun _ => String.ofList_toList

instance encodableUInt16 : Encodable UInt16 :=
  .ofLeftInverse UInt16.toNat UInt16.ofNat fun _ => UInt16.ofNat_toNat

instance encodableUInt32 : Encodable UInt32 :=
  .ofLeftInverse UInt32.toNat UInt32.ofNat fun _ => UInt32.ofNat_toNat

deriving instance Encodable for ProxyProtocol, SystemProxyMode, PacMode, PacRuleMode,
  StartupConnectionState, LanguagePreference, AppearancePreference

deriving instance Encodable for ProxyProfile
deriving instance Encodable for StoredProfile
deriving instance Encodable for AppConfig
deriving instance Encodable for ProfileStore
deriving instance Encodable for RuntimeState

/-- The code with short words for the values of a table. -/
def Codec.ofTable {α : Type} [DecidableEq α] [Encodable α] (table : List α) : Codec α :=
  ⟨TableCode.toWord table, TableCode.ofWord table⟩

theorem Codec.lawful_ofTable {α : Type} [DecidableEq α] [Encodable α] (table : List α) :
    (Codec.ofTable table).Lawful :=
  TableCode.ofWord_toWord table

/-- The records with short words for the given lists and runtime states. -/
def Serde.ofTables (apps : List AppConfig) (stores : List ProfileStore)
    (runtimes : List RuntimeState) : Serde :=
  ⟨.ofTable apps, .ofTable stores, .ofTable runtimes⟩

theorem Serde.lawful_ofTables (apps : List AppConfig) (stores : List ProfileStore)
    (runtimes : List RuntimeState) : (Serde.ofTables apps stores runtimes).Lawful :=
  ⟨Codec.lawful_ofTable apps, Codec.lawful_ofTable stores, Codec.lawful_ofTable runtimes⟩

/-- Every content is its own hash. -/
def Env.ofTables (apps : List AppConfig) (stores : List ProfileStore)
    (runtimes : List RuntimeState) : Env Bytes where
  serde := .ofTables apps stores runtimes
  contentHash := id
  url := UrlCrate.std
  base64 := noBase64
  autostartSupported := false

/-- The outside world does what it is asked. -/
def Answers.willing : Answers where
  write := fun _ => .ok ()
  bind := .ok ()
  startCore := .ok ()
  pollCore := none
  applySystemProxy := .ok ()
  copyText := .ok ()
  pasteText := .ok ""
  setAutostart := .ok ()
  installAppIcon := .ok ()
  qrMask := .ok ()
  rulesAgeHours := none

/-- The three files hold these records. -/
def Storage.ofRecords (serde : Serde) (config : AppConfig) (store : ProfileStore)
    (runtime : RuntimeState) : Storage where
  files
    | .app => some (serde.app.toVec config)
    | .profiles => some (serde.profiles.toVec store)
    | .runtime => some (serde.runtime.toVec runtime)
  chinaList := none
  gfw := none
  events := []

/-! ## Two nodes -/

/-- A node that lacks no mandatory field. -/
def serverNode (name : String) : StoredProfile :=
  { StoredProfile.default with name := name, server := "host", uuid := "id", password := "word" }

def oneNode : ProfileStore := ⟨[serverNode "first"]⟩

def twoNodes : ProfileStore := ⟨[serverNode "first", serverNode "second"]⟩

def secondActive : RuntimeState := { RuntimeState.default with selectedProfile := 1 }

def nodesEnv : Env Bytes :=
  .ofTables [.default] [oneNode, twoNodes] [.default, secondActive]

theorem nodesEnv_lawful : nodesEnv.serde.Lawful :=
  Serde.lawful_ofTables _ _ _

/-- The second of two nodes is active. -/
def nodesStorage : Storage :=
  .ofRecords nodesEnv.serde .default twoNodes secondActive

end Juicity.Gui
