import Juicity.Gui.State

/-!
Owns `gui/src/ui/controller/persist.rs`: the node list as on disk, the dirty
flags with the save timer, and the detection of the application's own writes by
a hash of the content. Times are in milliseconds.
-/

namespace Juicity.Gui

open Juicity.Common

/-- What the controller is built with: `serde_json`, `content_hash`, the url and
base64 crates, and whether autostart is implemented. -/
structure Env (Digest : Type) where
  serde : Serde
  contentHash : Bytes → Digest
  url : UrlCrate
  base64 : Base64Crate
  autostartSupported : Bool

/-- Delay between the last change and the write. -/
def debounce : Nat := 400

/-- Delay before retrying a failed write. -/
def retry : Nat := 5000

/-- The node list and active node as last written to or read from disk. -/
structure Saved where
  profiles : ProfileStore
  active : Nat
deriving DecidableEq

namespace Saved

def clampActive (saved : Saved) : Saved :=
  { saved with active := min saved.active (saved.profiles.profiles.length - 1) }

def new (gui : GuiState) : Saved :=
  clampActive ⟨gui.profiles, gui.runtime.selectedProfile⟩

end Saved

namespace ConfigFile

/-- `ConfigFile::ALL`. -/
def all : List ConfigFile := [.app, .profiles, .runtime]

/-- What is written: the list and the active index are the saved ones. -/
def bytes (file : ConfigFile) (serde : Serde) (gui : GuiState) (saved : Saved) : Bytes :=
  match file with
  | .app => serde.app.toVec gui.config
  | .profiles => serde.profiles.toVec saved.profiles
  | .runtime => serde.runtime.toVec { gui.runtime with selectedProfile := saved.active }

/-- Parse a content into the live state; profiles go to `saved` only. -/
def load (file : ConfigFile) (serde : Serde) (gui : GuiState) (saved : Saved) (content : Bytes) :
    Option (GuiState × Saved) :=
  match file with
  | .app => (serde.app.fromSlice content).map fun config => ({ gui with config }, saved)
  | .profiles =>
      (serde.profiles.fromSlice content).map fun store =>
        (gui, { saved with profiles := store.filled }.clampActive)
  | .runtime =>
      (serde.runtime.fromSlice content).map fun runtime =>
        ({ gui with runtime }, { saved with active := runtime.selectedProfile }.clampActive)

end ConfigFile

/-- `known` is the hash of the content last written, read or skipped. -/
structure Persist (Digest : Type) where
  dirty : ConfigFile → Bool
  due : Option Nat
  known : ConfigFile → Option Digest

/-- The state a reload works on, with the files loaded so far. -/
structure Reload (Digest : Type) where
  persist : Persist Digest
  gui : GuiState
  saved : Saved
  reloaded : List ConfigFile

namespace Persist

variable {Digest : Type} (env : Env Digest)

/-- Start from the exact contents that were parsed. -/
def new (loaded : Files) : Persist Digest where
  dirty := fun _ => false
  due := none
  known := fun file => (loaded file).map env.contentHash

variable (persist : Persist Digest)

def mark (file : ConfigFile) (now : Nat) : Persist Digest :=
  { persist with
    dirty := Function.update persist.dirty file true
    due := some (now + debounce) }

/-- Time left until the pending save; zero when it is due. -/
def delay (now : Nat) : Option Nat := persist.due.map (· - now)

/-- Write a file now, bypassing the debounce. On failure nothing changes. -/
def write (file : ConfigFile) (gui : GuiState) (saved : Saved) (outcome : Except String Unit) :
    Persist Digest × Storage × Except String Unit :=
  let content := file.bytes env.serde gui saved
  match gui.storage.writeAtomic file content outcome with
  | (storage, .ok ()) =>
      ({ persist with
          dirty := Function.update persist.dirty file false
          known := Function.update persist.known file (some (env.contentHash content)) },
        storage, .ok ())
  | (storage, .error error) => (persist, storage, .error error)

/-- One file of a flush. -/
def flushFile (gui : GuiState) (saved : Saved) (writes : ConfigFile → Except String Unit)
    (now : Nat) (state : Persist Digest × Storage × Except String Unit) (file : ConfigFile) :
    Persist Digest × Storage × Except String Unit :=
  let (persist, storage, result) := state
  if persist.dirty file then
    match persist.write env file { gui with storage } saved (writes file) with
    | (persist, storage, .ok ()) => (persist, storage, result)
    | (persist, storage, .error error) =>
        ({ persist with due := some (now + retry) }, storage,
          match result with
          | .ok () => .error error
          | .error first => .error first)
  else state

/-- Write every dirty file. Failed files stay dirty and a retry is scheduled; the
first error is returned after trying all of them. -/
def flush (gui : GuiState) (saved : Saved) (writes : ConfigFile → Except String Unit)
    (now : Nat) : Persist Digest × Storage × Except String Unit :=
  ConfigFile.all.foldl (flushFile env gui saved writes now)
    ({ persist with due := none }, gui.storage, .ok ())

variable [DecidableEq Digest]

/-- One file of a reload. -/
def reloadFile (now : Nat) (state : Reload Digest) (file : ConfigFile) : Reload Digest :=
  match state.gui.storage.files file with
  | none => state
  | some content =>
      if state.persist.known file = some (env.contentHash content) then state
      else
        let persist : Persist Digest :=
          { state.persist with
            known := Function.update state.persist.known file (some (env.contentHash content)) }
        if persist.dirty file then
          { state with
            persist := { persist with due := persist.due.or (some (now + debounce)) } }
        else
          match file.load env.serde state.gui state.saved content with
          | some (gui, saved) =>
              { persist
                gui := { gui with storage := gui.storage.noteLoaded file content }
                saved
                reloaded := state.reloaded ++ [file] }
          | none => { state with persist }

/-- Reload clean files whose content changed on disk. Dirty files keep the local
value and are written on the next flush. -/
def reloadChanged (gui : GuiState) (saved : Saved) (now : Nat) : Reload Digest :=
  ConfigFile.all.foldl (reloadFile env now) ⟨persist, gui, saved, []⟩

end Persist

end Juicity.Gui
