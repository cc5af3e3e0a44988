import Juicity.Gui.Pac

/-!
Owns `gui/src/state.rs`: the state the controller edits, how it is loaded from
the configuration files, and the restart of the PAC server. Whether a corrupt
file can be moved aside and whether a listener can be bound are answers of the
outside world.
-/

namespace Juicity.Gui

open Juicity.Common

/-- Ghosts: `pacBound` says that the last attempt to bind the PAC listener
succeeded (before the first it is false), `pacRules` are the rule lists the text
of the server was last generated from. -/
structure GuiState where
  storage : Storage
  config : AppConfig
  profiles : ProfileStore
  runtime : RuntimeState
  pacServer : Option PacServer
  pacBound : Bool
  pacRules : List String × List String

/-! ## Loading -/

/-- `load_or_recover` of `load_with_bytes`: the value, and the content it was parsed from. -/
def Codec.loadOrRecover {α : Type} (codec : Codec α) (fallback : α) (content : Option Bytes) :
    α × Option Bytes :=
  match content with
  | none => (fallback, none)
  | some bytes =>
      match codec.fromSlice bytes with
      | some value => (value, some bytes)
      | none => (fallback, none)

/-- The content is a record of that file. -/
def Serde.parses (serde : Serde) : ConfigFile → Bytes → Bool
  | .app, content => (serde.app.fromSlice content).isSome
  | .profiles, content => (serde.profiles.fromSlice content).isSome
  | .runtime, content => (serde.runtime.fromSlice content).isSome

/-- The configuration directory once the corrupt files were moved aside. -/
def Storage.recovered (storage : Storage) (serde : Serde) (moved : ConfigFile → Bool) : Storage :=
  { storage with
    files := fun file =>
      (storage.files file).filter fun content => serde.parses file content || !moved file }

/-- The index in runtime.json. -/
def Serde.heldIndex (serde : Serde) (files : Files) : Nat :=
  (serde.runtime.loadOrRecover .default (files .runtime)).1.selectedProfile

namespace GuiState

/-- `load_tracked`: the state, and the contents it was parsed from. -/
def loadTracked (serde : Serde) (storage : Storage) (moved : ConfigFile → Bool) :
    GuiState × Files :=
  let app := serde.app.loadOrRecover .default (storage.files .app)
  let profiles := serde.profiles.loadOrRecover .default (storage.files .profiles)
  let runtime := serde.runtime.loadOrRecover .default (storage.files .runtime)
  let state : GuiState :=
    { storage := storage.recovered serde moved
      config := app.1
      profiles := profiles.1.filled
      runtime :=
        if profiles.1.profiles = [] then { runtime.1 with selectedProfile := 0 } else runtime.1
      pacServer := none
      pacBound := false
      pacRules := ([], []) }
  (state, fun
    | .app => app.2
    | .profiles => profiles.2
    | .runtime => runtime.2)

/-- What a fresh start would read from the files. -/
def fresh (serde : Serde) (files : Files) : GuiState :=
  (loadTracked serde ⟨files, none, none, []⟩ fun _ => false).1

variable (state : GuiState)

def selectedProfile : Option StoredProfile :=
  state.profiles.profiles[state.runtime.selectedProfile]?

def setSelected (index : Nat) : GuiState :=
  { state with runtime := { state.runtime with selectedProfile := index } }

def normalizeSelectedIndex : GuiState :=
  let state := { state with profiles := state.profiles.filled }
  if state.runtime.selectedProfile ≥ state.profiles.profiles.length then
    state.setSelected (state.profiles.profiles.length - 1)
  else state

/-- The index is the last one when it lies outside. -/
theorem normalizeSelectedIndex_eq :
    state.normalizeSelectedIndex = { state with profiles := state.profiles.filled }.setSelected
      (min state.runtime.selectedProfile (state.profiles.filled.profiles.length - 1)) := by
  have some := List.length_pos_of_ne_nil state.profiles.filled_ne_nil
  unfold normalizeSelectedIndex
  dsimp only
  by_cases inside : state.runtime.selectedProfile < state.profiles.filled.profiles.length
  · rw [if_neg (Nat.not_le_of_lt inside), Nat.min_eq_left (by omega)]
    rfl
  · rw [if_pos (Nat.le_of_not_lt inside), Nat.min_eq_right (by omega)]

theorem min_lt_length_filled (store : ProfileStore) (index : Nat) :
    min index (store.filled.profiles.length - 1) < store.filled.profiles.length := by
  have some := List.length_pos_of_ne_nil store.filled_ne_nil
  omega

/-! ## PAC server -/

/-- The text generated from the rule files as they are. -/
def generatedPac : String :=
  let rules := state.storage.loadRules
  generatePac state.config.pacRuleMode state.config.mixedListen rules.1 rules.2

/-- The server on the address about to be bound is stopped first, one on another
address only after the bind has succeeded. -/
def releaseListener : GuiState :=
  if state.pacServer.any (fun server => decide (server.listen = state.config.pacListen)) then
    { state with pacServer := none }
  else state

/-- `restart_pac_server`, with the outcome of binding the listener if it comes to that. -/
def restartPacServer (forceRestart : Bool) (bind : Except String Unit) :
    GuiState × Except String Unit :=
  let content := state.generatedPac
  let rules := state.storage.loadRules
  match state.pacServer, forceRestart with
  | some server, false =>
      ({ state with pacServer := some (server.update content), pacRules := rules }, .ok ())
  | _, _ =>
      match bind with
      | .ok () =>
          ({ state with
              pacServer := some ⟨state.config.pacListen, content⟩
              pacBound := true
              pacRules := rules }, .ok ())
      | .error error => ({ state.releaseListener with pacBound := false }, .error error)

/-- A restart touches nothing but the server and what is known about it. -/
theorem restartPacServer_same (forceRestart : Bool) (bind : Except String Unit) :
    ∃ server bound rules, (state.restartPacServer forceRestart bind).1 =
      { state with pacServer := server, pacBound := bound, pacRules := rules } := by
  unfold restartPacServer
  dsimp only
  split
  · exact ⟨_, _, _, rfl⟩
  · split
    · exact ⟨_, _, _, rfl⟩
    · unfold releaseListener
      split
      · exact ⟨_, _, _, rfl⟩
      · exact ⟨_, _, _, rfl⟩

end GuiState

/-- `non_empty_text`. -/
def nonEmptyText (input : String) : Option String :=
  let text := trim input
  if text = "" then none else some text

end Juicity.Gui
