import Juicity.Gui.Controller.Frames

/-!
Owns what a reload does, file by file: which contents are taken into memory, what
becomes of the records, and what is known about the files afterwards. Looking at
one file leaves alone what the next file is judged by, so the three files are
described by the state before the reload.
-/

namespace Juicity.Gui

open Juicity.Common Juicity.Machine

namespace Persist

variable {Digest : Type} [DecidableEq Digest] (env : Env Digest) (persist : Persist Digest)
  (now : Nat)

/-- The content of a file that a reload takes into memory: it is not the one the
application knows, the file is clean, and the content parses. -/
def toLoad (files : Files) (file : ConfigFile) : Option Bytes :=
  (files file).filter fun content =>
    decide (persist.known file ≠ some (env.contentHash content)) && !persist.dirty file &&
      env.serde.parses file content

/-- What is known of a file once it was looked at; a dirty one gets its save timer back. -/
def looked (files : Files) (file : ConfigFile) : Persist Digest :=
  match files file with
  | none => persist
  | some content =>
      if persist.known file = some (env.contentHash content) then persist
      else
        { persist with
          known := Function.update persist.known file (some (env.contentHash content))
          due := if persist.dirty file then persist.due.or (some (now + debounce)) else persist.due }

variable {env persist now}

@[simp] theorem looked_dirty (files : Files) (file : ConfigFile) :
    (persist.looked env now files file).dirty = persist.dirty := by
  unfold looked
  split
  · rfl
  · split
    · rfl
    · rfl

/-- Of the file looked at the hash of its content is known, of the others nothing new. -/
theorem looked_known (files : Files) (file other : ConfigFile) :
    (persist.looked env now files file).known other =
      if other = file then ((files file).map env.contentHash).or (persist.known file)
      else persist.known other := by
  unfold looked
  cases held : files file with
  | none => by_cases same : other = file <;> simp [same]
  | some content =>
      by_cases known : persist.known file = some (env.contentHash content)
      · by_cases same : other = file <;> simp [known, same]
      · by_cases same : other = file <;> simp [known, same]

theorem looked_due (env : Env Digest) (now : Nat) (files : Files) (file : ConfigFile)
    (timed : persist.due.isSome = true) :
    (persist.looked env now files file).due = persist.due := by
  obtain ⟨due, set⟩ := Option.isSome_iff_exists.mp timed
  unfold looked
  split
  · rfl
  · split
    · rfl
    · simp [set]

theorem toLoad_looked {files : Files} {file other : ConfigFile} (differ : other ≠ file) :
    (persist.looked env now files file).toLoad env files other =
      persist.toLoad env files other := by
  simp only [toLoad, looked_dirty, looked_known, if_neg differ]

end Persist

namespace ConfigFile

/-- A content loads exactly when it parses. -/
theorem isSome_load (serde : Serde) (file : ConfigFile) (gui : GuiState) (saved : Saved)
    (content : Bytes) : (file.load serde gui saved content).isSome = serde.parses file content := by
  cases file <;> simp [load, Serde.parses]

end ConfigFile

namespace Persist

variable {Digest : Type} [DecidableEq Digest] {env : Env Digest} {now : Nat}

/-- The records after a content was loaded; one that does not parse changes nothing. -/
def loadInto (env : Env Digest) (file : ConfigFile) (state : GuiState × Saved) (content : Bytes) :
    GuiState × Saved :=
  match file.load env.serde state.1 state.2 content with
  | some (gui, saved) =>
      ({ gui with storage := state.1.storage.noteLoaded file content }, saved)
  | none => state

theorem reloadFile_eq (state : Reload Digest) (file : ConfigFile) :
    reloadFile env now state file =
      match state.persist.toLoad env state.gui.storage.files file with
      | some content =>
          { persist := state.persist.looked env now state.gui.storage.files file
            gui := (loadInto env file (state.gui, state.saved) content).1
            saved := (loadInto env file (state.gui, state.saved) content).2
            reloaded := state.reloaded ++ [file] }
      | none =>
          { state with persist := state.persist.looked env now state.gui.storage.files file } := by
  unfold reloadFile toLoad looked
  cases held : state.gui.storage.files file with
  | none => rfl
  | some content =>
      by_cases known : state.persist.known file = some (env.contentHash content)
      · simp [known, Option.filter]
      · by_cases dirty : state.persist.dirty file = true
        · simp [known, dirty, Option.filter]
        · have parses := ConfigFile.isSome_load env.serde file state.gui state.saved content
          cases loaded : file.load env.serde state.gui state.saved content with
          | none => simp_all [Option.filter]
          | some result =>
              obtain ⟨gui, saved⟩ := result
              have storage : gui.storage = state.gui.storage := by
                cases file <;> simp [ConfigFile.load] at loaded <;> grind
              simp_all [loadInto, Option.filter]

/-- The records after the content of a file was loaded, if it was. -/
def loadStep (env : Env Digest) (contents : Files) (state : GuiState × Saved) (file : ConfigFile) :
    GuiState × Saved :=
  match contents file with
  | some content => loadInto env file state content
  | none => state

omit [DecidableEq Digest] in
theorem files_loadStep (contents : Files) (state : GuiState × Saved) (file : ConfigFile) :
    (loadStep env contents state file).1.storage.files = state.1.storage.files := by
  unfold loadStep
  split
  · unfold loadInto
    split
    · rfl
    · rfl
  · rfl

/-- The whole reload: every file is looked at, and the contents to load are loaded. -/
theorem reloadChanged_eq (persist : Persist Digest) (gui : GuiState) (saved : Saved) :
    persist.reloadChanged env gui saved now =
      { persist := ConfigFile.all.foldl
          (fun persist file => persist.looked env now gui.storage.files file) persist
        gui := (ConfigFile.all.foldl
          (loadStep env (persist.toLoad env gui.storage.files)) (gui, saved)).1
        saved := (ConfigFile.all.foldl
          (loadStep env (persist.toLoad env gui.storage.files)) (gui, saved)).2
        reloaded := ConfigFile.all.filter fun file =>
          (persist.toLoad env gui.storage.files file).isSome } := by
  have stepped : ∀ (state : Reload Digest) (file : ConfigFile),
      state.gui.storage.files = gui.storage.files →
      state.persist.toLoad env gui.storage.files file =
        persist.toLoad env gui.storage.files file →
      reloadFile env now state file =
        { persist := state.persist.looked env now gui.storage.files file
          gui := (loadStep env (persist.toLoad env gui.storage.files) (state.gui, state.saved)
            file).1
          saved := (loadStep env (persist.toLoad env gui.storage.files) (state.gui, state.saved)
            file).2
          reloaded := state.reloaded ++
            [file].filter fun file => (persist.toLoad env gui.storage.files file).isSome } := by
    intro state file files same
    rw [reloadFile_eq, files, same, loadStep]
    cases loaded : persist.toLoad env gui.storage.files file with
    | some content => simp [loaded]
    | none => simp [loaded]
  have app := stepped ⟨persist, gui, saved, []⟩ .app rfl rfl
  simp only [reloadChanged, ConfigFile.all, List.foldl_cons, List.foldl_nil]
  rw [app, stepped _ .profiles (by simp [files_loadStep])
    (toLoad_looked (by decide)), stepped _ .runtime (by simp [files_loadStep])
    ((toLoad_looked (by decide)).trans (toLoad_looked (by decide)))]
  simp [List.filter_cons]
  grind

omit [DecidableEq Digest]

/-! ## The records afterwards -/

/-- The event of a content that was loaded. -/
def noted (env : Env Digest) (contents : Files) (file : ConfigFile) (storage : Storage) : Storage :=
  match (contents file).filter (env.serde.parses file) with
  | some content => storage.noteLoaded file content
  | none => storage

theorem loadStep_app (contents : Files) (state : GuiState × Saved) :
    loadStep env contents state .app =
      ({ state.1 with
          config := ((contents .app).bind env.serde.app.fromSlice).getD state.1.config
          storage := noted env contents .app state.1.storage }, state.2) := by
  unfold loadStep noted
  cases contents .app with
  | none => rfl
  | some content =>
      cases parsed : env.serde.app.fromSlice content <;>
        simp [loadInto, ConfigFile.load, Serde.parses, Option.filter, parsed]

theorem loadStep_profiles (contents : Files) (state : GuiState × Saved) :
    loadStep env contents state .profiles =
      ({ state.1 with storage := noted env contents .profiles state.1.storage },
        match (contents .profiles).bind env.serde.profiles.fromSlice with
        | some store => { state.2 with profiles := store.filled }.clampActive
        | none => state.2) := by
  unfold loadStep noted
  cases contents .profiles with
  | none => rfl
  | some content =>
      cases parsed : env.serde.profiles.fromSlice content <;>
        simp [loadInto, ConfigFile.load, Serde.parses, Option.filter, parsed]

theorem loadStep_runtime (contents : Files) (state : GuiState × Saved) :
    loadStep env contents state .runtime =
      ({ state.1 with
          runtime := ((contents .runtime).bind env.serde.runtime.fromSlice).getD state.1.runtime
          storage := noted env contents .runtime state.1.storage },
        match (contents .runtime).bind env.serde.runtime.fromSlice with
        | some runtime => { state.2 with active := runtime.selectedProfile }.clampActive
        | none => state.2) := by
  unfold loadStep noted
  cases contents .runtime with
  | none => rfl
  | some content =>
      cases parsed : env.serde.runtime.fromSlice content <;>
        simp [loadInto, ConfigFile.load, Serde.parses, Option.filter, parsed]

end Persist

namespace Saved

/-- The saved list after a list was read, if one was. -/
def listed (saved : Saved) : Option ProfileStore → Saved
  | some store => { saved with profiles := store.filled }.clampActive
  | none => saved

/-- The saved index after a runtime state was read, if one was. -/
def indexed (saved : Saved) : Option RuntimeState → Saved
  | some runtime => { saved with active := runtime.selectedProfile }.clampActive
  | none => saved

@[simp] theorem clampActive_profiles (saved : Saved) : saved.clampActive.profiles = saved.profiles :=
  rfl

@[simp] theorem clampActive_active (saved : Saved) :
    saved.clampActive.active = min saved.active (saved.profiles.profiles.length - 1) := rfl

@[simp] theorem indexed_profiles (saved : Saved) (runtime : Option RuntimeState) :
    (saved.indexed runtime).profiles = saved.profiles := by
  cases runtime <;> rfl

theorem listed_profiles (saved : Saved) (store : Option ProfileStore) :
    (saved.listed store).profiles = (store.map ProfileStore.filled).getD saved.profiles := by
  cases store <;> rfl

end Saved

namespace Controller

variable {Digest : Type} [DecidableEq Digest] (env : Env Digest) (answers : Answers) (now : Nat)
  (controller : Controller Digest)

/-- The content of a file that a reload would take into memory. -/
def toLoad : Files := controller.persist.toLoad env controller.gui.storage.files

def newConfig : Option AppConfig := (controller.toLoad env .app).bind env.serde.app.fromSlice

def newStore : Option ProfileStore :=
  (controller.toLoad env .profiles).bind env.serde.profiles.fromSlice

def newRuntime : Option RuntimeState :=
  (controller.toLoad env .runtime).bind env.serde.runtime.fromSlice

/-- The storage with the events of the contents that are loaded. -/
def notedStorage : Storage :=
  Persist.noted env (controller.toLoad env) .runtime
    (Persist.noted env (controller.toLoad env) .profiles
      (Persist.noted env (controller.toLoad env) .app controller.gui.storage))

/-- The three files were looked at. -/
def lookedPersist : Persist Digest :=
  ConfigFile.all.foldl
    (fun persist file => persist.looked env now controller.gui.storage.files file)
    controller.persist

/-- The controller once the changed files are in memory, before the window follows. -/
def loaded : Controller Digest :=
  { controller with
    persist := controller.lookedPersist env now
    gui := { controller.gui with
      storage := controller.notedStorage env
      config := (controller.newConfig env).getD controller.gui.config
      runtime := (controller.newRuntime env).getD controller.gui.runtime }
    saved := (controller.saved.listed (controller.newStore env)).indexed (controller.newRuntime env) }

/-- The files that a reload takes into memory. -/
def reloaded : List ConfigFile :=
  ConfigFile.all.filter fun file => (controller.toLoad env file).isSome

theorem reloadChanged_eq :
    controller.persist.reloadChanged env controller.gui controller.saved now =
      { persist := (controller.loaded env now).persist
        gui := (controller.loaded env now).gui
        saved := (controller.loaded env now).saved
        reloaded := controller.reloaded env } := by
  rw [Persist.reloadChanged_eq]
  simp only [ConfigFile.all, List.foldl_cons, List.foldl_nil, Persist.loadStep_app,
    Persist.loadStep_profiles, Persist.loadStep_runtime]
  rfl

/-- The working copy and the window once the changed files are in memory. -/
def shown : Controller Digest :=
  ((controller.loaded env now).rebase controller (controller.reloaded env)).afterReload
    controller.editedProfile

theorem onFilesChanged_eq :
    controller.onFilesChanged env answers now =
      if controller.reloaded env = [] then controller.loaded env now
      else if .app ∈ controller.reloaded env then
        (controller.shown env now).followConfig answers controller.gui.config
      else controller.shown env now := by
  unfold onFilesChanged
  rw [reloadChanged_eq]
  rfl

theorem mem_reloaded {file : ConfigFile} :
    file ∈ controller.reloaded env ↔ (controller.toLoad env file).isSome = true := by
  cases file <;> simp [reloaded, ConfigFile.all]

variable {env now}

/-- A file is loaded when it is clean and holds another content than the known one,
which parses. -/
theorem toLoad_eq_some {file : ConfigFile} {content : Bytes} :
    controller.toLoad env file = some content ↔
      controller.gui.storage.files file = some content ∧
        controller.persist.known file ≠ some (env.contentHash content) ∧
        controller.persist.dirty file = false ∧ env.serde.parses file content = true := by
  simp [toLoad, Persist.toLoad, Option.filter_eq_some_iff, and_assoc]

/-- A content that is loaded parses, so a file is loaded when it gives a record. -/
theorem isSome_newConfig :
    (controller.newConfig env).isSome = (controller.toLoad env .app).isSome := by
  unfold newConfig
  cases held : controller.toLoad env .app with
  | none => rfl
  | some content => exact (controller.toLoad_eq_some.mp held).2.2.2

theorem isSome_newStore :
    (controller.newStore env).isSome = (controller.toLoad env .profiles).isSome := by
  unfold newStore
  cases held : controller.toLoad env .profiles with
  | none => rfl
  | some content => exact (controller.toLoad_eq_some.mp held).2.2.2

/-- When no file is loaded, only what is known of the files changes. -/
theorem loaded_of_reloaded_nil (none : controller.reloaded env = []) :
    controller.loaded env now = { controller with persist := controller.lookedPersist env now } := by
  have clean : ∀ file, controller.toLoad env file = Option.none := by
    intro file
    have absent : file ∉ controller.reloaded env := by simp [none]
    rw [mem_reloaded] at absent
    simpa using absent
  simp only [loaded, newConfig, newStore, newRuntime, notedStorage, Persist.noted, clean]
  rfl

@[simp] theorem lookedPersist_dirty :
    (controller.lookedPersist env now).dirty = controller.persist.dirty := by
  simp [lookedPersist, ConfigFile.all]

/-- After a look the hash of every file that is there is known. -/
theorem lookedPersist_known (file : ConfigFile) :
    (controller.lookedPersist env now).known file =
      ((controller.gui.storage.files file).map env.contentHash).or
        (controller.persist.known file) := by
  cases file <;> simp [lookedPersist, ConfigFile.all, Persist.looked_known]

theorem lookedPersist_due (timed : controller.persist.due.isSome = true) :
    (controller.lookedPersist env now).due = controller.persist.due := by
  simp only [lookedPersist, ConfigFile.all, List.foldl_cons, List.foldl_nil]
  have first := Persist.looked_due env now controller.gui.storage.files
    .app timed
  have second := Persist.looked_due env now controller.gui.storage.files
    .profiles (first.symm ▸ timed)
  have third := Persist.looked_due env now controller.gui.storage.files
    .runtime (second.symm ▸ first.symm ▸ timed)
  rw [third, second, first]

end Controller

/-! ## The window follows -/

namespace Controller

variable {Digest : Type} {before middle after : Controller Digest} (answers : Answers)
  (controller : Controller Digest) (files : List ConfigFile)

/-- The records, the saved nodes and the files stay. -/
structure Follows (before after : Controller Digest) : Prop where
  persist : after.persist = before.persist
  saved : after.saved = before.saved
  storage : after.gui.storage = before.gui.storage
  config : after.gui.config = before.gui.config
  settings : after.gui.runtime.settings = before.gui.runtime.settings

theorem Follows.refl (controller : Controller Digest) : Follows controller controller :=
  ⟨rfl, rfl, rfl, rfl, rfl⟩

theorem Follows.trans (first : Follows before middle) (second : Follows middle after) :
    Follows before after where
  persist := second.persist.trans first.persist
  saved := second.saved.trans first.saved
  storage := second.storage.trans first.storage
  config := second.config.trans first.config
  settings := second.settings.trans first.settings

variable (before)

/-- The list and the index a rebase arrives at. -/
theorem rebase_gui : ∃ (profiles : ProfileStore) (index : Nat), (controller.rebase before files).gui =
    ({ controller.gui with profiles := profiles.filled }.setSelected
      (min index (profiles.filled.profiles.length - 1))) := by
  unfold rebase
  dsimp only
  split
  · split
    · exact ⟨_, _, GuiState.normalizeSelectedIndex_eq _⟩
    · exact ⟨_, _, GuiState.normalizeSelectedIndex_eq _⟩
  · exact ⟨_, _, GuiState.normalizeSelectedIndex_eq _⟩

theorem follows_rebase : Follows controller (controller.rebase before files) := by
  obtain ⟨profiles, index, gui⟩ := rebase_gui before controller files
  refine ⟨?_, ?_, by rw [gui]; rfl, by rw [gui]; rfl, by rw [gui]; rfl⟩
  · unfold rebase
    dsimp only
    split
    · split
      · rfl
      · rfl
    · rfl
  · unfold rebase
    dsimp only
    split
    · split
      · rfl
      · rfl
    · rfl

theorem valid_rebase : (controller.rebase before files).Valid := by
  obtain ⟨profiles, index, gui⟩ := rebase_gui before controller files
  rw [Valid, gui]
  exact GuiState.min_lt_length_filled profiles index

theorem quiet_afterReload (edited : Option StoredProfile) :
    Quiet controller (controller.afterReload edited) := by
  unfold afterReload
  dsimp only
  split
  · exact .of_gui rfl rfl rfl rfl
  · exact .of_gui rfl rfl rfl rfl

theorem follows_afterReload (edited : Option StoredProfile) :
    Follows controller (controller.afterReload edited) := by
  unfold afterReload
  dsimp only
  split
  · exact ⟨rfl, rfl, rfl, rfl, rfl⟩
  · exact ⟨rfl, rfl, rfl, rfl, rfl⟩

theorem follows_report (outcome : Except String Unit) (notice : String → Notice) :
    Follows controller (controller.report outcome notice) := by
  cases outcome <;> exact ⟨rfl, rfl, rfl, rfl, rfl⟩

theorem follows_restartPac (forceRestart : Bool) :
    Follows controller (controller.restartPac answers forceRestart).1 := by
  obtain ⟨server, bound, rules, same⟩ :=
    controller.gui.restartPacServer_same forceRestart answers.bind
  have gui : (controller.restartPac answers forceRestart).1.gui = _ := same
  exact ⟨rfl, rfl, by rw [gui], by rw [gui], by rw [gui]⟩

theorem follows_applyProxy : Follows controller (controller.applyProxy answers) := by
  unfold applyProxy
  refine Follows.trans ?_ (follows_report _ _ _)
  exact ⟨rfl, rfl, rfl, rfl, rfl⟩

theorem follows_followConfig (old : AppConfig) :
    Follows controller (controller.followConfig answers old) := by
  unfold followConfig
  dsimp only
  have restarted := follows_restartPac answers controller
    (decide (old.pacListen ≠ controller.gui.config.pacListen))
  generalize controller.restartPac answers
    (decide (old.pacListen ≠ controller.gui.config.pacListen)) = restart at restarted ⊢
  obtain ⟨middle, outcome⟩ := restart
  cases outcome with
  | error => exact restarted.trans ⟨rfl, rfl, rfl, rfl, rfl⟩
  | ok =>
      dsimp only
      split
      · exact restarted.trans (follows_applyProxy answers _)
      · exact restarted

theorem localChange_followConfig (old : AppConfig) :
    LocalChange controller (controller.followConfig answers old) := by
  unfold followConfig
  dsimp only
  have restarted := localChange_restartPac answers controller
    (decide (old.pacListen ≠ controller.gui.config.pacListen))
  generalize controller.restartPac answers
    (decide (old.pacListen ≠ controller.gui.config.pacListen)) = restart at restarted ⊢
  obtain ⟨middle, outcome⟩ := restart
  cases outcome with
  | error => exact restarted.trans (quiet_setNotice _ _).change
  | ok =>
      dsimp only
      exact .ite (restarted.trans (localChange_applyProxy answers _)) restarted

variable [DecidableEq Digest] (env : Env Digest) (now : Nat)

theorem follows_shown : Follows (controller.loaded env now) (controller.shown env now) :=
  (follows_rebase _ _ _).trans (follows_afterReload _ _)

theorem follows_onFilesChanged :
    Follows (controller.loaded env now) (controller.onFilesChanged env answers now) := by
  rw [onFilesChanged_eq]
  split
  · exact .refl _
  · split
    · exact (follows_shown controller env now).trans (follows_followConfig answers _ _)
    · exact follows_shown controller env now

theorem valid_onFilesChanged (valid : controller.Valid) :
    (controller.onFilesChanged env answers now).Valid := by
  have shown : (controller.shown env now).Valid :=
    (quiet_afterReload _ _).change.valid (valid_rebase _ _ _)
  rw [onFilesChanged_eq]
  split
  · rename_i none
    rw [loaded_of_reloaded_nil controller none]
    exact valid
  · split
    · exact (localChange_followConfig answers _ _).valid shown
    · exact shown

/-- A reload writes nothing. -/
theorem files_onFilesChanged :
    (controller.onFilesChanged env answers now).gui.storage.files =
      controller.gui.storage.files := by
  rw [(follows_onFilesChanged answers controller env now).storage]
  simp only [loaded, notedStorage, Persist.noted]
  split <;> split <;> split <;> rfl

theorem listed_onFilesChanged (listed : controller.Listed) :
    (controller.onFilesChanged env answers now).Listed := by
  have shown : (controller.shown env now).Listed := by
    refine (quiet_afterReload _ _).change.listed ?_
    obtain ⟨profiles, index, gui⟩ :=
      rebase_gui controller (controller.loaded env now) (controller.reloaded env)
    rw [Listed, gui]
    exact profiles.filled_ne_nil
  rw [onFilesChanged_eq]
  split
  · rename_i none
    rw [loaded_of_reloaded_nil controller none]
    exact listed
  · split
    · exact (localChange_followConfig answers _ _).listed shown
    · exact shown

end Controller

end Juicity.Gui
