import Juicity.Gui.Controller.Writes

/-!
Owns what is known of the files. Every operation but a reload leaves a file alone
or has it hold what memory holds by then; so the record of a clean file is the one
in the content that was last written, read or skipped, and a content nobody else
wrote is known. The saved index is kept apart: two files determine it.
-/

namespace Juicity.Gui

open Juicity.Common Juicity.Machine

namespace Controller

variable {Digest : Type} {before after controller : Controller Digest} {env : Env Digest}
  {answers : Answers} {now : Nat} {flag : Bool}

/-- The record of a file stays; the saved index is not part of it. -/
def SameRecord (file : ConfigFile) (before after : Controller Digest) : Prop :=
  match file with
  | .app => after.gui.config = before.gui.config
  | .profiles => after.saved.profiles = before.saved.profiles
  | .runtime => after.gui.runtime.settings = before.gui.runtime.settings

/-- A file was left alone, or it holds what memory holds. -/
inductive FileStep (env : Env Digest) (file : ConfigFile) (before after : Controller Digest) :
    Prop where
  | untouched (files : after.gui.storage.files file = before.gui.storage.files file)
      (known : after.persist.known file = before.persist.known file)
      (unwritten : wroteSince before.gui.storage after.gui.storage file = false)
      (clean : after.persist.dirty file = false →
        before.persist.dirty file = false ∧ SameRecord file before after)
  | written
      (files : after.gui.storage.files file = some (file.bytes env.serde after.gui after.saved))
      (known : after.persist.known file =
        some (env.contentHash (file.bytes env.serde after.gui after.saved)))

/-- Whether a file was written can be read off the new events. -/
theorem wroteSince_of_append {earlier later : Storage} {new : List FileEvent}
    (events : later.events = new ++ earlier.events) (file : ConfigFile) :
    wroteSince earlier later file = new.any (FileEvent.writes file) := by
  rw [wroteSince, Storage.since_append events]

theorem fileStep_of_localChange (change : LocalChange before after) (file : ConfigFile) :
    FileStep env file before after := by
  refine .untouched (by rw [change.storage]) (by rw [change.known]) ?_ fun clean => ?_
  · rw [wroteSince_of_append (show _ = [] ++ _ by rw [change.storage]; rfl)]
    rfl
  · have was : before.persist.dirty file = false := by
      by_contra dirty
      rw [change.stillDirty file (by simpa using dirty)] at clean
      cases clean
    refine ⟨was, ?_⟩
    cases file with
    | app =>
        refine change.config.resolve_right fun dirty => ?_
        rw [dirty] at clean
        cases clean
    | profiles => exact congrArg Saved.profiles change.saved
    | runtime =>
        refine change.settings.resolve_right fun dirty => ?_
        rw [dirty] at clean
        cases clean

theorem fileStep_of_flushed (flushed : Flushed env answers now before after) (file : ConfigFile) :
    FileStep env file before after := by
  have bytes : file.bytes env.serde after.gui after.saved =
      file.bytes env.serde before.gui before.saved := by
    rw [flushed.gui, flushed.saved]
    cases file <;> rfl
  have known := before.persist.flush_known env before.gui before.saved answers.write now file
  have files := before.persist.flush_files env before.gui before.saved answers.write now file
  rw [← flushed.persist] at known
  have files' : after.gui.storage.files file = _ :=
    (congrArg (·.storage.files file) flushed.gui).trans files
  by_cases reached : before.persist.reaches answers.write file = true
  · rw [if_pos reached, ← bytes] at known files'
    exact .written files' known
  · rw [if_neg reached] at known files'
    refine .untouched files' known ?_ fun clean => ?_
    · obtain ⟨_, new, storage, events⟩ :=
        before.persist.flush_storage env before.gui before.saved answers.write now
      have appended : after.gui.storage.events = new ++ before.gui.storage.events := by
        rw [flushed.gui]
        exact congrArg Storage.events storage
      rw [wroteSince_of_append appended, List.any_eq_false]
      intro event member
      rcases events event member with ⟨other, rfl⟩ | ⟨other, files, rfl, reached'⟩
      · exact Bool.false_ne_true
      · intro same
        rw [of_decide_eq_true same] at reached'
        exact reached reached'
    · rw [flushed.persist, Persist.flush_dirty] at clean
      refine ⟨?_, ?_⟩
      · by_contra dirty
        have dirty : before.persist.dirty file = true := by simpa using dirty
        simp_all [Persist.reaches]
      · cases file with
        | app => rw [SameRecord, flushed.gui]
        | profiles => exact congrArg Saved.profiles flushed.saved
        | runtime => rw [SameRecord, flushed.gui]

/-! ## Saving -/

theorem FileStep.refl (env : Env Digest) (controller : Controller Digest) (file : ConfigFile) :
    FileStep env file controller controller := by
  refine .untouched rfl rfl ?_ fun clean => ⟨clean, ?_⟩
  · rw [wroteSince_of_append (show _ = [] ++ _ from rfl)]
    rfl
  · cases file <;> rfl

/-- The list is written. -/
theorem fileStep_listStored (env : Env Digest) (controller : Controller Digest)
    (list : ProfileStore) (file : ConfigFile) :
    FileStep env file controller (controller.listStored env list) := by
  have events : (controller.listStored env list).gui.storage.events =
      [_] ++ controller.gui.storage.events := rfl
  cases file with
  | profiles => exact .written rfl rfl
  | app => exact .untouched rfl rfl (wroteSince_of_append events .app) fun clean => ⟨clean, rfl⟩
  | runtime =>
      exact .untouched rfl rfl (wroteSince_of_append events .runtime) fun clean => ⟨clean, rfl⟩

/-- A write that fails next changes nothing. -/
theorem FileStep.then_unstored {file : ConfigFile} {new : List FileEvent}
    (step : FileStep env file before controller)
    (events : controller.gui.storage.events = new ++ before.gui.storage.events)
    (other : ConfigFile) : FileStep env file before (controller.unstored other) := by
  have appended : (controller.unstored other).gui.storage.events =
      (.failed other :: new) ++ before.gui.storage.events := by
    rw [List.cons_append, ← events]
    rfl
  cases step with
  | untouched files known unwritten clean =>
      refine .untouched files known ?_ fun still => ?_
      · rw [wroteSince_of_append events] at unwritten
        rw [wroteSince_of_append appended, List.any_cons, unwritten]
        rfl
      · obtain ⟨was, record⟩ := clean still
        exact ⟨was, by cases file <;> exact record⟩
  | written files known => exact .written (by cases file <;> exact files) (by cases file <;> exact known)

/-- Writing the index next leaves the other files as they are. -/
theorem FileStep.then_indexStored {file : ConfigFile} {new : List FileEvent}
    (step : FileStep env file before controller)
    (events : controller.gui.storage.events = new ++ before.gui.storage.events) (index : Nat) :
    FileStep env file before (controller.indexStored env index) := by
  by_cases same : file = .runtime
  · subst same
    exact .written rfl rfl
  · have files : (controller.indexStored env index).gui.storage.files file =
        controller.gui.storage.files file := Function.update_of_ne same _ _
    have known : (controller.indexStored env index).persist.known file =
        controller.persist.known file := Function.update_of_ne same _ _
    have dirty : (controller.indexStored env index).persist.dirty file =
        controller.persist.dirty file := Function.update_of_ne same _ _
    have bytes : file.bytes env.serde (controller.indexStored env index).gui
        (controller.indexStored env index).saved =
          file.bytes env.serde controller.gui controller.saved := by
      cases file with
      | app | profiles => rfl
      | runtime => exact absurd rfl same
    cases step with
    | untouched files' known' unwritten clean =>
        refine .untouched (files.trans files') (known.trans known') ?_ fun still => ?_
        · have appended : (controller.indexStored env index).gui.storage.events =
              (.wrote .runtime (env.serde.runtime.toVec { controller.gui.runtime with
                selectedProfile := index }) (controller.indexStored env index).gui.storage.files ::
                  new) ++ before.gui.storage.events := by
            rw [List.cons_append, ← events]
            rfl
          rw [wroteSince_of_append events] at unwritten
          rw [wroteSince_of_append appended, List.any_cons, unwritten, Bool.or_false]
          exact decide_eq_false fun equal => same equal.symm
        · obtain ⟨was, record⟩ := clean (dirty ▸ still)
          refine ⟨was, ?_⟩
          cases file with
          | app | profiles => exact record
          | runtime => exact absurd rfl same
    | written files' known' =>
        exact .written (files.trans (bytes ▸ files')) (known.trans (bytes ▸ known'))

/-- The notice and the pending leave are no part of it. -/
theorem FileStep.of_same {file : ConfigFile} {other : Controller Digest}
    (step : FileStep env file before after) (gui : other.gui = after.gui)
    (persist : other.persist = after.persist) (saved : other.saved = after.saved) :
    FileStep env file before other := by
  cases step with
  | untouched files known unwritten clean =>
      refine .untouched (by rw [gui]; exact files) (by rw [persist]; exact known)
        (by rw [gui]; exact unwritten) fun still => ?_
      obtain ⟨was, record⟩ := clean (by rw [← persist]; exact still)
      refine ⟨was, ?_⟩
      cases file with
      | app => rw [SameRecord, gui]; exact record
      | profiles => rw [SameRecord, saved]; exact record
      | runtime => rw [SameRecord, gui]; exact record
  | written files known =>
      exact .written (by rw [gui, saved]; exact files) (by rw [persist, gui, saved]; exact known)

theorem fileStep_listSaved (env : Env Digest) (controller : Controller Digest) :
    (∃ new, (controller.saveRefusal.1.listSaved env).gui.storage.events =
        new ++ controller.gui.storage.events) ∧
      ∀ file, FileStep env file controller (controller.saveRefusal.1.listSaved env) := by
  rcases listSaved_cases env controller.saveRefusal.1 with same | stored
  · rw [same]
    exact ⟨⟨[], rfl⟩, fun file => (FileStep.refl env controller file).of_same rfl rfl rfl⟩
  · rw [stored]
    exact ⟨⟨[_], rfl⟩, fun file => (fileStep_listStored env controller _ file).of_same rfl rfl rfl⟩

theorem SaveRun.fileStep (run : SaveRun env answers controller after flag) (file : ConfigFile) :
    FileStep env file controller after := by
  have unchanged := FileStep.refl env controller file
  obtain ⟨⟨new, events⟩, listed⟩ := fileStep_listSaved env controller
  cases run with
  | clean => exact unchanged
  | refused => exact unchanged.of_same rfl rfl rfl
  | listFailed =>
      have failed := unchanged.then_unstored (show _ = [] ++ _ from rfl) .profiles
      exact failed.of_same rfl rfl rfl
  | indexFailed =>
      have failed := (listed file).then_unstored events .runtime
      exact failed.of_same rfl rfl rfl
  | listOnly =>
      exact (listed file).of_same (clearSaveNotice_gui _) (clearSaveNotice_persist _)
        (clearSaveNotice_saved _)
  | indexToo =>
      exact ((listed file).then_indexStored events _).of_same (clearSaveNotice_gui _)
        (clearSaveNotice_persist _) (clearSaveNotice_saved _)

variable [DecidableEq Digest]

/-- What an operation other than a reload does to a file. -/
theorem fileStep_perform {operation : Operation} (working : operation ≠ .onFilesChanged)
    (taken : operation.perform env answers now controller = some after) (file : ConfigFile) :
    FileStep env file controller after := by
  rcases perform_cases taken with change | flushed | ⟨-, leave, rfl⟩ | ⟨reload, -⟩
  · exact fileStep_of_localChange change file
  · exact fileStep_of_flushed flushed file
  · exact ((saveRun_writeNodes env answers controller).fileStep file).of_same rfl rfl rfl
  · exact absurd reload working

end Controller

/-! ## Records and known contents -/

section Holds

variable {Digest α : Type} (env : Env Digest)

/-- The record in the known content, or the default while no content is known. -/
def Env.Holds (codec : Codec α) (fallback : α) (known : Option Digest) (value : α) : Prop :=
  (known = none ∧ value = fallback) ∨
    ∃ content, known = some (env.contentHash content) ∧ codec.fromSlice content = some value

variable {env} {codec : Codec α} {fallback value : α} {content : Bytes}

/-- A hash stands for one content. -/
theorem Env.Holds.fromSlice (injective : Function.Injective env.contentHash)
    (holds : env.Holds codec fallback (some (env.contentHash content)) value) :
    codec.fromSlice content = some value := by
  rcases holds with ⟨unknown, -⟩ | ⟨other, same, parsed⟩
  · cases unknown
  · rw [injective (Option.some.inj same)]
    exact parsed

/-- What was written is the record it was written from. -/
theorem Env.Holds.of_toVec {written : α} (injective : Function.Injective env.contentHash)
    (lawful : codec.Lawful)
    (holds : env.Holds codec fallback (some (env.contentHash (codec.toVec written))) value) :
    value = written := by
  have read := holds.fromSlice injective
  rw [lawful written] at read
  exact (Option.some.inj read).symm

/-- What was loaded at start is what is known. -/
theorem Env.Holds.of_loaded (injective : Function.Injective env.contentHash)
    {content : Option Bytes}
    (holds : env.Holds codec fallback
      ((codec.loadOrRecover fallback content).2.map env.contentHash) value) :
    (codec.loadOrRecover fallback content).1 = value := by
  unfold Codec.loadOrRecover at holds ⊢
  cases content with
  | none =>
      rcases holds with ⟨-, rfl⟩ | ⟨_, known, -⟩
      · rfl
      · cases known
  | some bytes =>
      cases parsed : codec.fromSlice bytes with
      | some read =>
          simp only [parsed] at holds ⊢
          have same := holds.fromSlice injective
          rw [parsed] at same
          exact Option.some.inj same
      | none =>
          simp only [parsed] at holds ⊢
          rcases holds with ⟨-, rfl⟩ | ⟨_, known, -⟩
          · rfl
          · cases known

end Holds

namespace Controller

variable {Digest : Type} {env : Env Digest} {answers : Answers} {now : Nat}
  {controller after : Controller Digest} {operation : Operation}

/-- The records in memory against the known contents: the one of a clean file is the
one in its content. -/
structure UpToDate (env : Env Digest) (controller : Controller Digest) : Prop where
  present : ∀ file, controller.persist.known file ≠ none →
    controller.gui.storage.files file ≠ none
  app : controller.persist.dirty .app = false → ∀ config,
    env.Holds env.serde.app .default (controller.persist.known .app) config →
      controller.gui.config = config
  profiles : ∀ store,
    env.Holds env.serde.profiles .default (controller.persist.known .profiles) store →
      controller.saved.profiles = store.filled
  settings : controller.persist.dirty .runtime = false → ∀ runtime,
    env.Holds env.serde.runtime .default (controller.persist.known .runtime) runtime →
      controller.gui.runtime.settings = runtime.settings
  inside : controller.saved.active < controller.saved.profiles.profiles.length

theorem min_pred_lt {index length : Nat} (some : 0 < length) : min index (length - 1) < length := by
  omega

/-! ## Saved index -/

/-- Reading a list or an index leaves the saved index inside the saved list. -/
theorem inside_read {saved : Saved} (inside : saved.active < saved.profiles.profiles.length)
    (store : Option ProfileStore) (runtime : Option RuntimeState) :
    ((saved.listed store).indexed runtime).active <
      ((saved.listed store).indexed runtime).profiles.profiles.length := by
  have listed : (saved.listed store).active < (saved.listed store).profiles.profiles.length := by
    cases store with
    | none => exact inside
    | some store => exact min_pred_lt (List.length_pos_of_ne_nil store.filled_ne_nil)
  cases runtime with
  | none => exact listed
  | some runtime => exact min_pred_lt (Nat.zero_lt_of_lt listed)

/-- The saved list after the list stage is the working one. -/
theorem profiles_listSaved (env : Env Digest) (controller : Controller Digest) :
    (controller.saveRefusal.1.listSaved env).saved.profiles = controller.gui.profiles := by
  by_cases same : controller.gui.profiles = controller.saved.profiles
  · have kept : controller.saveRefusal.1.listSaved env = controller.saveRefusal.1 := if_pos same
    rw [kept]
    exact same.symm
  · have stored : controller.saveRefusal.1.listSaved env =
        controller.saveRefusal.1.listStored env controller.gui.profiles := if_neg same
    rw [stored]
    rfl

/-- The saved index stays inside the saved list. -/
theorem SaveRun.inside {flag : Bool} (run : SaveRun env answers controller after flag)
    (listed : controller.Listed)
    (inside : controller.saved.active < controller.saved.profiles.profiles.length) :
    after.saved.active < after.saved.profiles.profiles.length := by
  have some := List.length_pos_of_ne_nil listed
  have saved : (controller.saveRefusal.1.listSaved env).saved.active <
      (controller.saveRefusal.1.listSaved env).saved.profiles.profiles.length := by
    rcases listSaved_cases env controller.saveRefusal.1 with same | stored
    · rw [same]
      exact inside
    · rw [stored]
      exact min_pred_lt some
  cases run with
  | clean | refused | listFailed => exact inside
  | indexFailed => exact saved
  | listOnly =>
      rw [clearSaveNotice_saved]
      exact saved
  | indexToo =>
      rw [clearSaveNotice_saved]
      change min _ _ < (controller.saveRefusal.1.listSaved env).saved.profiles.profiles.length
      rw [profiles_listSaved]
      exact min_pred_lt some

variable [DecidableEq Digest]

theorem inside_perform (working : operation ≠ .onFilesChanged) (listed : controller.Listed)
    (inside : controller.saved.active < controller.saved.profiles.profiles.length)
    (taken : operation.perform env answers now controller = some after) :
    after.saved.active < after.saved.profiles.profiles.length := by
  rcases perform_cases taken with change | flushed | ⟨-, leave, rfl⟩ | ⟨reload, -⟩
  · rw [change.saved]
    exact inside
  · rw [flushed.saved]
    exact inside
  · exact (saveRun_writeNodes env answers controller).inside listed inside
  · exact absurd reload working

/-! ## Operations -/

theorem UpToDate.perform (lawful : env.serde.Lawful)
    (injective : Function.Injective env.contentHash) (upToDate : controller.UpToDate env)
    (tidy : controller.Tidy) (listed : controller.Listed) (working : operation ≠ .onFilesChanged)
    (taken : operation.perform env answers now controller = some after) : after.UpToDate env := by
  have step := fileStep_perform working taken
  have inside := inside_perform working listed upToDate.inside taken
  constructor
  · intro file known
    cases step file with
    | untouched files same =>
        rw [files]
        exact upToDate.present file (same ▸ known)
    | written files =>
        rw [files]
        exact Option.some_ne_none _
  · intro clean config holds
    cases step .app with
    | untouched _ same _ kept =>
        obtain ⟨was, record⟩ := kept clean
        exact (show after.gui.config = _ from record).trans
          (upToDate.app was config (same ▸ holds))
    | written _ same =>
        rw [same] at holds
        exact (holds.of_toVec injective lawful.app).symm
  · intro store holds
    cases step .profiles with
    | untouched _ same _ kept =>
        obtain ⟨-, record⟩ := kept (tidy.perform taken).listClean
        exact (show after.saved.profiles = _ from record).trans
          (upToDate.profiles store (same ▸ holds))
    | written _ same =>
        rw [same] at holds
        rw [holds.of_toVec injective lawful.profiles, ProfileStore.filled, if_neg]
        exact List.ne_nil_of_length_pos (Nat.zero_lt_of_lt inside)
  · intro clean runtime holds
    cases step .runtime with
    | untouched _ same _ kept =>
        obtain ⟨was, record⟩ := kept clean
        exact (show after.gui.runtime.settings = _ from record).trans
          (upToDate.settings was runtime (same ▸ holds))
    | written _ same =>
        rw [same] at holds
        rw [holds.of_toVec injective lawful.runtime]
        rfl
  · exact inside

/-! ## Reloading -/

variable (env now) in
/-- The known content of a clean file after a look is the one that was loaded, or the
one known before. -/
theorem holds_looked {α : Type} {codec : Codec α} {fallback value : α} {file : ConfigFile}
    (injective : Function.Injective env.contentHash)
    (parses : ∀ content, env.serde.parses file content = (codec.fromSlice content).isSome)
    (clean : controller.persist.dirty file = false)
    (holds : env.Holds codec fallback ((controller.lookedPersist env now).known file) value) :
    (controller.toLoad env file).bind codec.fromSlice = some value ∨
      ((controller.toLoad env file).bind codec.fromSlice = none ∧
        env.Holds codec fallback (controller.persist.known file) value) := by
  rw [lookedPersist_known] at holds
  cases held : controller.gui.storage.files file with
  | none =>
      rw [held, Option.map_none, Option.none_or] at holds
      refine Or.inr ⟨?_, holds⟩
      simp [toLoad, Persist.toLoad, held]
  | some content =>
      rw [held, Option.map_some, Option.some_or] at holds
      have parsed := holds.fromSlice injective
      by_cases known : controller.persist.known file = some (env.contentHash content)
      · refine Or.inr ⟨?_, Or.inr ⟨content, known, parsed⟩⟩
        simp [toLoad, Persist.toLoad, held, known, Option.filter]
      · have loaded : controller.toLoad env file = some content :=
          controller.toLoad_eq_some.mpr ⟨held, known, clean, by rw [parses, parsed]; rfl⟩
        refine Or.inl ?_
        rw [loaded]
        exact parsed

theorem UpToDate.onFilesChanged (injective : Function.Injective env.contentHash)
    (upToDate : controller.UpToDate env) (tidy : controller.Tidy) :
    (controller.onFilesChanged env answers now).UpToDate env := by
  have follows := follows_onFilesChanged answers controller env now
  have persist : (controller.onFilesChanged env answers now).persist =
      controller.lookedPersist env now := follows.persist
  have saved : (controller.onFilesChanged env answers now).saved =
      (controller.saved.listed (controller.newStore env)).indexed (controller.newRuntime env) :=
    follows.saved
  have files : (controller.onFilesChanged env answers now).gui.storage.files =
      controller.gui.storage.files := files_onFilesChanged answers controller env now
  constructor
  · intro file known
    rw [files]
    rw [persist, lookedPersist_known] at known
    cases held : controller.gui.storage.files file with
    | some content => exact Option.some_ne_none _
    | none =>
        rw [held, Option.map_none, Option.none_or] at known
        exact absurd held (upToDate.present file known)
  · intro clean config holds
    rw [persist] at clean holds
    rw [lookedPersist_dirty] at clean
    have config' : (controller.onFilesChanged env answers now).gui.config =
        (controller.newConfig env).getD controller.gui.config := follows.config
    rcases holds_looked env now injective (fun _ => rfl) clean holds with loaded | ⟨kept, holds⟩
    · rw [config', newConfig, loaded]
      rfl
    · rw [config', newConfig, kept]
      exact upToDate.app clean config holds
  · intro store holds
    rw [persist] at holds
    rw [saved, Saved.indexed_profiles, Saved.listed_profiles]
    rcases holds_looked env now injective (fun _ => rfl) tidy.listClean holds with
      loaded | ⟨kept, holds⟩
    · rw [newStore, loaded]
      rfl
    · rw [newStore, kept]
      exact upToDate.profiles store holds
  · intro clean runtime holds
    rw [persist] at clean holds
    rw [lookedPersist_dirty] at clean
    have settings : (controller.onFilesChanged env answers now).gui.runtime.settings =
        ((controller.newRuntime env).getD controller.gui.runtime).settings := follows.settings
    rcases holds_looked env now injective (fun _ => rfl) clean holds with loaded | ⟨kept, holds⟩
    · rw [settings, newRuntime, loaded]
      rfl
    · rw [settings, newRuntime, kept]
      exact upToDate.settings clean runtime holds
  · rw [saved]
    exact inside_read upToDate.inside _ _

omit [DecidableEq Digest] in
/-- A content that was parsed at start is not moved aside. -/
theorem recovered_of_loaded {α : Type} {codec : Codec α} {fallback : α} {storage : Storage}
    {moved : ConfigFile → Bool} {file : ConfigFile}
    (parses : ∀ content, env.serde.parses file content = (codec.fromSlice content).isSome)
    (loaded : (codec.loadOrRecover fallback (storage.files file)).2 ≠ none) :
    (storage.recovered env.serde moved).files file ≠ none := by
  unfold Codec.loadOrRecover at loaded
  cases held : storage.files file with
  | none => simp [held] at loaded
  | some content =>
      cases parsed : codec.fromSlice content with
      | none => simp [held, parsed] at loaded
      | some value => simp [Storage.recovered, held, parses, parsed, Option.filter]

omit [DecidableEq Digest] in
theorem upToDate_new (injective : Function.Injective env.contentHash) (storage : Storage)
    (moved : ConfigFile → Bool) : (Controller.new env storage moved).UpToDate env := by
  constructor
  · intro file known
    have loaded : (GuiState.loadTracked env.serde storage moved).2 file ≠ none := by
      intro missing
      refine known ?_
      change ((GuiState.loadTracked env.serde storage moved).2 file).map _ = none
      rw [missing]
      rfl
    cases file with
    | app | profiles | runtime => exact recovered_of_loaded (fun _ => rfl) loaded
  · intro _ config holds
    exact holds.of_loaded injective
  · intro store holds
    exact congrArg ProfileStore.filled (holds.of_loaded injective)
  · intro _ runtime holds
    have same := holds.of_loaded injective
    change RuntimeState.settings (if _ then _ else _) = _
    rw [← same]
    split <;> rfl
  · exact min_pred_lt (List.length_pos_of_ne_nil (ProfileStore.filled_ne_nil _))

end Controller

/-! ## Worlds -/

section Worlds

variable {Digest : Type} [DecidableEq Digest] {env : Env Digest} {storage : Storage}
  {moved : ConfigFile → Bool} {world next : World Digest} {action : Action}

/-- A content that no other program wrote is known, unless it never was a record. -/
def World.Own (env : Env Digest) (world : World Digest) : Prop :=
  ∀ file, world.foreign file = false → ∀ content,
    world.controller.gui.storage.files file = some content →
      world.controller.persist.known file = some (env.contentHash content) ∨
        env.serde.parses file content = false

/-- What holds in every reachable world: clean records are up to date, and a content
that no other program wrote is known, unless it never was a record. -/
structure World.Kept (env : Env Digest) (world : World Digest) : Prop where
  upToDate : world.controller.UpToDate env
  tidy : world.controller.Tidy
  listed : world.controller.Listed
  own : ∀ file, world.foreign file = false → ∀ content,
    world.controller.gui.storage.files file = some content →
      world.controller.persist.known file = some (env.contentHash content) ∨
        env.serde.parses file content = false

theorem World.Own.step (known : world.Own env) (taken : step env world action = some next) :
    next.Own env := by
  intro file own content held
  cases action with
  | perform operation answers now =>
      obtain ⟨-, done, -⟩ := step_perform taken
      by_cases reload : operation = .onFilesChanged
      · subst reload
        have after := Option.some.inj done
        have follows := Controller.follows_onFilesChanged answers world.controller env now
        rw [after] at follows
        rw [← after, Controller.files_onFilesChanged] at held
        refine Or.inl ?_
        rw [follows.persist]
        change (world.controller.lookedPersist env now).known file = _
        rw [Controller.lookedPersist_known, held]
        rfl
      · rw [foreign_perform reload taken] at own
        cases Controller.fileStep_perform reload done file with
        | untouched files same unwritten =>
            rw [unwritten, Bool.not_false, Bool.and_true] at own
            rw [files] at held
            rw [same]
            exact known file own content held
        | written files same =>
            rw [files] at held
            obtain rfl := Option.some.inj held
            exact Or.inl same
  | external other written =>
      obtain rfl := Option.some.inj taken
      change Function.update world.foreign other true file = false at own
      change Function.update world.controller.gui.storage.files other (some written) file = _ at held
      by_cases same : file = other
      · rw [same, Function.update_self] at own
        cases own
      · rw [Function.update_of_ne same] at own held
        exact known file own content held
  | rules chinaList gfw =>
      obtain rfl := Option.some.inj taken
      exact known file own content held

theorem World.Kept.step (lawful : env.serde.Lawful)
    (injective : Function.Injective env.contentHash) (kept : world.Kept env)
    (taken : step env world action = some next) : next.Kept env := by
  have own : next.Own env := World.Own.step kept.own taken
  cases action with
  | perform operation answers now =>
      obtain ⟨-, done, -⟩ := step_perform taken
      have tidy := kept.tidy.perform done
      have listed := kept.listed.perform done
      by_cases reload : operation = .onFilesChanged
      · subst reload
        have after := Option.some.inj done
        exact ⟨after ▸ kept.upToDate.onFilesChanged injective kept.tidy, tidy, listed, own⟩
      · exact ⟨kept.upToDate.perform lawful injective kept.tidy kept.listed reload done, tidy,
          listed, own⟩
  | external file content =>
      obtain rfl := Option.some.inj taken
      refine ⟨⟨fun other known => ?_, kept.upToDate.app, kept.upToDate.profiles,
        kept.upToDate.settings, kept.upToDate.inside⟩, ⟨kept.tidy.scheduled, kept.tidy.listClean⟩,
        kept.listed, own⟩
      change Function.update world.controller.gui.storage.files file (some content) other ≠ none
      by_cases same : other = file
      · rw [same, Function.update_self]
        exact Option.some_ne_none content
      · rw [Function.update_of_ne same]
        exact kept.upToDate.present other known
  | rules chinaList gfw =>
      obtain rfl := Option.some.inj taken
      exact ⟨⟨kept.upToDate.present, kept.upToDate.app, kept.upToDate.profiles,
        kept.upToDate.settings, kept.upToDate.inside⟩, ⟨kept.tidy.scheduled, kept.tidy.listClean⟩,
        kept.listed, own⟩

omit [DecidableEq Digest] in
/-- At start a content is known if it is a record. -/
theorem own_start (env : Env Digest) (storage : Storage) (moved : ConfigFile → Bool) :
    (World.start env storage moved).Own env := by
  intro file _ content held
  cases parses : env.serde.parses file content with
  | false => exact Or.inr rfl
  | true =>
      refine Or.inl ?_
      have there : storage.files file = some content :=
        (Option.filter_eq_some_iff.mp held).1
      cases file with
      | app | profiles | runtime =>
          obtain ⟨value, parsed⟩ := Option.isSome_iff_exists.mp parses
          change Option.map env.contentHash (Codec.loadOrRecover _ _ _).2 = _
          rw [there]
          simp [Codec.loadOrRecover, parsed]

omit [DecidableEq Digest] in
theorem kept_start (injective : Function.Injective env.contentHash) (storage : Storage)
    (moved : ConfigFile → Bool) : (World.start env storage moved).Kept env where
  upToDate := Controller.upToDate_new injective storage moved
  tidy := Controller.tidy_new env storage moved
  listed := Controller.listed_new env storage moved
  own := own_start env storage moved

theorem kept_of_run (lawful : env.serde.Lawful) (injective : Function.Injective env.contentHash)
    {history : List (World Digest × Action)}
    (run : Run (step env) (World.start env storage moved) history world) :
    Everywhere (World.Kept env) history world :=
  run.invariant_of_allowed (kept_start injective storage moved)
    (fun _ _ _ kept _ taken => kept.step lawful injective taken)
    (show Allowed (fun _ _ => True) history from fun _ _ => trivial)

end Worlds

end Juicity.Gui
