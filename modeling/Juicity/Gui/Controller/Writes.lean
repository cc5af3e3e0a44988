import Juicity.Gui.Controller.Reload

/-!
Owns what reaches the disk: one write, a flush, and the two writes of a save with
the record of the saved nodes between them. Also owns the invariants every
reachable controller has: the working index lies inside the list, a dirty file
has a scheduled save, and the node list is never dirty.
-/

namespace Juicity.Gui

open Juicity.Common Juicity.Machine

namespace Persist

variable {Digest : Type} (env : Env Digest) (gui : GuiState) (saved : Saved)
  (writes : ConfigFile → Except String Unit) (now : Nat)
  (state : Persist Digest × Storage × Except String Unit)

/-! ## A flush -/

/-- The file is dirty and its write succeeds. -/
def reaches (persist : Persist Digest) (file : ConfigFile) : Bool :=
  persist.dirty file && (writes file).isOk

section FlushFile

variable {env gui saved writes now state} {file : ConfigFile}

/-- The content of a file does not depend on the storage. -/
theorem bytes_storage (storage : Storage) :
    file.bytes env.serde { gui with storage } saved = file.bytes env.serde gui saved := by
  cases file <;> rfl

theorem flushFile_clean (clean : state.1.dirty file = false) :
    flushFile env gui saved writes now state file = state := by
  unfold flushFile
  exact if_neg (ne_true_of_eq_false clean)

theorem flushFile_ok (dirty : state.1.dirty file = true) (outcome : writes file = .ok ()) :
    flushFile env gui saved writes now state file =
      let content := file.bytes env.serde gui saved
      let files := Function.update state.2.1.files file (some content)
      ({ state.1 with
          dirty := Function.update state.1.dirty file false
          known := Function.update state.1.known file (some (env.contentHash content)) },
        { state.2.1 with files, events := .wrote file content files :: state.2.1.events },
        state.2.2) := by
  unfold flushFile
  dsimp only
  rw [if_pos dirty, write, outcome, bytes_storage]
  rfl

theorem flushFile_error (dirty : state.1.dirty file = true) {error : String}
    (outcome : writes file = .error error) :
    (flushFile env gui saved writes now state file).1 = { state.1 with due := some (now + retry) } ∧
      (flushFile env gui saved writes now state file).2.1 =
        { state.2.1 with events := .failed file :: state.2.1.events } := by
  unfold flushFile
  dsimp only
  rw [if_pos dirty, write, outcome]
  exact ⟨rfl, rfl⟩

theorem reaches_of_ok (dirty : state.1.dirty file = true) (outcome : writes file = .ok ()) :
    state.1.reaches writes file = true := by
  rw [reaches, dirty, outcome]
  rfl

theorem not_reaches_of_clean (clean : state.1.dirty file = false) :
    ¬state.1.reaches writes file = true := by
  rw [reaches, clean]
  exact Bool.false_ne_true

theorem not_reaches_of_error {error : String} (outcome : writes file = .error error) :
    ¬state.1.reaches writes file = true := by
  rw [reaches, outcome, Except.isOk, Except.toBool, Bool.and_false]
  exact Bool.false_ne_true

end FlushFile

theorem flushFile_dirty (file other : ConfigFile) :
    (flushFile env gui saved writes now state file).1.dirty other =
      (state.1.dirty other && !(decide (other = file) && (writes file).isOk)) := by
  cases dirty : state.1.dirty file with
  | false =>
      rw [flushFile_clean dirty]
      by_cases same : other = file
      · rw [same, dirty, Bool.false_and]
      · simp [same]
  | true =>
      cases outcome : writes file with
      | ok =>
          rw [flushFile_ok dirty outcome]
          by_cases same : other = file <;> simp [same, Except.isOk, Except.toBool]
      | error error =>
          rw [(flushFile_error dirty outcome).1]
          simp [Except.isOk, Except.toBool]

theorem flushFile_known (file other : ConfigFile) :
    (flushFile env gui saved writes now state file).1.known other =
      if other = file ∧ state.1.reaches writes file = true then
        some (env.contentHash (file.bytes env.serde gui saved))
      else state.1.known other := by
  cases dirty : state.1.dirty file with
  | false => rw [flushFile_clean dirty, if_neg fun both => not_reaches_of_clean dirty both.2]
  | true =>
      cases outcome : writes file with
      | ok =>
          rw [flushFile_ok dirty outcome]
          by_cases same : other = file <;> simp [same, reaches_of_ok dirty outcome]
      | error error =>
          rw [(flushFile_error dirty outcome).1,
            if_neg fun both => not_reaches_of_error outcome both.2]

theorem flushFile_files (file other : ConfigFile) :
    (flushFile env gui saved writes now state file).2.1.files other =
      if other = file ∧ state.1.reaches writes file = true then
        some (file.bytes env.serde gui saved)
      else state.2.1.files other := by
  cases dirty : state.1.dirty file with
  | false => rw [flushFile_clean dirty, if_neg fun both => not_reaches_of_clean dirty both.2]
  | true =>
      cases outcome : writes file with
      | ok =>
          rw [flushFile_ok dirty outcome]
          by_cases same : other = file <;> simp [same, reaches_of_ok dirty outcome]
      | error error =>
          rw [(flushFile_error dirty outcome).2,
            if_neg fun both => not_reaches_of_error outcome both.2]

theorem flushFile_due (file : ConfigFile) :
    (flushFile env gui saved writes now state file).1.due =
      if state.1.dirty file = true ∧ (writes file).isOk = false then some (now + retry)
      else state.1.due := by
  cases dirty : state.1.dirty file with
  | false => rw [flushFile_clean dirty, if_neg fun both => absurd both.1 Bool.false_ne_true]
  | true =>
      cases outcome : writes file with
      | ok =>
          rw [flushFile_ok dirty outcome]
          simp [Except.isOk, Except.toBool]
      | error error =>
          rw [(flushFile_error dirty outcome).1]
          simp [Except.isOk, Except.toBool]

/-- The rule files are not touched, and the new event is about this file. -/
theorem flushFile_storage (file : ConfigFile) :
    ∃ files new, (flushFile env gui saved writes now state file).2.1 =
        { state.2.1 with files, events := new ++ state.2.1.events } ∧
      ∀ event ∈ new, event = .failed file ∨ ∃ files,
        event = .wrote file (file.bytes env.serde gui saved) files ∧
          state.1.reaches writes file = true := by
  cases dirty : state.1.dirty file with
  | false =>
      rw [flushFile_clean dirty]
      exact ⟨_, [], rfl, fun event member => absurd member List.not_mem_nil⟩
  | true =>
      cases outcome : writes file with
      | ok =>
          rw [flushFile_ok dirty outcome]
          refine ⟨_, [_], rfl, fun event member => Or.inr ?_⟩
          exact ⟨_, List.mem_singleton.mp member, reaches_of_ok dirty outcome⟩
      | error error =>
          rw [(flushFile_error dirty outcome).2]
          exact ⟨_, [_], rfl, fun event member => Or.inl (List.mem_singleton.mp member)⟩

variable (persist : Persist Digest)

theorem flush_dirty (file : ConfigFile) :
    (persist.flush env gui saved writes now).1.dirty file =
      (persist.dirty file && !(writes file).isOk) := by
  cases file <;> simp [flush, ConfigFile.all, flushFile_dirty]

theorem flush_known (file : ConfigFile) :
    (persist.flush env gui saved writes now).1.known file =
      if persist.reaches writes file = true then
        some (env.contentHash (file.bytes env.serde gui saved))
      else persist.known file := by
  cases file <;> simp [flush, ConfigFile.all, flushFile_known, flushFile_dirty, reaches]

theorem flush_files (file : ConfigFile) :
    (persist.flush env gui saved writes now).2.1.files file =
      if persist.reaches writes file = true then some (file.bytes env.serde gui saved)
      else gui.storage.files file := by
  cases file <;> simp [flush, ConfigFile.all, flushFile_files, flushFile_dirty, reaches]

/-- A file that a flush leaves dirty has a retry scheduled. -/
theorem flush_due {file : ConfigFile}
    (dirty : (persist.flush env gui saved writes now).1.dirty file = true) :
    (persist.flush env gui saved writes now).1.due = some (now + retry) := by
  rw [flush_dirty] at dirty
  cases file <;>
    simp_all [flush, ConfigFile.all, flushFile_due, flushFile_dirty]

theorem foldl_flushFile_storage (todo : List ConfigFile) :
    ∃ files new, (todo.foldl (flushFile env gui saved writes now) state).2.1 =
        { state.2.1 with files, events := new ++ state.2.1.events } ∧
      ∀ event ∈ new, (∃ file, event = .failed file) ∨ ∃ file files,
        event = .wrote file (file.bytes env.serde gui saved) files ∧
          state.1.reaches writes file = true := by
  induction todo generalizing state with
  | nil => exact ⟨_, [], rfl, fun event member => by cases member⟩
  | cons file todo inductionHypothesis =>
      obtain ⟨_, new, same, events⟩ := flushFile_storage env gui saved writes now state file
      obtain ⟨files, later, same', events'⟩ :=
        inductionHypothesis (flushFile env gui saved writes now state file)
      refine ⟨files, later ++ new, ?_, fun event member => ?_⟩
      · rw [List.foldl_cons, same', same, List.append_assoc]
      · rcases List.mem_append.mp member with last | first
        · rcases events' event last with failed | ⟨written, files, wrote, reached⟩
          · exact Or.inl failed
          · refine Or.inr ⟨written, files, wrote, ?_⟩
            -- a file that is dirty later on was dirty all along
            rw [reaches, flushFile_dirty] at reached
            simp only [Bool.and_eq_true] at reached
            exact Bool.and_eq_true_iff.mpr ⟨reached.1.1, reached.2⟩
        · rcases events event first with failed | ⟨files, wrote, reached⟩
          · exact Or.inl ⟨file, failed⟩
          · exact Or.inr ⟨file, files, wrote, reached⟩

/-- What a flush writes are the saved nodes and the records in memory. -/
theorem flush_storage :
    ∃ files new, (persist.flush env gui saved writes now).2.1 =
        { gui.storage with files, events := new ++ gui.storage.events } ∧
      ∀ event ∈ new, (∃ file, event = .failed file) ∨ ∃ file files,
        event = .wrote file (file.bytes env.serde gui saved) files ∧
          persist.reaches writes file = true :=
  foldl_flushFile_storage env gui saved writes now
    ({ persist with due := none }, gui.storage, .ok ()) ConfigFile.all

end Persist

namespace Controller

variable {Digest : Type} (env : Env Digest) (answers : Answers) (now : Nat)
  (controller : Controller Digest)

/-! ## One write -/

/-- A content reached the disk. -/
def stored (file : ConfigFile) (content : Bytes) : Controller Digest :=
  let files := Function.update controller.gui.storage.files file (some content)
  { controller with
    persist := { controller.persist with
      dirty := Function.update controller.persist.dirty file false
      known := Function.update controller.persist.known file (some (env.contentHash content)) }
    gui := { controller.gui with
      storage := { controller.gui.storage with
        files
        events := .wrote file content files :: controller.gui.storage.events } } }

/-- A write failed: only the attempt is noted. -/
def unstored (file : ConfigFile) : Controller Digest :=
  { controller with
    gui := { controller.gui with
      storage := { controller.gui.storage with
        events := .failed file :: controller.gui.storage.events } } }

/-! ## The two writes of a save -/

/-- The list reached the disk; the saved index follows it. -/
def listStored (list : ProfileStore) : Controller Digest :=
  { controller.stored env .profiles (env.serde.profiles.toVec list) with
    saved := { controller.saved with profiles := list }.clampActive }

/-- The active index reached the disk, with the runtime settings. -/
def indexStored (index : Nat) : Controller Digest :=
  { controller.stored env .runtime
      (env.serde.runtime.toVec { controller.gui.runtime with selectedProfile := index }) with
    saved := { controller.saved with active := index } }

theorem writeList_eq (next : Saved) :
    controller.writeList env answers next =
      if next.profiles = controller.saved.profiles then (controller, .ok ())
      else
        match answers.write .profiles with
        | .ok () => (controller.listStored env next.profiles, .ok ())
        | .error error => (controller.unstored .profiles, .error error) := by
  unfold writeList
  split
  · rfl
  · cases answers.write .profiles with
    | ok => rfl
    | error => rfl

theorem writeIndex_eq (next : Saved) :
    controller.writeIndex env answers next =
      if next.active = controller.saved.active then (controller, .ok ())
      else
        match answers.write .runtime with
        | .ok () => (controller.indexStored env next.active, .ok ())
        | .error error => (controller.unstored .runtime, .error error) := by
  unfold writeIndex
  split
  · rfl
  · cases answers.write .runtime with
    | ok => rfl
    | error => rfl

/-- The list stage of a save that got past it. -/
def listSaved : Controller Digest :=
  if controller.gui.profiles = controller.saved.profiles then controller
  else controller.listStored env controller.gui.profiles

/-- The list did not have to be written, or the write succeeds. -/
def ListReached : Prop :=
  controller.gui.profiles = controller.saved.profiles ∨ answers.write .profiles = .ok ()

/-- There are edits, and the save is not refused. -/
def Attempted : Prop := controller.nodesDirty = true ∧ controller.saveRefusal.2 = none

/-- The ways a save can go, with the controller it leaves and the flag it returns.
The writes are made from the controller whose errors were checked. -/
inductive SaveRun : Controller Digest → Bool → Prop where
  | clean (clean : controller.nodesDirty = false) : SaveRun controller true
  | refused (notice : Notice) (dirty : controller.nodesDirty = true)
      (refused : controller.saveRefusal.2 = some notice) :
      SaveRun ({ controller.saveRefusal.1 with leave := none }.setNotice notice) false
  | listFailed (error : String) (attempted : controller.Attempted)
      (changed : controller.gui.profiles ≠ controller.saved.profiles)
      (failed : answers.write .profiles = .error error) :
      SaveRun ((controller.saveRefusal.1.unstored .profiles).saveFailed error).1 false
  | indexFailed (error : String) (attempted : controller.Attempted)
      (listed : controller.ListReached answers)
      (changed : controller.nextSaved.active ≠ (controller.saveRefusal.1.listSaved env).saved.active)
      (failed : answers.write .runtime = .error error) :
      SaveRun (((controller.saveRefusal.1.listSaved env).unstored .runtime).saveFailed error).1 false
  | listOnly (attempted : controller.Attempted) (listed : controller.ListReached answers)
      (same : controller.nextSaved.active = (controller.saveRefusal.1.listSaved env).saved.active) :
      SaveRun (controller.saveRefusal.1.listSaved env).clearSaveNotice true
  | indexToo (attempted : controller.Attempted) (listed : controller.ListReached answers)
      (changed : controller.nextSaved.active ≠ (controller.saveRefusal.1.listSaved env).saved.active)
      (written : answers.write .runtime = .ok ()) :
      SaveRun ((controller.saveRefusal.1.listSaved env).indexStored env
        controller.nextSaved.active).clearSaveNotice true

/-- The index stage. -/
theorem saveRun_index (attempted : controller.Attempted) (listed : controller.ListReached answers) :
    let result := match (controller.saveRefusal.1.listSaved env).writeIndex env answers
        controller.nextSaved with
      | (unwritten, .error error) => unwritten.saveFailed error
      | (written, .ok ()) => (written.clearSaveNotice, true)
    SaveRun env answers controller result.1 result.2 := by
  rw [writeIndex_eq]
  by_cases same : controller.nextSaved.active = (controller.saveRefusal.1.listSaved env).saved.active
  · rw [if_pos same]
    exact .listOnly attempted listed same
  · rw [if_neg same]
    cases outcome : answers.write .runtime with
    | ok => exact .indexToo attempted listed same outcome
    | error error => exact .indexFailed error attempted listed same outcome

theorem saveRun_writeNodes : SaveRun env answers controller (controller.writeNodes env answers).1
    (controller.writeNodes env answers).2 := by
  unfold writeNodes
  split
  · rename_i clean
    exact .clean clean
  · rename_i edited
    have dirty : controller.nodesDirty = true := by simpa using edited
    cases refusal : controller.saveRefusal.2 with
    | some notice =>
        have shape : controller.saveRefusal = (controller.saveRefusal.1, some notice) :=
          Prod.ext rfl refusal
        rw [shape]
        exact .refused notice dirty refusal
    | none =>
        have shape : controller.saveRefusal = (controller.saveRefusal.1, none) :=
          Prod.ext rfl refusal
        have attempted : controller.Attempted := ⟨dirty, refusal⟩
        rw [shape]
        dsimp only
        rw [writeList_eq]
        have index := saveRun_index env answers controller attempted
        by_cases same : controller.gui.profiles = controller.saved.profiles
        · have listed : controller.saveRefusal.1.listSaved env = controller.saveRefusal.1 :=
            if_pos same
          have checked : controller.saveRefusal.1.nextSaved.profiles =
              controller.saveRefusal.1.saved.profiles := same
          rw [if_pos checked]
          rw [listed] at index
          exact index (Or.inl same)
        · have listed : controller.saveRefusal.1.listSaved env =
              controller.saveRefusal.1.listStored env controller.gui.profiles := if_neg same
          have checked : controller.saveRefusal.1.nextSaved.profiles ≠
              controller.saveRefusal.1.saved.profiles := same
          rw [if_neg checked]
          rw [listed] at index
          cases outcome : answers.write .profiles with
          | ok =>
              exact index (Or.inr outcome)
          | error error => exact .listFailed error attempted same outcome

/-! ## What a save leaves alone -/

@[simp] theorem clearSaveNotice_gui : controller.clearSaveNotice.gui = controller.gui := by
  unfold clearSaveNotice
  split <;> rfl

@[simp] theorem clearSaveNotice_persist :
    controller.clearSaveNotice.persist = controller.persist := by
  unfold clearSaveNotice
  split <;> rfl

@[simp] theorem clearSaveNotice_saved : controller.clearSaveNotice.saved = controller.saved := by
  unfold clearSaveNotice
  split <;> rfl

@[simp] theorem clearSaveNotice_nodes : controller.clearSaveNotice.nodes = controller.nodes := by
  unfold clearSaveNotice
  split <;> rfl

variable {env answers controller} {after : Controller Digest} {flag : Bool}

theorem listSaved_cases (env : Env Digest) (controller : Controller Digest) :
    controller.listSaved env = controller ∨
      controller.listSaved env = controller.listStored env controller.gui.profiles := by
  unfold listSaved
  split
  · exact Or.inl rfl
  · exact Or.inr rfl

/-- A save writes; it changes no record in memory but the saved nodes, makes no file
dirty and leaves the timer. -/
structure SavedOnly (before after : Controller Digest) : Prop where
  profiles : after.gui.profiles = before.gui.profiles
  runtime : after.gui.runtime = before.gui.runtime
  config : after.gui.config = before.gui.config
  chinaList : after.gui.storage.chinaList = before.gui.storage.chinaList
  gfw : after.gui.storage.gfw = before.gui.storage.gfw
  dirty : ∀ file, after.persist.dirty file = true → before.persist.dirty file = true
  due : after.persist.due = before.persist.due

theorem dirty_of_update {dirty : ConfigFile → Bool} {written file : ConfigFile}
    (still : Function.update dirty written false file = true) : dirty file = true := by
  by_cases same : file = written
  · subst same
    simp at still
  · rwa [Function.update_of_ne same] at still

theorem savedOnly_listSaved (env : Env Digest) (controller : Controller Digest) :
    SavedOnly controller (controller.saveRefusal.1.listSaved env) := by
  rcases listSaved_cases env controller.saveRefusal.1 with same | stored
  · rw [same]
    exact ⟨rfl, rfl, rfl, rfl, rfl, fun _ dirty => dirty, rfl⟩
  · rw [stored]
    exact ⟨rfl, rfl, rfl, rfl, rfl, fun _ dirty => dirty_of_update dirty, rfl⟩

theorem SavedOnly.trans {before middle after : Controller Digest}
    (first : SavedOnly before middle) (second : SavedOnly middle after) :
    SavedOnly before after where
  profiles := second.profiles.trans first.profiles
  runtime := second.runtime.trans first.runtime
  config := second.config.trans first.config
  chinaList := second.chinaList.trans first.chinaList
  gfw := second.gfw.trans first.gfw
  dirty := fun file dirty => first.dirty file (second.dirty file dirty)
  due := second.due.trans first.due

theorem savedOnly_indexStored (index : Nat) : SavedOnly controller (controller.indexStored env index) :=
  ⟨rfl, rfl, rfl, rfl, rfl, fun _ dirty => dirty_of_update dirty, rfl⟩

theorem savedOnly_clearSaveNotice : SavedOnly controller controller.clearSaveNotice := by
  refine ⟨?_, ?_, ?_, ?_, ?_, ?_, ?_⟩ <;> simp

theorem SaveRun.savedOnly (run : SaveRun env answers controller after flag) :
    SavedOnly controller after := by
  have listed := savedOnly_listSaved env controller
  cases run with
  | clean | refused | listFailed =>
      exact ⟨rfl, rfl, rfl, rfl, rfl, fun _ dirty => dirty, rfl⟩
  | indexFailed =>
      exact listed.trans ⟨rfl, rfl, rfl, rfl, rfl, fun _ dirty => dirty, rfl⟩
  | listOnly => exact listed.trans savedOnly_clearSaveNotice
  | indexToo =>
      exact (listed.trans (savedOnly_indexStored _)).trans savedOnly_clearSaveNotice

theorem savedOnly_of_saveStep (saved : SaveStep env answers controller after) :
    SavedOnly controller after := by
  obtain ⟨leave, rfl⟩ := saved
  have run := (saveRun_writeNodes env answers controller).savedOnly
  exact ⟨run.profiles, run.runtime, run.config, run.chinaList, run.gfw, run.dirty, run.due⟩

/-! ## Invariants of every run -/

/-- Every dirty file has a scheduled save, and the node list is never dirty. -/
structure Tidy (controller : Controller Digest) : Prop where
  scheduled : controller.Scheduled
  listClean : controller.persist.dirty .profiles = false

variable [DecidableEq Digest] {now} {operation : Operation}

theorem Tidy.perform (tidy : controller.Tidy)
    (taken : operation.perform env answers now controller = some after) : after.Tidy := by
  rcases perform_cases taken with change | flushed | ⟨-, saved⟩ | ⟨-, rfl⟩
  · exact ⟨change.scheduled tidy.scheduled, change.profilesDirty.trans tidy.listClean⟩
  · constructor
    · intro file dirty
      rw [flushed.persist] at dirty ⊢
      rw [Persist.flush_due _ _ _ _ _ _ dirty]
      rfl
    · rw [flushed.persist, Persist.flush_dirty, tidy.listClean]
      rfl
  · have only := savedOnly_of_saveStep saved
    constructor
    · intro file dirty
      rw [only.due]
      exact tidy.scheduled file (only.dirty file dirty)
    · by_contra dirty
      have was := only.dirty .profiles (by simpa using dirty)
      rw [tidy.listClean] at was
      cases was
  · have follows := follows_onFilesChanged answers controller env now
    have persist : (controller.onFilesChanged env answers now).persist =
        controller.lookedPersist env now := follows.persist
    constructor
    · intro file dirty
      rw [persist] at dirty ⊢
      rw [lookedPersist_dirty] at dirty
      rw [lookedPersist_due controller (tidy.scheduled file dirty)]
      exact tidy.scheduled file dirty
    · rw [persist, lookedPersist_dirty]
      exact tidy.listClean

theorem Valid.perform (valid : controller.Valid)
    (taken : operation.perform env answers now controller = some after) : after.Valid := by
  rcases perform_cases taken with change | flushed | ⟨-, saved⟩ | ⟨-, rfl⟩
  · exact change.valid valid
  · rw [Valid, flushed.gui]
    exact valid
  · have only := savedOnly_of_saveStep saved
    rw [Valid, only.profiles, only.runtime]
    exact valid
  · exact valid_onFilesChanged answers controller env now valid

theorem Listed.perform (listed : controller.Listed)
    (taken : operation.perform env answers now controller = some after) : after.Listed := by
  rcases perform_cases taken with change | flushed | ⟨-, saved⟩ | ⟨-, rfl⟩
  · exact change.listed listed
  · rw [Listed, flushed.gui]
    exact listed
  · rw [Listed, (savedOnly_of_saveStep saved).profiles]
    exact listed
  · exact listed_onFilesChanged answers controller env now listed

omit [DecidableEq Digest] in
theorem listed_new (env : Env Digest) (storage : Storage) (moved : ConfigFile → Bool) :
    (Controller.new env storage moved).Listed :=
  ProfileStore.filled_ne_nil _

omit [DecidableEq Digest] in
theorem tidy_new (env : Env Digest) (storage : Storage) (moved : ConfigFile → Bool) :
    (Controller.new env storage moved).Tidy where
  scheduled := fun _ dirty => by cases dirty
  listClean := rfl

end Controller

/-- What holds of a new controller and is kept by every operation and by every other
program holds of the controller in every reachable world. -/
theorem World.invariant {Digest : Type} [DecidableEq Digest] {env : Env Digest}
    {storage : Storage} {moved : ConfigFile → Bool} {inv : Controller Digest → Prop}
    (initial : inv (Controller.new env storage moved))
    (performed : ∀ operation answers now controller after, inv controller →
      Operation.perform env operation answers now controller = some after → inv after)
    (written : ∀ controller storage, inv controller →
      inv { controller with gui := { controller.gui with storage := storage } })
    {world : World Digest} (reached : Reachable (step env) (World.start env storage moved) world) :
    inv world.controller := by
  obtain ⟨history, run⟩ := reached
  induction run with
  | start => exact initial
  | @next history state after action before taken inductionHypothesis =>
      cases action with
      | perform operation answers now =>
          exact performed _ _ _ _ _ inductionHypothesis (step_perform taken).2.1
      | external file content =>
          obtain rfl := Option.some.inj taken
          exact written _ _ inductionHypothesis
      | rules chinaList gfw =>
          obtain rfl := Option.some.inj taken
          exact written _ _ inductionHypothesis

/-- In every reachable state a dirty file has a scheduled save. -/
theorem tidy_of_reachable {Digest : Type} [DecidableEq Digest] {env : Env Digest}
    {storage : Storage} {moved : ConfigFile → Bool} {world : World Digest}
    (reached : Reachable (step env) (World.start env storage moved) world) :
    world.controller.Tidy :=
  World.invariant (Controller.tidy_new env storage moved)
    (fun _ _ _ _ _ tidy taken => tidy.perform taken)
    (fun _ _ tidy => ⟨tidy.scheduled, tidy.listClean⟩) reached

theorem valid_of_reachable {Digest : Type} [DecidableEq Digest] {env : Env Digest}
    {storage : Storage} {moved : ConfigFile → Bool} {world : World Digest}
    (started : (Controller.new env storage moved).Valid)
    (reached : Reachable (step env) (World.start env storage moved) world) :
    world.controller.Valid :=
  World.invariant started (fun _ _ _ _ _ valid taken => valid.perform taken)
    (fun _ _ valid => valid) reached

end Juicity.Gui
