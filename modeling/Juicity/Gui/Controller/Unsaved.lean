import Juicity.Gui.Controller.Recall
import Juicity.Gui.Coding

/-!
Owns how far unsaved edits get: everything but a save writes an index made of what
was saved and read, and no list at all.
-/

namespace Juicity.Gui

open Juicity.Common Juicity.Machine

namespace Controller

variable {Digest : Type} {env : Env Digest} {answers : Answers} {now : Nat}
  {controller after : Controller Digest} {operation : Operation}

/-- A save whose list reaches the disk. -/
def WritesList (answers : Answers) (controller : Controller Digest) (operation : Operation) : Prop :=
  operation.IsSave controller ∧ controller.Attempted ∧
    controller.gui.profiles ≠ controller.saved.profiles ∧ answers.write .profiles = .ok ()

/-- A save that succeeds. -/
def Saves (env : Env Digest) (answers : Answers) (controller : Controller Digest)
    (operation : Operation) : Prop :=
  operation.IsSave controller ∧ (controller.writeNodes env answers).2 = true

/-- What is asked of an operation that is no save: profiles.json keeps its bytes, and
the index in what is written to runtime.json is made of what was saved and read. -/
structure EditsKept (env : Env Digest) (answers : Answers) (operation : Operation)
    (carried : Nat → Prop) (before after : Controller Digest) : Prop where
  profiles : ¬ before.WritesList answers operation →
    after.gui.storage.files .profiles = before.gui.storage.files .profiles
  runtime : ¬ before.Saves env answers operation → ∀ content files,
    FileEvent.wrote .runtime content files ∈ before.gui.storage.since after.gui.storage →
      ∃ (runtime : RuntimeState) (index : Nat), carried index ∧
        content = env.serde.runtime.toVec { runtime with selectedProfile := index }

/-- The list stage writes the list, unless it does not have to. -/
theorem listSaved_files (env : Env Digest) (attempted : controller.Attempted)
    (reached : controller.ListReached answers)
    (unwritten : ¬ (controller.Attempted ∧ controller.gui.profiles ≠ controller.saved.profiles ∧
      answers.write .profiles = .ok ())) :
    controller.saveRefusal.1.listSaved env = controller.saveRefusal.1 := by
  refine if_pos (show controller.gui.profiles = controller.saved.profiles from ?_)
  by_contra changed
  exact unwritten ⟨attempted, changed, reached.resolve_left changed⟩

/-- A save that does not write the list leaves profiles.json alone. -/
theorem SaveRun.profiles_kept {flag : Bool} (run : SaveRun env answers controller after flag)
    (unwritten : ¬ (controller.Attempted ∧ controller.gui.profiles ≠ controller.saved.profiles ∧
      answers.write .profiles = .ok ())) :
    after.gui.storage.files .profiles = controller.gui.storage.files .profiles := by
  cases run with
  | clean | refused | listFailed => rfl
  | indexFailed error attempted reached =>
      rw [listSaved_files env attempted reached unwritten]
      rfl
  | listOnly attempted reached =>
      rw [clearSaveNotice_gui, listSaved_files env attempted reached unwritten]
      rfl
  | indexToo attempted reached =>
      rw [clearSaveNotice_gui, listSaved_files env attempted reached unwritten]
      rfl

/-- A save that fails writes nothing to runtime.json. -/
theorem SaveRun.runtime_unwritten (run : SaveRun env answers controller after false)
    (content : Bytes) (files : Files) :
    FileEvent.wrote .runtime content files ∉ controller.gui.storage.since after.gui.storage := by
  obtain ⟨new, events, unwritten⟩ : ∃ new,
      after.gui.storage.events = new ++ controller.gui.storage.events ∧
        FileEvent.wrote .runtime content files ∉ new := by
    cases run with
    | refused => exact ⟨[], rfl, List.not_mem_nil⟩
    | listFailed => exact ⟨[.failed .profiles], rfl, by simp⟩
    | indexFailed =>
        rcases listSaved_cases env controller.saveRefusal.1 with same | stored
        · rw [same]
          exact ⟨[.failed .runtime], rfl, by simp⟩
        · rw [stored]
          exact ⟨[.failed .runtime, .wrote .profiles _ _], rfl, by simp⟩
  rw [Storage.since_append events]
  exact unwritten

variable [DecidableEq Digest]

/-- Whatever is done, unsaved edits stay in memory. -/
theorem editsKept_perform {carried : Nat → Prop} (saved : carried controller.saved.active)
    (tidy : controller.Tidy)
    (taken : operation.perform env answers now controller = some after) :
    EditsKept env answers operation carried controller after := by
  rcases perform_cases taken with change | flushed | ⟨save, leave, rfl⟩ | ⟨-, rfl⟩
  · refine ⟨fun _ => by rw [change.storage], fun _ content files wrote => ?_⟩
    rw [Storage.since_append (show _ = [] ++ _ by rw [change.storage]; rfl)] at wrote
    cases wrote
  · constructor
    · intro _
      rw [flushed.gui]
      have files := controller.persist.flush_files env controller.gui controller.saved answers.write
        now .profiles
      rw [Persist.reaches, tidy.listClean] at files
      exact files
    · intro _ content files wrote
      obtain ⟨_, new, storage, events⟩ :=
        controller.persist.flush_storage env controller.gui controller.saved answers.write now
      have appended : after.gui.storage.events = new ++ controller.gui.storage.events := by
        rw [flushed.gui]
        exact congrArg Storage.events storage
      rw [Storage.since_append appended] at wrote
      rcases events _ wrote with ⟨file, failed⟩ | ⟨file, _, same, -⟩
      · cases failed
      · obtain ⟨rfl, rfl, -⟩ := FileEvent.wrote.inj same
        exact ⟨controller.gui.runtime, _, saved, rfl⟩
  · have run := saveRun_writeNodes env answers controller
    refine ⟨fun unwritten => run.profiles_kept fun written => unwritten ⟨save, written⟩,
      fun failed content files wrote => ?_⟩
    have flag : (controller.writeNodes env answers).2 = false := by
      by_contra succeeded
      exact failed ⟨save, by simpa using succeeded⟩
    rw [flag] at run
    exact absurd wrote (run.runtime_unwritten content files)
  · constructor
    · intro _
      rw [files_onFilesChanged]
    · intro _ content files wrote
      obtain ⟨new, events, loaded, -⟩ := events_onFilesChanged env answers now controller
      rw [Storage.since_append events] at wrote
      obtain ⟨_, _, same⟩ := loaded _ wrote
      cases same

end Controller

/-! ## Runs -/

section Runs

variable {Digest : Type} [DecidableEq Digest] {env : Env Digest} {storage : Storage}
  {moved : ConfigFile → Bool} {world next : World Digest} {action : Action}

/-- What is asked of an operation: unsaved edits stay in memory, and an index that is
written is made of what was saved and read since the start. -/
def EditsUnsaved (env : Env Digest) (start world : World Digest) : Action → Prop
  | .perform operation answers now =>
      ∀ after, operation.perform env answers now world.controller = some after →
        Controller.EditsKept env answers operation
          (start.controller.saved.Carried env.serde
            (start.controller.gui.storage.since world.controller.gui.storage))
          world.controller after
  | .external _ _ | .rules _ _ => True

/-- In every run only a save that reaches profiles.json changes it, and whatever else
writes runtime.json writes an index made of what was saved and read. -/
theorem edits_unsaved (lawful : env.serde.Lawful) {history : List (World Digest × Action)}
    {final : World Digest} (run : Run (step env) (World.start env storage moved) history final) :
    Allowed (EditsUnsaved env (World.start env storage moved)) history := by
  have initial : World.Recalls env (World.start env storage moved)
      (World.start env storage moved) :=
    ⟨⟨[], rfl, rfl⟩, Controller.tidy_new env storage moved,
      Controller.listed_new env storage moved,
      Controller.min_pred_lt (List.length_pos_of_ne_nil (ProfileStore.filled_ne_nil _))⟩
  have every := run.invariant_of_allowed initial
    (fun _ _ _ held _ taken => held.step lawful taken)
    (show Allowed (fun _ _ => True) history from fun _ _ => trivial)
  intro entry member
  have held := every.1 entry member
  unfold EditsUnsaved
  split
  · intro after done
    obtain ⟨new, events, saved⟩ := held.recalls
    rw [Storage.since_append events]
    refine Controller.editsKept_perform ?_ held.tidy done
    rw [saved]
    exact Saved.carried_recalled initial.inside
  · trivial
  · trivial

end Runs

/-! ## Two nodes, swapped but not saved -/

def swappedNodes : ProfileStore := ⟨[serverNode "second", serverNode "first"]⟩

def quitsOnClose (index : Nat) : RuntimeState :=
  { RuntimeState.default with selectedProfile := index, closeToTray := false }

def editsEnv : Env Bytes :=
  .ofTables [.default] [oneNode, twoNodes, swappedNodes]
    [.default, secondActive, quitsOnClose 0, quitsOnClose 1]

theorem editsEnv_lawful : editsEnv.serde.Lawful :=
  Serde.lawful_ofTables _ _ _

/-- The second of two nodes is active. -/
def editsStorage : Storage :=
  .ofRecords editsEnv.serde .default twoNodes secondActive

/-- runtime.json cannot be written. -/
def Answers.indexRefused : Answers :=
  { Answers.willing with
    write := fun
      | .runtime => .error "read-only"
      | .app | .profiles => .ok () }

/-- With the nodes swapped a setting is written: the index next to it is the saved one,
not the working one. -/
theorem edits_unsaved_swapped :
    ∃ history final, Run (step editsEnv) (.start editsEnv editsStorage fun _ => false) history final ∧
      final.controller.gui.runtime.selectedProfile = 0 ∧
      editsEnv.serde.heldIndex final.controller.gui.storage.files = 1 ∧ history.length = 3 ∧
      Allowed (EditsUnsaved editsEnv (.start editsEnv editsStorage fun _ => false)) history := by
  have executed : ((exec (step editsEnv) (.start editsEnv editsStorage fun _ => false)
      [.perform (.nodeCommand 0 .moveDown) .willing 0,
        .perform (.setCloseToTray false) .willing 0, .perform .flushAll .willing 0]).any fun final =>
          decide (final.controller.gui.runtime.selectedProfile = 0) &&
            decide (editsEnv.serde.heldIndex final.controller.gui.storage.files = 1)) = true := by
    decide +kernel
  obtain ⟨final, ended, facts⟩ := (Option.any_eq_true _ _).mp executed
  simp only [Bool.and_eq_true, decide_eq_true_eq] at facts
  have run := run_trace ended
  exact ⟨_, final, run, facts.1, facts.2, rfl, edits_unsaved editsEnv_lawful run⟩

/-- A save whose index cannot be written fails, with the list on disk by then. And the
list gets shorter elsewhere and longer again: a setting is written next to an index
that is neither the one last read nor past the list. -/
theorem failed_save_writes_list_and_clamp_stays :
    (∃ (world : World Bytes) (after : Controller Bytes),
      Reachable (step editsEnv) (.start editsEnv editsStorage fun _ => false) world ∧
        Operation.saveNodes.perform editsEnv .indexRefused 0 world.controller = some after ∧
        (world.controller.writeNodes editsEnv .indexRefused).2 = false ∧
        after.gui.storage.files .profiles ≠ world.controller.gui.storage.files .profiles) ∧
    ∃ (world : World Bytes) (after : Controller Bytes),
      Reachable (step editsEnv) (.start editsEnv editsStorage fun _ => false) world ∧
        Operation.flushAll.perform editsEnv .willing 2 world.controller = some after ∧
        wroteSince world.controller.gui.storage after.gui.storage .runtime = true ∧
        editsEnv.serde.heldIndex after.gui.storage.files = 0 ∧
        (Saved.new (GuiState.fresh editsEnv.serde editsStorage.files)).lastClamped editsEnv.serde
          world.controller.gui.storage.events = 1 := by
  have failed : ((exec (step editsEnv) (.start editsEnv editsStorage fun _ => false)
      [.perform (.nodeCommand 0 .moveDown) .willing 0]).any fun world =>
        (Operation.saveNodes.perform editsEnv .indexRefused 0 world.controller).any fun after =>
          !(world.controller.writeNodes editsEnv .indexRefused).2 &&
            decide (after.gui.storage.files .profiles ≠
              world.controller.gui.storage.files .profiles)) = true := by
    decide +kernel
  have clamped : ((exec (step editsEnv) (.start editsEnv editsStorage fun _ => false)
      [.external .profiles (editsEnv.serde.profiles.toVec oneNode),
        .perform .onFilesChanged .willing 0,
        .external .profiles (editsEnv.serde.profiles.toVec twoNodes),
        .perform .onFilesChanged .willing 1,
        .perform (.setCloseToTray false) .willing 2]).any fun world =>
        (Operation.flushAll.perform editsEnv .willing 2 world.controller).any fun after =>
          wroteSince world.controller.gui.storage after.gui.storage .runtime &&
            decide (editsEnv.serde.heldIndex after.gui.storage.files = 0) &&
            decide ((Saved.new (GuiState.fresh editsEnv.serde editsStorage.files)).lastClamped
              editsEnv.serde world.controller.gui.storage.events = 1)) = true := by
    decide +kernel
  constructor
  · obtain ⟨world, ended, facts⟩ := (Option.any_eq_true _ _).mp failed
    obtain ⟨after, taken, facts⟩ := (Option.any_eq_true _ _).mp facts
    simp only [Bool.and_eq_true, Bool.not_eq_true', decide_eq_true_eq] at facts
    exact ⟨world, after, reachable_of_exec ended, taken, facts.1, facts.2⟩
  · obtain ⟨world, ended, facts⟩ := (Option.any_eq_true _ _).mp clamped
    obtain ⟨after, taken, facts⟩ := (Option.any_eq_true _ _).mp facts
    simp only [Bool.and_eq_true, decide_eq_true_eq] at facts
    exact ⟨world, after, reachable_of_exec ended, taken, facts.1.1, facts.1.2, facts.2⟩

end Juicity.Gui
