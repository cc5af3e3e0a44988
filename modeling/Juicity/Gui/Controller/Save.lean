import Juicity.Gui.Controller.Writes
import Juicity.Gui.Coding

/-!
Owns what a save leaves on disk. The list is written first, the index only if it
is not the one saved by then; whether it is, is judged by the record in memory,
which is clamped into the new list, and not by the index in runtime.json. So the
disk is left consistent exactly when that index fits the list.
-/

namespace Juicity.Gui

open Juicity.Common Juicity.Machine

namespace GuiState

variable {serde : Serde} {files : Files} {store : ProfileStore}

/-- A list on disk that is not empty is read as it is, with the index in runtime.json. -/
theorem fresh_of_parsed (parsed : (files .profiles).bind serde.profiles.fromSlice = some store)
    (some : store.profiles ≠ []) :
    (fresh serde files).profiles = store ∧
      (fresh serde files).runtime.selectedProfile = serde.heldIndex files := by
  obtain ⟨content, held, read⟩ := Option.bind_eq_some_iff.mp parsed
  simp [fresh, loadTracked, Codec.loadOrRecover, held, read, some, ProfileStore.filled,
    Serde.heldIndex]

theorem heldIndex_of_stored (lawful : serde.Lawful) {runtime : RuntimeState}
    (held : files .runtime = some (serde.runtime.toVec runtime)) :
    serde.heldIndex files = runtime.selectedProfile := by
  simp [Serde.heldIndex, held, Codec.loadOrRecover, lawful.runtime runtime]

end GuiState

namespace Controller

variable {Digest : Type} {env : Env Digest} {answers : Answers} {controller after : Controller Digest}
  {flag : Bool}

/-- What is asked of a save: when the edits are gone, both files hold them; after
every write the index lies inside the list; and a failed write keeps the edits and
cancels the pending leave. -/
structure SaveKept (serde : Serde) (before after : Controller Digest) : Prop where
  success : before.nodesDirty = true → after.nodesDirty = false →
    (after.gui.storage.files .profiles).bind serde.profiles.fromSlice = some before.gui.profiles ∧
      (GuiState.fresh serde after.gui.storage.files).runtime.selectedProfile =
        before.gui.runtime.selectedProfile
  writes : ∀ file content files,
    FileEvent.wrote file content files ∈ before.gui.storage.since after.gui.storage →
      (GuiState.fresh serde files).runtime.selectedProfile <
        (GuiState.fresh serde files).profiles.profiles.length
  failure : ∀ file, FileEvent.failed file ∈ before.gui.storage.since after.gui.storage →
    after.nodesDirty = true ∧ after.leave = none

/-- A list that is written has room for the index in runtime.json, which is the
working one unless the index is written too; a list that is not written is the one
in profiles.json. -/
def SaveSafe (serde : Serde) (answers : Answers) (controller : Controller Digest) : Prop :=
  let gui := controller.gui
  let held := serde.heldIndex gui.storage.files
  let working := gui.runtime.selectedProfile
  controller.Attempted →
    (gui.profiles ≠ controller.saved.profiles → answers.write .profiles = .ok () →
      held < gui.profiles.profiles.length ∧
        (working = min controller.saved.active (gui.profiles.profiles.length - 1) →
          held = working)) ∧
    (gui.profiles = controller.saved.profiles → answers.write .runtime = .ok () →
      (gui.storage.files .profiles).bind serde.profiles.fromSlice =
        some controller.saved.profiles)

/-! ## Edits -/

/-- A draft that was checked without errors keeps nothing out. -/
theorem draftUnapplied_of_attempted (attempted : controller.Attempted) :
    controller.draftUnapplied = false := by
  have errors : controller.nodes.draft.errors = [] := by
    by_contra some
    have refusal := attempted.2
    simp [saveRefusal, some] at refusal
  unfold draftUnapplied
  cases controller.gui.profiles.profiles[controller.nodes.selected]? with
  | none => rfl
  | some profile => exact DraftData.unapplied_of_errors_nil errors profile

/-- What is saved is what is worked on when the index lies inside the list. -/
theorem nextSaved_active (valid : controller.Valid) :
    controller.nextSaved.active = controller.gui.runtime.selectedProfile := by
  have inside : controller.gui.runtime.selectedProfile ≤
      controller.gui.profiles.profiles.length - 1 := Nat.le_sub_one_of_lt valid
  exact Nat.min_eq_left inside

theorem nodesDirty_of_profiles (differ : controller.gui.profiles ≠ controller.saved.profiles) :
    controller.nodesDirty = true := by
  simp [nodesDirty, listDirty, differ]

theorem nodesDirty_of_active
    (differ : controller.gui.runtime.selectedProfile ≠ controller.saved.active) :
    controller.nodesDirty = true := by
  simp [nodesDirty, listDirty, differ]

/-- A save that is attempted has a list or an index to write. -/
theorem active_ne_of_attempted (attempted : controller.Attempted)
    (same : controller.gui.profiles = controller.saved.profiles) :
    controller.gui.runtime.selectedProfile ≠ controller.saved.active := by
  intro active
  have dirty := attempted.1
  rw [nodesDirty, draftUnapplied_of_attempted attempted, Bool.or_false] at dirty
  simp [listDirty, same, active] at dirty

/-- The edits are gone once the saved nodes are the working ones. -/
theorem nodesDirty_of_saved (attempted : controller.Attempted)
    (nodes : after.nodes = controller.saveRefusal.1.nodes)
    (profiles : after.gui.profiles = controller.gui.profiles)
    (saved : after.saved = ⟨after.gui.profiles, after.gui.runtime.selectedProfile⟩) :
    after.nodesDirty = false := by
  have unapplied : after.draftUnapplied = false := by
    rw [← draftUnapplied_of_attempted attempted, draftUnapplied, draftUnapplied, nodes, profiles]
    rfl
  rw [nodesDirty, unapplied, Bool.or_false]
  simp [listDirty, saved]

/-! ## The ways a save goes -/

/-- The index read from the files lies inside the list read from them. -/
def FreshInside (serde : Serde) (files : Files) : Prop :=
  (GuiState.fresh serde files).runtime.selectedProfile <
    (GuiState.fresh serde files).profiles.profiles.length

variable {serde : Serde} (new : List FileEvent)

/-- Of a save that kept the edits only the writes are in question. -/
theorem saveKept_of_failure (dirty : after.nodesDirty = true) (leave : after.leave = none)
    (events : after.gui.storage.events = new ++ controller.gui.storage.events) :
    SaveKept serde controller after ↔
      ∀ file content files, FileEvent.wrote file content files ∈ new → FreshInside serde files := by
  have since := Storage.since_append events
  constructor
  · intro kept file content files wrote
    exact kept.writes file content files (since ▸ wrote)
  · intro inside
    exact
      { success := fun _ clean => by
          rw [dirty] at clean
          cases clean
        writes := fun file content files wrote => inside file content files (since ▸ wrote)
        failure := fun _ _ => ⟨dirty, leave⟩ }

/-- Of a save that succeeded the files and the writes are in question. -/
theorem saveKept_of_success (was : controller.nodesDirty = true) (clean : after.nodesDirty = false)
    (events : after.gui.storage.events = new ++ controller.gui.storage.events)
    (written : ∀ file, FileEvent.failed file ∉ new) :
    SaveKept serde controller after ↔
      ((after.gui.storage.files .profiles).bind serde.profiles.fromSlice =
          some controller.gui.profiles ∧
        (GuiState.fresh serde after.gui.storage.files).runtime.selectedProfile =
          controller.gui.runtime.selectedProfile) ∧
      ∀ file content files, FileEvent.wrote file content files ∈ new → FreshInside serde files := by
  have since := Storage.since_append events
  constructor
  · intro kept
    exact ⟨kept.success was clean, fun file content files wrote =>
      kept.writes file content files (since ▸ wrote)⟩
  · rintro ⟨success, inside⟩
    exact
      { success := fun _ _ => success
        writes := fun file content files wrote => inside file content files (since ▸ wrote)
        failure := fun file failed => absurd (since ▸ failed) (written file) }

/-- The list that was written reads as the working one, with the index in runtime.json
as it was. -/
theorem fresh_of_listStored (lawful : env.serde.Lawful) (valid : controller.Valid)
    (files : Files)
    (stored : files = Function.update controller.gui.storage.files .profiles
      (some (env.serde.profiles.toVec controller.gui.profiles))) :
    (files .profiles).bind env.serde.profiles.fromSlice = some controller.gui.profiles ∧
      (GuiState.fresh env.serde files).profiles = controller.gui.profiles ∧
      (GuiState.fresh env.serde files).runtime.selectedProfile =
        env.serde.heldIndex controller.gui.storage.files := by
  have parsed : (files .profiles).bind env.serde.profiles.fromSlice =
      some controller.gui.profiles := by
    simp [stored, lawful.profiles controller.gui.profiles]
  have some : controller.gui.profiles.profiles ≠ [] := by
    intro empty
    rw [Valid, empty] at valid
    exact absurd valid (Nat.not_lt_zero _)
  have read := GuiState.fresh_of_parsed parsed some
  refine ⟨parsed, read.1, read.2.trans ?_⟩
  simp [Serde.heldIndex, stored]

/-- The index that was written is read next to a list that reads as the working one. -/
theorem fresh_of_indexStored (lawful : env.serde.Lawful) (valid : controller.Valid)
    {files : Files} {runtime : RuntimeState}
    (listed : (files .profiles).bind env.serde.profiles.fromSlice = some controller.gui.profiles)
    (stored : files .runtime = some (env.serde.runtime.toVec runtime)) :
    (GuiState.fresh env.serde files).profiles = controller.gui.profiles ∧
      (GuiState.fresh env.serde files).runtime.selectedProfile = runtime.selectedProfile := by
  have some : controller.gui.profiles.profiles ≠ [] := by
    intro empty
    rw [Valid, empty] at valid
    exact absurd valid (Nat.not_lt_zero _)
  have read := GuiState.fresh_of_parsed listed some
  exact ⟨read.1, read.2.trans (GuiState.heldIndex_of_stored lawful stored)⟩

/-- A save that changed nothing on disk is in order, and so is its plan. -/
theorem saveKept_of_unwritten (storage : after.gui.storage = controller.gui.storage)
    (kept : controller.nodesDirty = false ∨ after.nodesDirty = true) :
    SaveKept serde controller after := by
  have since : controller.gui.storage.since after.gui.storage = [] :=
    Storage.since_append (by rw [storage]; rfl)
  exact
    { success := fun was clean => by
        rcases kept with unedited | dirty
        · rw [unedited] at was
          cases was
        · rw [dirty] at clean
          cases clean
      writes := fun file content files wrote => by
        rw [since] at wrote
        cases wrote
      failure := fun file failed => by
        rw [since] at failed
        cases failed }

/-- A plan is safe where nothing is attempted. -/
theorem saveSafe_of_not_attempted (idle : ¬ controller.Attempted) :
    SaveSafe serde answers controller :=
  fun attempted => absurd attempted idle

theorem listSaved_of_same (same : controller.gui.profiles = controller.saved.profiles) :
    controller.saveRefusal.1.listSaved env = controller.saveRefusal.1 :=
  if_pos same

theorem listSaved_of_changed (changed : controller.gui.profiles ≠ controller.saved.profiles) :
    controller.saveRefusal.1.listSaved env =
      controller.saveRefusal.1.listStored env controller.gui.profiles :=
  if_neg changed

/-- The files once the list is written. -/
def listedFiles (env : Env Digest) (controller : Controller Digest) : Files :=
  Function.update controller.gui.storage.files .profiles
    (some (env.serde.profiles.toVec controller.gui.profiles))

/-- The index was not saved: only the list may have been written. -/
theorem saveKept_iff_of_indexFailed (lawful : env.serde.Lawful) (valid : controller.Valid)
    (attempted : controller.Attempted)
    (listed : controller.ListReached answers)
    (differs : controller.nextSaved.active ≠ (controller.saveRefusal.1.listSaved env).saved.active)
    {error : String} (failed : answers.write .runtime = .error error)
    (gui : after.gui = ((controller.saveRefusal.1.listSaved env).unstored .runtime).gui)
    (saved : after.saved = (controller.saveRefusal.1.listSaved env).saved)
    (leave : after.leave = none) :
    SaveKept env.serde controller after ↔ SaveSafe env.serde answers controller := by
  have active := nextSaved_active valid
  rw [active] at differs
  have dirty : after.nodesDirty = true := by
    refine nodesDirty_of_active ?_
    rw [gui, saved]
    have runtime := (savedOnly_listSaved env controller).runtime
    change (controller.saveRefusal.1.listSaved env).gui.runtime.selectedProfile ≠ _
    rw [runtime]
    exact differs
  by_cases same : controller.gui.profiles = controller.saved.profiles
  · rw [listSaved_of_same same] at gui
    rw [saveKept_of_failure [.failed .runtime] dirty leave (by rw [gui]; rfl)]
    refine ⟨fun _ _ => ⟨fun changed => absurd same changed, fun _ written => ?_⟩,
      fun _ file content files wrote => ?_⟩
    · rw [failed] at written
      cases written
    · simp at wrote
  · rw [listSaved_of_changed same] at gui differs
    have reached : answers.write .profiles = .ok () := listed.resolve_left same
    rw [saveKept_of_failure [.failed .runtime, .wrote .profiles
      (env.serde.profiles.toVec controller.gui.profiles) (controller.listedFiles env)]
      dirty leave (by rw [gui]; rfl)]
    have read := fresh_of_listStored lawful valid (controller.listedFiles env) rfl
    constructor
    · intro inside _
      refine ⟨fun _ _ => ⟨?_, fun working => absurd working differs⟩,
        fun unchanged => absurd unchanged same⟩
      have bound := inside .profiles _ _ (List.mem_cons_of_mem _ (List.mem_singleton.mpr rfl))
      rwa [FreshInside, read.2.1, read.2.2] at bound
    · intro safe file content files wrote
      simp only [List.mem_cons, List.not_mem_nil, or_false, FileEvent.wrote.injEq, reduceCtorEq,
        false_or] at wrote
      obtain ⟨-, -, rfl⟩ := wrote
      rw [FreshInside, read.2.1, read.2.2]
      exact ((safe attempted).1 same reached).1

/-- The list was saved, and the saved index is the working one by then. -/
theorem saveKept_iff_of_listOnly (lawful : env.serde.Lawful) (valid : controller.Valid)
    (attempted : controller.Attempted) (listed : controller.ListReached answers)
    (agrees : controller.nextSaved.active = (controller.saveRefusal.1.listSaved env).saved.active)
    (gui : after.gui = (controller.saveRefusal.1.listSaved env).gui)
    (saved : after.saved = (controller.saveRefusal.1.listSaved env).saved)
    (nodes : after.nodes = controller.saveRefusal.1.nodes) :
    SaveKept env.serde controller after ↔ SaveSafe env.serde answers controller := by
  rw [nextSaved_active valid] at agrees
  have changed : controller.gui.profiles ≠ controller.saved.profiles := by
    intro same
    rw [listSaved_of_same same] at agrees
    exact active_ne_of_attempted attempted same agrees
  rw [listSaved_of_changed changed] at gui saved agrees
  have reached : answers.write .profiles = .ok () := listed.resolve_left changed
  have clean : after.nodesDirty = false := by
    refine nodesDirty_of_saved attempted nodes (by rw [gui]; rfl) ?_
    rw [saved, gui]
    exact congrArg _ agrees.symm
  rw [saveKept_of_success [.wrote .profiles (env.serde.profiles.toVec controller.gui.profiles)
    (controller.listedFiles env)] attempted.1 clean (by rw [gui]; rfl) (by simp)]
  have read := fresh_of_listStored lawful valid (controller.listedFiles env) rfl
  have files : after.gui.storage.files = controller.listedFiles env := by rw [gui]; rfl
  rw [files]
  constructor
  · rintro ⟨success, inside⟩ _
    refine ⟨fun _ _ => ⟨?_, fun _ => read.2.2.symm.trans success.2⟩,
      fun unchanged => absurd unchanged changed⟩
    have bound := inside .profiles _ _ (List.mem_singleton.mpr rfl)
    rwa [FreshInside, read.2.1, read.2.2] at bound
  · intro safe
    obtain ⟨bound, same⟩ := (safe attempted).1 changed reached
    refine ⟨⟨read.1, read.2.2.trans (same agrees)⟩, fun file content files wrote => ?_⟩
    simp only [List.mem_singleton, FileEvent.wrote.injEq] at wrote
    obtain ⟨-, -, rfl⟩ := wrote
    rw [FreshInside, read.2.1, read.2.2]
    exact bound

/-- The index was saved too. -/
theorem saveKept_iff_of_indexToo (lawful : env.serde.Lawful) (valid : controller.Valid)
    (attempted : controller.Attempted) (listed : controller.ListReached answers)
    (differs : controller.nextSaved.active ≠ (controller.saveRefusal.1.listSaved env).saved.active)
    (written : answers.write .runtime = .ok ())
    (gui : after.gui = ((controller.saveRefusal.1.listSaved env).indexStored env
      controller.nextSaved.active).gui)
    (saved : after.saved = ((controller.saveRefusal.1.listSaved env).indexStored env
      controller.nextSaved.active).saved)
    (nodes : after.nodes = controller.saveRefusal.1.nodes) :
    SaveKept env.serde controller after ↔ SaveSafe env.serde answers controller := by
  rw [nextSaved_active valid] at differs gui saved
  have inside : controller.gui.runtime.selectedProfile <
      controller.gui.profiles.profiles.length := valid
  by_cases same : controller.gui.profiles = controller.saved.profiles
  · rw [listSaved_of_same same] at gui saved
    have clean : after.nodesDirty = false := by
      refine nodesDirty_of_saved attempted nodes (by rw [gui]; rfl) ?_
      rw [saved, gui]
      exact congrArg (Saved.mk · _) same.symm
    rw [saveKept_of_success [.wrote .runtime _ after.gui.storage.files] attempted.1 clean
      (by rw [gui]; rfl) (by simp)]
    have kept : after.gui.storage.files .profiles = controller.gui.storage.files .profiles := by
      rw [gui]
      rfl
    have stored : after.gui.storage.files .runtime = some (env.serde.runtime.toVec
        { controller.gui.runtime with
          selectedProfile := controller.gui.runtime.selectedProfile }) := by
      rw [gui]
      rfl
    rw [kept]
    constructor
    · rintro ⟨success, -⟩ _
      exact ⟨fun changed => absurd same changed, fun _ _ => success.1.trans (by rw [same])⟩
    · intro safe
      have parsed : (after.gui.storage.files .profiles).bind env.serde.profiles.fromSlice =
          some controller.gui.profiles := by
        rw [kept, same]
        exact (safe attempted).2 same written
      have read := fresh_of_indexStored lawful valid parsed stored
      refine ⟨⟨kept ▸ parsed, read.2⟩, fun file content files wrote => ?_⟩
      simp only [List.mem_singleton, FileEvent.wrote.injEq] at wrote
      obtain ⟨-, -, rfl⟩ := wrote
      rw [FreshInside, read.1, read.2]
      exact inside
  · rw [listSaved_of_changed same] at gui saved differs
    have reached : answers.write .profiles = .ok () := listed.resolve_left same
    have clean : after.nodesDirty = false := by
      refine nodesDirty_of_saved attempted nodes (by rw [gui]; rfl) ?_
      rw [saved, gui]
      rfl
    rw [saveKept_of_success [.wrote .runtime _ after.gui.storage.files, .wrote .profiles
      (env.serde.profiles.toVec controller.gui.profiles) (controller.listedFiles env)]
      attempted.1 clean (by rw [gui]; rfl) (by simp)]
    have first := fresh_of_listStored lawful valid (controller.listedFiles env) rfl
    have parsed : (after.gui.storage.files .profiles).bind env.serde.profiles.fromSlice =
        some controller.gui.profiles := by
      rw [← first.1, gui]
      rfl
    have stored : after.gui.storage.files .runtime = some (env.serde.runtime.toVec
        { controller.gui.runtime with
          selectedProfile := controller.gui.runtime.selectedProfile }) := by
      rw [gui]
      rfl
    have second := fresh_of_indexStored lawful valid parsed stored
    constructor
    · rintro ⟨-, bounds⟩ _
      refine ⟨fun _ _ => ⟨?_, fun working => absurd working differs⟩,
        fun unchanged => absurd unchanged same⟩
      have bound := bounds .profiles _ _ (List.mem_cons_of_mem _ (List.mem_singleton.mpr rfl))
      rwa [FreshInside, first.2.1, first.2.2] at bound
    · intro safe
      refine ⟨⟨parsed, second.2⟩, fun file content files wrote => ?_⟩
      simp only [List.mem_cons, List.not_mem_nil, or_false, FileEvent.wrote.injEq] at wrote
      rcases wrote with ⟨-, -, rfl⟩ | ⟨-, -, rfl⟩
      · rw [FreshInside, second.1, second.2]
        exact inside
      · rw [FreshInside, first.2.1, first.2.2]
        exact ((safe attempted).1 same reached).1

/-- However the save goes, it is in order exactly when its plan is safe. -/
theorem saveKept_iff_of_run (lawful : env.serde.Lawful) (valid : controller.Valid)
    {result : Controller Digest} (run : SaveRun env answers controller result flag)
    (gui : after.gui = result.gui) (saved : after.saved = result.saved)
    (nodes : after.nodes = result.nodes) (leave : flag = false → after.leave = result.leave) :
    SaveKept env.serde controller after ↔ SaveSafe env.serde answers controller := by
  cases run with
  | clean clean =>
      have idle : ¬ controller.Attempted := fun attempted => by
        rw [attempted.1] at clean
        cases clean
      exact iff_of_true (saveKept_of_unwritten (by rw [gui]) (Or.inl clean))
        (saveSafe_of_not_attempted idle)
  | refused notice dirty refused =>
      have idle : ¬ controller.Attempted := fun attempted => by
        rw [attempted.2] at refused
        cases refused
      have kept : after.nodesDirty = true := by
        rw [← dirty, nodesDirty, nodesDirty, listDirty, listDirty, draftUnapplied, draftUnapplied,
          gui, saved, nodes]
        rfl
      exact iff_of_true (saveKept_of_unwritten (by rw [gui]; rfl) (Or.inr kept))
        (saveSafe_of_not_attempted idle)
  | listFailed error attempted changed failed =>
      have dirty : after.nodesDirty = true := by
        refine nodesDirty_of_profiles ?_
        rw [gui, saved]
        exact changed
      refine iff_of_true ?_ fun _ => ⟨fun _ written => ?_, fun same => absurd same changed⟩
      · rw [saveKept_of_failure [.failed .profiles] dirty (leave rfl) (by rw [gui]; rfl)]
        intro file content files wrote
        simp at wrote
      · rw [failed] at written
        cases written
  | indexFailed error attempted listed differs failed =>
      exact saveKept_iff_of_indexFailed lawful valid attempted listed differs failed gui saved
        (leave rfl)
  | listOnly attempted listed agrees =>
      have same := savedOnly_listSaved env controller
      refine saveKept_iff_of_listOnly lawful valid attempted listed agrees
        (gui.trans (clearSaveNotice_gui _)) (saved.trans (clearSaveNotice_saved _))
        (nodes.trans ((clearSaveNotice_nodes _).trans ?_))
      rcases listSaved_cases env controller.saveRefusal.1 with unchanged | stored
      · rw [unchanged]
      · rw [stored]
        rfl
  | indexToo attempted listed differs written =>
      refine saveKept_iff_of_indexToo lawful valid attempted listed differs written
        (gui.trans (clearSaveNotice_gui _)) (saved.trans (clearSaveNotice_saved _))
        (nodes.trans ((clearSaveNotice_nodes _).trans ?_))
      rcases listSaved_cases env controller.saveRefusal.1 with unchanged | stored
      · rw [unchanged]
        rfl
      · rw [stored]
        rfl

end Controller

section Worlds

variable {Digest : Type} [DecidableEq Digest] {env : Env Digest} {storage : Storage}
  {moved : ConfigFile → Bool} {world : World Digest} {operation : Operation} {answers : Answers}
  {now : Nat} {after : Controller Digest}

/-- A save leaves what `write_nodes` leaves, except that a success takes the pending leave. -/
theorem saveRun_of_isSave {controller : Controller Digest} (save : operation.IsSave controller)
    (taken : operation.perform env answers now controller = some after) :
    ∃ result flag, Controller.SaveRun env answers controller result flag ∧
      after.gui = result.gui ∧ after.saved = result.saved ∧ after.nodes = result.nodes ∧
        (flag = false → after.leave = result.leave) := by
  refine ⟨_, _, Controller.saveRun_writeNodes env answers controller, ?_⟩
  rcases save with rfl | ⟨rfl, pending⟩
  · obtain rfl := Option.some.inj taken
    exact ⟨rfl, rfl, rfl, fun _ => rfl⟩
  · obtain rfl := Option.some.inj taken
    obtain ⟨leave, waits⟩ := Option.isSome_iff_exists.mp pending
    simp only [Controller.answerPrompt, waits]
    split
    · rename_i succeeded
      refine ⟨rfl, rfl, rfl, fun failed => ?_⟩
      rw [succeeded] at failed
      cases failed
    · exact ⟨rfl, rfl, rfl, fun _ => rfl⟩

/-- In every reachable state a save leaves disk and edits in order exactly when its
plan is safe there. -/
theorem saveKept_iff_saveSafe (lawful : env.serde.Lawful)
    (started : (Controller.new env storage moved).Valid)
    (reached : Reachable (step env) (World.start env storage moved) world)
    (save : operation.IsSave world.controller)
    (taken : operation.perform env answers now world.controller = some after) :
    Controller.SaveKept env.serde world.controller after ↔
      Controller.SaveSafe env.serde answers world.controller := by
  obtain ⟨result, flag, run, gui, saved, nodes, leave⟩ := saveRun_of_isSave save taken
  exact Controller.saveKept_iff_of_run lawful (valid_of_reachable started reached) run gui saved
    nodes leave

end Worlds

/-! ## The second of two nodes -/

/-- The nodes are swapped: the list has room for the index in runtime.json, and the
working one is written next to it. -/
theorem saveKept_iff_saveSafe_swapped :
    ∃ (world : World Bytes) (after : Controller Bytes),
      Reachable (step nodesEnv) (.start nodesEnv nodesStorage fun _ => false) world ∧
        Operation.saveNodes.perform nodesEnv .willing 0 world.controller = some after ∧
        world.controller.nodesDirty = true ∧ after.nodesDirty = false ∧
        Controller.SaveKept nodesEnv.serde world.controller after := by
  have executed : ((exec (step nodesEnv) (.start nodesEnv nodesStorage fun _ => false)
      [.perform (.nodeCommand 0 .moveDown) .willing 0]).any fun world =>
        (Operation.saveNodes.perform nodesEnv .willing 0 world.controller).any fun after =>
          world.controller.nodesDirty && !after.nodesDirty &&
            decide (nodesEnv.serde.heldIndex world.controller.gui.storage.files <
              world.controller.gui.profiles.profiles.length) &&
            decide (world.controller.gui.runtime.selectedProfile ≠
              min world.controller.saved.active
                (world.controller.gui.profiles.profiles.length - 1)) &&
            decide (world.controller.gui.profiles ≠ world.controller.saved.profiles)) = true := by
    decide +kernel
  obtain ⟨world, ended, facts⟩ := (Option.any_eq_true _ _).mp executed
  obtain ⟨after, taken, facts⟩ := (Option.any_eq_true _ _).mp facts
  simp only [Bool.and_eq_true, Bool.not_eq_true', decide_eq_true_eq] at facts
  obtain ⟨⟨⟨⟨dirty, clean⟩, inside⟩, moved⟩, changed⟩ := facts
  have reached := reachable_of_exec ended
  have started : (Controller.new nodesEnv nodesStorage fun _ => false).Valid := by
    unfold Controller.Valid
    decide +kernel
  refine ⟨world, after, reached, taken, dirty, clean, ?_⟩
  exact (saveKept_iff_saveSafe nodesEnv_lawful started reached (Or.inl rfl) taken).mpr
    fun _ => ⟨fun _ _ => ⟨inside, fun same => absurd same moved⟩,
      fun same => absurd same changed⟩

/-- The active node, the last one, is deleted and the list saved: the saved index is
clamped to the new one before it is compared, so runtime.json keeps the old one,
which points past the list. -/
theorem deleted_active_points_past_list :
    ∃ (world : World Bytes) (after : Controller Bytes),
      Reachable (step nodesEnv) (.start nodesEnv nodesStorage fun _ => false) world ∧
        Operation.saveNodes.perform nodesEnv .willing 0 world.controller = some after ∧
        world.controller.nodesDirty = true ∧ after.nodesDirty = false ∧
        (GuiState.fresh nodesEnv.serde after.gui.storage.files).runtime.selectedProfile = 1 ∧
        world.controller.gui.runtime.selectedProfile = 0 ∧
        ¬ Controller.SaveKept nodesEnv.serde world.controller after := by
  have executed : ((exec (step nodesEnv) (.start nodesEnv nodesStorage fun _ => false)
      [.perform (.nodeCommand 1 .delete) .willing 0]).any fun world =>
        (Operation.saveNodes.perform nodesEnv .willing 0 world.controller).any fun after =>
          world.controller.nodesDirty && !after.nodesDirty &&
            decide ((GuiState.fresh nodesEnv.serde after.gui.storage.files).runtime.selectedProfile =
              1) &&
            decide (world.controller.gui.runtime.selectedProfile = 0)) = true := by
    decide +kernel
  obtain ⟨world, ended, facts⟩ := (Option.any_eq_true _ _).mp executed
  obtain ⟨after, taken, facts⟩ := (Option.any_eq_true _ _).mp facts
  simp only [Bool.and_eq_true, Bool.not_eq_true', decide_eq_true_eq] at facts
  obtain ⟨⟨⟨dirty, clean⟩, fresh⟩, working⟩ := facts
  refine ⟨world, after, reachable_of_exec ended, taken, dirty, clean, fresh, working, fun kept => ?_⟩
  have same := (kept.success dirty clean).2
  rw [fresh, working] at same
  cases same

end Juicity.Gui
