import Juicity.Gui.Controller.Known

/-!
Owns the saved nodes in memory as a fold over what was read and written: they never
depend on the working list or index. Also owns how the fold relates to the list and
the index that were read or written last.
-/

namespace Juicity.Gui

open Juicity.Common Juicity.Machine

namespace FileEvent

/-- The list that an event of the files saves or reads. -/
def list (serde : Serde) : FileEvent → Option ProfileStore
  | .loaded .profiles content | .wrote .profiles content _ => serde.profiles.fromSlice content
  | .loaded .app _ | .wrote .app _ _ | .loaded .runtime _ | .wrote .runtime _ _ | .failed _ => none

/-- The index that an event of the files saves or reads. -/
def index (serde : Serde) : FileEvent → Option Nat
  | .loaded .runtime content | .wrote .runtime content _ =>
      (serde.runtime.fromSlice content).map RuntimeState.selectedProfile
  | .loaded .app _ | .wrote .app _ _ | .loaded .profiles _ | .wrote .profiles _ _ | .failed _ =>
      none

end FileEvent

namespace Saved

/-- The saved nodes after an event of the files: a list or an index that was written or
read replaces the one before, and the index is clamped into the list. -/
def remember (serde : Serde) (saved : Saved) : FileEvent → Saved
  | .loaded .profiles content | .wrote .profiles content _ =>
      saved.listed (serde.profiles.fromSlice content)
  | .loaded .runtime content | .wrote .runtime content _ =>
      saved.indexed (serde.runtime.fromSlice content)
  | .loaded .app _ | .wrote .app _ _ | .failed _ => saved

/-- The saved nodes after some events, newest first. -/
def recalled (serde : Serde) (saved : Saved) (events : List FileEvent) : Saved :=
  events.foldr (fun event saved => saved.remember serde event) saved

theorem recalled_append (serde : Serde) (saved : Saved) (later earlier : List FileEvent) :
    saved.recalled serde (later ++ earlier) = (saved.recalled serde earlier).recalled serde later :=
  List.foldr_append

/-- Events that each leave the saved nodes as they are. -/
theorem recalled_of_same {serde : Serde} {saved : Saved} {events : List FileEvent}
    (same : ∀ event ∈ events, saved.remember serde event = saved) :
    saved.recalled serde events = saved := by
  induction events with
  | nil => rfl
  | cons event events inductionHypothesis =>
      have earlier := inductionHypothesis fun other member => same other (List.mem_cons_of_mem _ member)
      change (saved.recalled serde events).remember serde event = saved
      rw [earlier]
      exact same event List.mem_cons_self

/-- The index itself, read back, changes nothing. -/
theorem indexed_self {saved : Saved} {runtime : RuntimeState}
    (inside : saved.active < saved.profiles.profiles.length) :
    saved.indexed (some { runtime with selectedProfile := saved.active }) = saved := by
  change Saved.mk saved.profiles (min saved.active (saved.profiles.profiles.length - 1)) = saved
  rw [Nat.min_eq_left (Nat.le_sub_one_of_lt inside)]

section LastOf

variable (serde : Serde) (saved : Saved) (events : List FileEvent)

/-- The list last saved or read. -/
def lastList : ProfileStore :=
  ((events.findSome? (FileEvent.list serde)).map ProfileStore.filled).getD saved.profiles

/-- The index last saved or read. -/
def lastIndex : Nat :=
  (events.findSome? (FileEvent.index serde)).getD saved.active

/-- The index last saved or read, clamped into the list last saved or read. -/
def lastClamped : Nat :=
  min (saved.lastIndex serde events) ((saved.lastList serde events).profiles.length - 1)

/-- No list saved or read since the index was is too short for it. -/
def HasRoom : Prop :=
  ∀ later earlier, events = later ++ earlier →
    (∀ event ∈ later, event.index serde = none) →
      saved.lastClamped serde events ≤ (saved.lastList serde earlier).profiles.length - 1

/-- What an index in runtime.json is made of: what was saved and read. -/
structure Carried (index : Nat) : Prop where
  recalled : index = (saved.recalled serde events).active
  last : saved.HasRoom serde events → index = saved.lastClamped serde events

end LastOf

/-! What an event does to either, given what it saves or reads. -/

section Recalled

variable {serde : Serde} {saved : Saved} {events : List FileEvent} {event : FileEvent}

theorem remember_of_index (saved : Saved) {index : Nat} (reads : event.index serde = some index) :
    event.list serde = none ∧
      saved.remember serde event = { saved with active := index }.clampActive := by
  cases event with
  | failed file => cases reads
  | loaded file content | wrote file content files =>
      cases file with
      | app | profiles => cases reads
      | runtime =>
          obtain ⟨runtime, parsed, rfl⟩ := Option.map_eq_some_iff.mp reads
          refine ⟨rfl, ?_⟩
          change saved.indexed (serde.runtime.fromSlice content) = _
          rw [parsed]
          rfl

theorem remember_of_list (saved : Saved) {store : ProfileStore} (reads : event.list serde = some store) :
    event.index serde = none ∧
      saved.remember serde event = { saved with profiles := store.filled }.clampActive := by
  cases event with
  | failed file => cases reads
  | loaded file content | wrote file content files =>
      cases file with
      | app | runtime => cases reads
      | profiles =>
          refine ⟨rfl, ?_⟩
          change saved.listed (serde.profiles.fromSlice content) = _
          rw [show serde.profiles.fromSlice content = some store from reads]
          rfl

theorem remember_of_neither (noList : event.list serde = none) (noIndex : event.index serde = none) :
    saved.remember serde event = saved := by
  cases event with
  | failed file => rfl
  | loaded file content | wrote file content files =>
      cases file with
      | app => rfl
      | profiles =>
          change saved.listed (serde.profiles.fromSlice content) = _
          rw [show serde.profiles.fromSlice content = none from noList]
          rfl
      | runtime =>
          change saved.indexed (serde.runtime.fromSlice content) = _
          rw [Option.map_eq_none_iff.mp noIndex]
          rfl

theorem lastList_cons :
    saved.lastList serde (event :: events) =
      ((event.list serde).map ProfileStore.filled).getD (saved.lastList serde events) := by
  cases reads : event.list serde <;> simp [lastList, reads]

theorem lastIndex_cons :
    saved.lastIndex serde (event :: events) =
      (event.index serde).getD (saved.lastIndex serde events) := by
  cases reads : event.index serde <;> simp [lastIndex, reads]

theorem recalled_profiles (serde : Serde) (saved : Saved) (events : List FileEvent) :
    (saved.recalled serde events).profiles = saved.lastList serde events := by
  induction events with
  | nil => rfl
  | cons event events inductionHypothesis =>
      change ((saved.recalled serde events).remember serde event).profiles = _
      rw [lastList_cons]
      cases list : event.list serde with
      | some store => rw [(remember_of_list _ list).2]; rfl
      | none =>
          cases index : event.index serde with
          | some index' => rw [(remember_of_index _ index).2]; exact inductionHypothesis
          | none => rw [remember_of_neither list index]; exact inductionHypothesis

/-- Every clamp was into a list, and the last one into the last list. -/
theorem recalled_active_le (inside : saved.active < saved.profiles.profiles.length) :
    (saved.recalled serde events).active ≤ saved.lastClamped serde events := by
  induction events with
  | nil => exact le_min (Nat.le_refl _) (Nat.le_sub_one_of_lt inside)
  | cons event events inductionHypothesis =>
      obtain ⟨index_le, list_le⟩ := le_min_iff.mp inductionHypothesis
      have lists := recalled_profiles serde saved events
      change ((saved.recalled serde events).remember serde event).active ≤ _
      rw [lastClamped, lastList_cons, lastIndex_cons]
      cases list : event.list serde with
      | some store =>
          obtain ⟨noIndex, remember⟩ := remember_of_list (saved.recalled serde events) list
          rw [remember, noIndex]
          exact min_le_min index_le (Nat.le_refl _)
      | none =>
          cases index : event.index serde with
          | some index' =>
              rw [(remember_of_index _ index).2, clampActive_active, lists]
              exact Nat.le_refl _
          | none =>
              rw [remember_of_neither list index]
              exact inductionHypothesis

/-- A bound that the last index keeps, and every list since, is kept by the recalled one. -/
theorem le_recalled_active {bound : Nat} (index_ge : bound ≤ saved.lastIndex serde events)
    (lists_ge : ∀ later earlier, events = later ++ earlier →
      (∀ event ∈ later, event.index serde = none) →
        bound ≤ (saved.lastList serde earlier).profiles.length - 1) :
    bound ≤ (saved.recalled serde events).active := by
  induction events with
  | nil => exact index_ge
  | cons event events inductionHypothesis =>
      have lists := recalled_profiles serde saved events
      have latest := lists_ge [] (event :: events) rfl (fun _ member => nomatch member)
      rw [lastList_cons] at latest
      rw [lastIndex_cons] at index_ge
      change bound ≤ ((saved.recalled serde events).remember serde event).active
      cases index : event.index serde with
      | some index' =>
          obtain ⟨noList, remember⟩ := remember_of_index (saved.recalled serde events) index
          rw [index] at index_ge
          rw [noList] at latest
          rw [remember, clampActive_active, lists]
          exact le_min index_ge latest
      | none =>
          rw [index] at index_ge
          have earlier := inductionHypothesis index_ge fun later earlier split none =>
            lists_ge (event :: later) earlier (by rw [split]; rfl)
              (List.forall_mem_cons.mpr ⟨index, none⟩)
          cases list : event.list serde with
          | some store =>
              rw [list] at latest
              rw [(remember_of_list _ list).2]
              exact le_min earlier latest
          | none =>
              rw [remember_of_neither list index]
              exact earlier

/-- The recalled index is made of what was saved and read. -/
theorem carried_recalled (inside : saved.active < saved.profiles.profiles.length) :
    saved.Carried serde events (saved.recalled serde events).active :=
  ⟨rfl, fun room => Nat.le_antisymm (recalled_active_le inside)
    (le_recalled_active (min_le_left _ _) room)⟩

end Recalled

end Saved

namespace Controller

variable {Digest : Type} {env : Env Digest} {answers : Answers} {now : Nat}
  {controller after : Controller Digest} {operation : Operation}

/-- The saved nodes are the recalled ones after an operation if they were before. -/
def Recalls (serde : Serde) (before after : Controller Digest) : Prop :=
  ∃ new, after.gui.storage.events = new ++ before.gui.storage.events ∧
    after.saved = before.saved.recalled serde new

theorem recalls_of_localChange (serde : Serde) {before after : Controller Digest}
    (change : LocalChange before after) : Recalls serde before after :=
  ⟨[], by rw [change.storage]; rfl, change.saved⟩

theorem recalls_of_flushed (lawful : env.serde.Lawful) {before after : Controller Digest}
    (flushed : Flushed env answers now before after) (tidy : before.Tidy)
    (inside : before.saved.active < before.saved.profiles.profiles.length) :
    Recalls env.serde before after := by
  obtain ⟨_, new, storage, events⟩ :=
    before.persist.flush_storage env before.gui before.saved answers.write now
  refine ⟨new, by rw [flushed.gui]; exact congrArg Storage.events storage, ?_⟩
  rw [flushed.saved]
  refine (Saved.recalled_of_same fun event member => ?_).symm
  rcases events event member with ⟨file, rfl⟩ | ⟨file, files, rfl, reached⟩
  · rfl
  · cases file with
    | app => rfl
    | profiles =>
        rw [Persist.reaches, tidy.listClean] at reached
        cases reached
    | runtime =>
        change before.saved.indexed (env.serde.runtime.fromSlice (env.serde.runtime.toVec _)) = _
        rw [lawful.runtime]
        exact Saved.indexed_self inside

/-- The list stage of a save is recalled. -/
theorem recalls_listSaved (lawful : env.serde.Lawful) (listed : controller.Listed) :
    Recalls env.serde controller (controller.saveRefusal.1.listSaved env) := by
  rcases listSaved_cases env controller.saveRefusal.1 with same | stored
  · rw [same]
    exact ⟨[], rfl, rfl⟩
  · rw [stored]
    refine ⟨[_], rfl, ?_⟩
    change _ = controller.saved.listed (env.serde.profiles.fromSlice (env.serde.profiles.toVec _))
    rw [lawful.profiles]
    have filled : controller.gui.profiles.filled = controller.gui.profiles := if_neg listed
    change Saved.clampActive { controller.saved with profiles := controller.gui.profiles } =
      Saved.clampActive { controller.saved with profiles := controller.gui.profiles.filled }
    rw [filled]

theorem Recalls.trans {serde : Serde} {before middle after : Controller Digest}
    (first : Recalls serde before middle) (second : Recalls serde middle after) :
    Recalls serde before after := by
  obtain ⟨earlier, events, saved⟩ := first
  obtain ⟨later, events', saved'⟩ := second
  refine ⟨later ++ earlier, by rw [events', events, List.append_assoc], ?_⟩
  rw [saved', saved, Saved.recalled_append]

/-- The notice and the pending leave are no part of it. -/
theorem Recalls.of_same {serde : Serde} {before after other : Controller Digest}
    (recalls : Recalls serde before after) (gui : other.gui = after.gui)
    (saved : other.saved = after.saved) : Recalls serde before other := by
  obtain ⟨new, events, same⟩ := recalls
  exact ⟨new, by rw [gui]; exact events, by rw [saved]; exact same⟩

theorem recalls_unstored (serde : Serde) (controller : Controller Digest) (file : ConfigFile) :
    Recalls serde controller (controller.unstored file) :=
  ⟨[_], rfl, rfl⟩

/-- The index stage of a save is recalled, as the index lies inside the list. -/
theorem recalls_indexStored (lawful : env.serde.Lawful) (controller : Controller Digest)
    {index : Nat} (inside : index < controller.saved.profiles.profiles.length) :
    Recalls env.serde controller (controller.indexStored env index) := by
  refine ⟨[_], rfl, ?_⟩
  change _ = controller.saved.indexed (env.serde.runtime.fromSlice (env.serde.runtime.toVec _))
  rw [lawful.runtime]
  change Saved.mk _ index = Saved.mk _ (min index (controller.saved.profiles.profiles.length - 1))
  rw [Nat.min_eq_left (Nat.le_sub_one_of_lt inside)]

theorem SaveRun.recalls {flag : Bool} (run : SaveRun env answers controller after flag)
    (lawful : env.serde.Lawful) (listed : controller.Listed) : Recalls env.serde controller after := by
  have first := recalls_listSaved lawful listed
  cases run with
  | clean => exact ⟨[], rfl, rfl⟩
  | refused => exact ⟨[], rfl, rfl⟩
  | listFailed => exact ⟨[_], rfl, rfl⟩
  | indexFailed =>
      exact (first.trans (recalls_unstored env.serde _ .runtime)).of_same rfl rfl
  | listOnly => exact first.of_same (clearSaveNotice_gui _) (clearSaveNotice_saved _)
  | indexToo =>
      have inside : controller.nextSaved.active <
          (controller.saveRefusal.1.listSaved env).saved.profiles.profiles.length := by
        rw [profiles_listSaved]
        exact min_pred_lt (List.length_pos_of_ne_nil listed)
      exact (first.trans (recalls_indexStored lawful _ inside)).of_same (clearSaveNotice_gui _)
        (clearSaveNotice_saved _)

/-- The content of a file that is loaded, if one is, is recalled as what it parses to. -/
theorem recalled_noted (env : Env Digest) (saved : Saved) (contents : Files) (file : ConfigFile)
    (storage : Storage) :
    ∃ new, (Persist.noted env contents file storage).events = new ++ storage.events ∧
      (∀ event ∈ new, ∃ content, event = .loaded file content) ∧
      saved.recalled env.serde new =
        match file with
        | .app => saved
        | .profiles => saved.listed ((contents .profiles).bind env.serde.profiles.fromSlice)
        | .runtime => saved.indexed ((contents .runtime).bind env.serde.runtime.fromSlice) := by
  unfold Persist.noted
  cases held : contents file with
  | none =>
      refine ⟨[], rfl, by simp, ?_⟩
      cases file <;> simp [held, Saved.recalled, Saved.listed, Saved.indexed]
  | some content =>
      cases parses : env.serde.parses file content with
      | true =>
          rw [Option.filter_some_pos parses]
          refine ⟨[_], rfl, fun event member => ⟨content, List.mem_singleton.mp member⟩, ?_⟩
          cases file <;> simp [held, Saved.recalled, Saved.remember]
      | false =>
          rw [Option.filter_some_neg (by simp [parses])]
          refine ⟨[], rfl, by simp, ?_⟩
          cases file with
          | app => rfl
          | profiles | runtime =>
              have none := Option.isSome_eq_false_iff.mp parses
              rw [Option.isNone_iff_eq_none] at none
              simp [held, none, Saved.recalled, Saved.listed, Saved.indexed]

variable [DecidableEq Digest]

/-- What a reload reads is recalled, and it writes nothing. -/
theorem events_onFilesChanged (env : Env Digest) (answers : Answers) (now : Nat)
    (controller : Controller Digest) :
    ∃ new, (controller.onFilesChanged env answers now).gui.storage.events =
        new ++ controller.gui.storage.events ∧
      (∀ event ∈ new, ∃ file content, event = .loaded file content) ∧
      (controller.onFilesChanged env answers now).saved =
        controller.saved.recalled env.serde new := by
  have follows := follows_onFilesChanged answers controller env now
  have saved : (controller.onFilesChanged env answers now).saved =
      (controller.saved.listed (controller.newStore env)).indexed (controller.newRuntime env) :=
    follows.saved
  have storage : (controller.onFilesChanged env answers now).gui.storage =
      controller.notedStorage env := follows.storage
  obtain ⟨app, appEvents, appLoaded, appRecalled⟩ := recalled_noted env controller.saved
    (controller.toLoad env) .app controller.gui.storage
  obtain ⟨list, listEvents, listLoaded, listRecalled⟩ := recalled_noted env controller.saved
    (controller.toLoad env) .profiles
    (Persist.noted env (controller.toLoad env) .app controller.gui.storage)
  obtain ⟨index, indexEvents, indexLoaded, indexRecalled⟩ := recalled_noted env
    (controller.saved.listed (controller.newStore env)) (controller.toLoad env) .runtime
    (Persist.noted env (controller.toLoad env) .profiles
      (Persist.noted env (controller.toLoad env) .app controller.gui.storage))
  refine ⟨index ++ (list ++ app), ?_, fun event member => ?_, ?_⟩
  · rw [storage, notedStorage, indexEvents, listEvents, appEvents, List.append_assoc,
      List.append_assoc]
  · rcases List.mem_append.mp member with member | member
    · exact ⟨_, indexLoaded event member⟩
    · rcases List.mem_append.mp member with member | member
      · exact ⟨_, listLoaded event member⟩
      · exact ⟨_, appLoaded event member⟩
  · rw [saved, Saved.recalled_append, Saved.recalled_append, appRecalled, listRecalled]
    exact indexRecalled.symm

/-- Whatever is done, the saved nodes are recalled. -/
theorem recalls_perform (lawful : env.serde.Lawful) (tidy : controller.Tidy)
    (listed : controller.Listed)
    (inside : controller.saved.active < controller.saved.profiles.profiles.length)
    (taken : operation.perform env answers now controller = some after) :
    Recalls env.serde controller after := by
  rcases perform_cases taken with change | flushed | ⟨-, leave, rfl⟩ | ⟨-, rfl⟩
  · exact recalls_of_localChange env.serde change
  · exact recalls_of_flushed lawful flushed tidy inside
  · exact ((saveRun_writeNodes env answers controller).recalls lawful listed).of_same rfl rfl
  · obtain ⟨new, events, -, saved⟩ := events_onFilesChanged env answers now controller
    exact ⟨new, events, saved⟩

end Controller

/-! ## Worlds -/

section Worlds

variable {Digest : Type} [DecidableEq Digest] {env : Env Digest} {storage : Storage}
  {moved : ConfigFile → Bool} {world next : World Digest} {action : Action}

/-- The saved nodes are the ones recalled from the start, and what that needs. -/
structure World.Recalls (env : Env Digest) (start world : World Digest) : Prop where
  recalls : Controller.Recalls env.serde start.controller world.controller
  tidy : world.controller.Tidy
  listed : world.controller.Listed
  inside : world.controller.saved.active < world.controller.saved.profiles.profiles.length

theorem World.Recalls.step {start : World Digest} (lawful : env.serde.Lawful)
    (held : World.Recalls env start world) (taken : step env world action = some next) :
    World.Recalls env start next := by
  cases action with
  | perform operation answers now =>
      obtain ⟨-, done, -⟩ := step_perform taken
      refine ⟨held.recalls.trans (Controller.recalls_perform lawful held.tidy held.listed
        held.inside done), held.tidy.perform done, held.listed.perform done, ?_⟩
      by_cases reload : operation = .onFilesChanged
      · subst reload
        rw [← Option.some.inj done,
          (Controller.follows_onFilesChanged answers world.controller env now).saved]
        exact Controller.inside_read held.inside _ _
      · exact Controller.inside_perform reload held.listed held.inside done
  | external file content =>
      obtain rfl := Option.some.inj taken
      exact ⟨held.recalls, ⟨held.tidy.scheduled, held.tidy.listClean⟩, held.listed, held.inside⟩
  | rules chinaList gfw =>
      obtain rfl := Option.some.inj taken
      exact ⟨held.recalls, ⟨held.tidy.scheduled, held.tidy.listClean⟩, held.listed, held.inside⟩

end Worlds

end Juicity.Gui
