import Juicity.Gui.Controller.Steps

/-!
Owns what an operation leaves alone. `LocalChange` is what every operation does
to the persistent side unless it writes, saves or reloads: storage, the saved
list and the known hashes stay, and a changed record is dirty. `Quiet` adds that
the settings, the PAC server and the calls of the OS proxy stay. Both compose,
so an operation is covered by covering its parts.
-/

namespace Juicity.Gui

open Juicity.Common Juicity.Machine

/-- All of a runtime state but the working index. -/
def RuntimeState.settings (runtime : RuntimeState) : RuntimeState :=
  { runtime with selectedProfile := 0 }

namespace Controller

variable {Digest : Type}

/-- A dirty file has a scheduled save. -/
def Scheduled (controller : Controller Digest) : Prop :=
  ∀ file, controller.persist.dirty file = true → controller.persist.due.isSome = true

/-- The working index lies inside the working list. -/
def Valid (controller : Controller Digest) : Prop :=
  controller.gui.runtime.selectedProfile < controller.gui.profiles.profiles.length

/-- The working list holds a node. -/
def Listed (controller : Controller Digest) : Prop :=
  controller.gui.profiles.profiles ≠ []

/-- A change of memory that is not written, saved or reloaded. -/
structure LocalChange (before after : Controller Digest) : Prop where
  storage : after.gui.storage = before.gui.storage
  saved : after.saved = before.saved
  known : after.persist.known = before.persist.known
  profilesDirty : after.persist.dirty .profiles = before.persist.dirty .profiles
  stillDirty : ∀ file, before.persist.dirty file = true → after.persist.dirty file = true
  config : after.gui.config = before.gui.config ∨ after.persist.dirty .app = true
  settings : after.gui.runtime.settings = before.gui.runtime.settings ∨
    after.persist.dirty .runtime = true
  scheduled : before.Scheduled → after.Scheduled
  valid : before.Valid → after.Valid
  listed : before.Listed → after.Listed

/-- What the proxy settings of the operating system depend on. -/
structure SameProxy (before after : Controller Digest) : Prop where
  config : after.gui.config = before.gui.config
  pacServer : after.gui.pacServer = before.gui.pacServer
  pacBound : after.gui.pacBound = before.gui.pacBound
  pacRules : after.gui.pacRules = before.gui.pacRules
  chinaList : after.gui.storage.chinaList = before.gui.storage.chinaList
  gfw : after.gui.storage.gfw = before.gui.storage.gfw
  proxyCalls : after.proxyCalls = before.proxyCalls

/-- A change of the nodes, the runtime settings or the window only. -/
structure Quiet (before after : Controller Digest) : Prop where
  change : LocalChange before after
  proxy : SameProxy before after

variable {before middle after : Controller Digest}

/-! ## Composition -/

theorem LocalChange.refl (controller : Controller Digest) : LocalChange controller controller where
  storage := rfl
  saved := rfl
  known := rfl
  profilesDirty := rfl
  stillDirty := fun _ dirty => dirty
  config := Or.inl rfl
  settings := Or.inl rfl
  scheduled := fun scheduled => scheduled
  valid := fun valid => valid
  listed := fun listed => listed

theorem LocalChange.trans (first : LocalChange before middle) (second : LocalChange middle after) :
    LocalChange before after where
  storage := second.storage.trans first.storage
  saved := second.saved.trans first.saved
  known := second.known.trans first.known
  profilesDirty := second.profilesDirty.trans first.profilesDirty
  stillDirty := fun file dirty => second.stillDirty file (first.stillDirty file dirty)
  config := by
    rcases second.config with same | dirty
    · rcases first.config with same' | dirty'
      · exact Or.inl (same.trans same')
      · exact Or.inr (second.stillDirty .app dirty')
    · exact Or.inr dirty
  settings := by
    rcases second.settings with same | dirty
    · rcases first.settings with same' | dirty'
      · exact Or.inl (same.trans same')
      · exact Or.inr (second.stillDirty .runtime dirty')
    · exact Or.inr dirty
  scheduled := fun scheduled => second.scheduled (first.scheduled scheduled)
  valid := fun valid => second.valid (first.valid valid)
  listed := fun listed => second.listed (first.listed listed)

theorem LocalChange.ite {condition : Prop} [Decidable condition] {left right : Controller Digest}
    (first : LocalChange before left) (second : LocalChange before right) :
    LocalChange before (if condition then left else right) := by
  split
  · exact first
  · exact second

theorem SameProxy.refl (controller : Controller Digest) : SameProxy controller controller :=
  ⟨rfl, rfl, rfl, rfl, rfl, rfl, rfl⟩

theorem SameProxy.trans (first : SameProxy before middle) (second : SameProxy middle after) :
    SameProxy before after where
  config := second.config.trans first.config
  pacServer := second.pacServer.trans first.pacServer
  pacBound := second.pacBound.trans first.pacBound
  pacRules := second.pacRules.trans first.pacRules
  chinaList := second.chinaList.trans first.chinaList
  gfw := second.gfw.trans first.gfw
  proxyCalls := second.proxyCalls.trans first.proxyCalls

theorem Quiet.refl (controller : Controller Digest) : Quiet controller controller :=
  ⟨.refl controller, .refl controller⟩

theorem Quiet.trans (first : Quiet before middle) (second : Quiet middle after) :
    Quiet before after :=
  ⟨first.change.trans second.change, first.proxy.trans second.proxy⟩

/-! ## Primitive changes -/

/-- The list and the working index may change, as long as the index stays inside. -/
theorem Quiet.of_nodes {profiles : ProfileStore} {index : Nat}
    (gui : after.gui = { before.gui with profiles := profiles }.setSelected index)
    (persist : after.persist = before.persist) (saved : after.saved = before.saved)
    (calls : after.proxyCalls = before.proxyCalls)
    (valid : before.Valid → index < profiles.profiles.length)
    (listed : before.Listed → profiles.profiles ≠ []) : Quiet before after where
  change :=
    { storage := by rw [gui]; rfl
      saved := saved
      known := by rw [persist]
      profilesDirty := by rw [persist]
      stillDirty := fun file dirty => by rw [persist]; exact dirty
      config := by rw [gui]; exact Or.inl rfl
      settings := by rw [gui]; exact Or.inl rfl
      scheduled := fun scheduled file dirty => by
        rw [persist] at dirty ⊢
        exact scheduled file dirty
      valid := fun held => by
        rw [Valid, gui]
        exact valid held
      listed := fun held => by
        rw [Listed, gui]
        exact listed held }
  proxy :=
    ⟨by rw [gui]; rfl, by rw [gui]; rfl, by rw [gui]; rfl, by rw [gui]; rfl, by rw [gui]; rfl,
      by rw [gui]; rfl, calls⟩

/-- The window may change. -/
theorem Quiet.of_gui (gui : after.gui = before.gui) (persist : after.persist = before.persist)
    (saved : after.saved = before.saved) (calls : after.proxyCalls = before.proxyCalls) :
    Quiet before after :=
  .of_nodes (gui.trans rfl) persist saved calls (fun valid => valid) fun listed => listed

variable (env : Env Digest) (answers : Answers) (now : Nat) (controller : Controller Digest)

theorem quiet_setNotice (notice : Notice) : Quiet controller (controller.setNotice notice) :=
  .of_gui rfl rfl rfl rfl

theorem quiet_report (outcome : Except String Unit) (notice : String → Notice) :
    Quiet controller (controller.report outcome notice) := by
  cases outcome with
  | ok => exact .refl controller
  | error error => exact quiet_setNotice controller _

/-- Runtime settings that are marked dirty when they change. -/
theorem Quiet.of_runtime {runtime : RuntimeState}
    (gui : after.gui = { before.gui with runtime })
    (index : runtime.selectedProfile = before.gui.runtime.selectedProfile)
    (persist : after.persist = before.persist.mark .runtime now)
    (saved : after.saved = before.saved) (calls : after.proxyCalls = before.proxyCalls) :
    Quiet before after where
  change :=
    { storage := by rw [gui]
      saved := saved
      known := by rw [persist]; rfl
      profilesDirty := by rw [persist]; rfl
      stillDirty := fun file dirty => by
        rw [persist]
        cases file <;> simp_all [Persist.mark]
      config := by rw [gui]; exact Or.inl rfl
      settings := by rw [persist]; exact Or.inr rfl
      scheduled := fun _ file _ => by rw [persist]; rfl
      valid := fun valid => by
        rw [Valid, gui]
        change runtime.selectedProfile < _
        rw [index]
        exact valid
      listed := fun listed => by
        rw [Listed, gui]
        exact listed }
  proxy := ⟨by rw [gui], by rw [gui], by rw [gui], by rw [gui], by rw [gui], by rw [gui], calls⟩

theorem quiet_changeRuntime {runtime : RuntimeState}
    (index : runtime.selectedProfile = controller.gui.runtime.selectedProfile) :
    Quiet controller (controller.changeRuntime now runtime) :=
  .of_runtime now rfl index rfl rfl rfl

/-! ## Connection -/

theorem quiet_startCore (profile : StoredProfile) :
    Quiet controller (controller.startCore answers now profile) := by
  unfold startCore
  cases answers.startCore with
  | ok =>
      dsimp only
      split
      · exact .of_runtime now rfl rfl rfl rfl rfl
      · exact .of_runtime now rfl rfl rfl rfl rfl
      · exact .of_runtime now rfl rfl rfl rfl rfl
      · exact .of_runtime now rfl rfl rfl rfl rfl
      · exact .of_runtime now rfl rfl rfl rfl rfl
  | error error =>
      refine Quiet.trans ?_ (quiet_setNotice _ _)
      split
      · exact .of_runtime now rfl rfl rfl rfl rfl
      · exact .of_gui rfl rfl rfl rfl

theorem quiet_startActive : Quiet controller (controller.startActive answers now) := by
  unfold startActive
  split
  · exact quiet_setNotice controller _
  · split
    · exact quiet_startCore answers now controller _
    · exact quiet_setNotice controller _

theorem quiet_toggleConnection : Quiet controller (controller.toggleConnection answers now) := by
  unfold toggleConnection
  split
  · exact .of_runtime now rfl rfl rfl rfl rfl
  · exact quiet_startActive answers now controller

/-- The active node may change to one of the list; a running core follows. -/
theorem quiet_switch {index : Nat} (inside : index < controller.gui.profiles.profiles.length) :
    Quiet controller
      (if (controller.setWorkingActive index).connected then
        (controller.setWorkingActive index).startActive answers now
      else controller.setWorkingActive index) := by
  have switched : Quiet controller (controller.setWorkingActive index) :=
    .of_nodes rfl rfl rfl rfl (fun _ => inside) fun listed => listed
  split
  · exact switched.trans (quiet_startActive answers now _)
  · exact switched

theorem quiet_pollCore : Quiet controller (controller.pollCore answers) := by
  unfold pollCore
  split
  · split
    · exact .of_gui rfl rfl rfl rfl
    · exact .refl controller
  · exact .refl controller

/-! ## Nodes -/

/-- The new list is shown with some node selected. -/
theorem Quiet.shown {selected : Nat} (quiet : Quiet before after) :
    Quiet before (after.select selected).loadSelected :=
  quiet.trans (.of_gui rfl rfl rfl rfl)

/-- A list that did not get shorter keeps the working index inside. -/
theorem Quiet.of_profiles {profiles : List StoredProfile}
    (gui : after.gui = { before.gui with profiles := ⟨profiles⟩ })
    (persist : after.persist = before.persist) (saved : after.saved = before.saved)
    (calls : after.proxyCalls = before.proxyCalls)
    (longer : before.gui.profiles.profiles.length ≤ profiles.length) : Quiet before after :=
  .of_nodes (gui.trans rfl) persist saved calls (fun valid => lt_of_lt_of_le valid longer)
    fun listed => List.ne_nil_of_length_pos (lt_of_lt_of_le (List.length_pos_of_ne_nil listed) longer)

theorem quiet_selectNode (index : Nat) : Quiet controller (controller.selectNode index) := by
  unfold selectNode
  split
  · exact .refl controller
  · exact (Quiet.refl controller).shown

theorem quiet_addNode (name : String) : Quiet controller (controller.addNode name) := by
  unfold addNode
  refine Quiet.shown (.of_profiles rfl rfl rfl rfl ?_)
  simp

theorem length_swapAt {α : Type} (list : List α) (left right : Nat) :
    (swapAt list left right).length = list.length := by
  unfold swapAt
  split
  · simp
  · rfl

/-- Indices inside the old list become indices inside the new one. -/
theorem remap_lt_of_edit {α : Type} {command : ListCommand} {index : Nat} {list edited : List α}
    {remap : Nat → Nat} (inside : index < list.length)
    (done : command.edit index list = some (edited, remap)) :
    ∀ i < list.length, remap i < edited.length := by
  intro i bound
  cases command with
  | moveUp =>
      simp only [ListCommand.edit, Option.ite_none_right_eq_some, Option.some.injEq,
        Prod.mk.injEq] at done
      obtain ⟨-, rfl, rfl⟩ := done
      rw [length_swapAt]
      dsimp only
      split
      · omega
      · split <;> omega
  | moveDown =>
      simp only [ListCommand.edit, Option.ite_none_right_eq_some, Option.some.injEq,
        Prod.mk.injEq] at done
      obtain ⟨next, rfl, rfl⟩ := done
      rw [length_swapAt]
      dsimp only
      split
      · omega
      · split <;> omega
  | duplicate =>
      simp only [ListCommand.edit, List.getElem?_eq_getElem inside, Option.map_some,
        Option.some.injEq, Prod.mk.injEq] at done
      obtain ⟨rfl, rfl⟩ := done
      rw [List.length_insertIdx_of_le_length (by omega)]
      dsimp only
      split <;> omega
  | delete =>
      simp only [ListCommand.edit, Option.ite_none_left_eq_some, Option.some.injEq,
        Prod.mk.injEq] at done
      obtain ⟨several, rfl, rfl⟩ := done
      rw [List.length_eraseIdx_of_lt inside]
      dsimp only
      split <;> omega

theorem quiet_nodeCommand (index : Nat) (command : ListCommand) :
    Quiet controller (controller.nodeCommand answers now index command) := by
  unfold nodeCommand
  dsimp only
  split
  · exact .refl controller
  · rename_i inside
    split
    · exact .refl controller
    · rename_i edited remap done
      have moved : Quiet controller { controller with
          gui := { controller.gui with profiles := ⟨edited⟩ }.setSelected
            (remap controller.gui.runtime.selectedProfile) } :=
        .of_nodes rfl rfl rfl rfl
          (fun valid => remap_lt_of_edit (Nat.lt_of_not_ge inside) done _ valid)
          fun _ => List.ne_nil_of_length_pos (Nat.zero_lt_of_lt
            (remap_lt_of_edit (Nat.lt_of_not_ge inside) done index (Nat.lt_of_not_ge inside)))
      generalize { controller with
          gui := { controller.gui with profiles := ⟨edited⟩ }.setSelected
            (remap controller.gui.runtime.selectedProfile) } = after at moved ⊢
      have shown : Quiet controller
          (if command = .duplicate then (after.select (index + 1)).loadSelected
          else if command = .delete ∧ controller.nodes.selected = index then
            (after.select (remap controller.nodes.selected)).loadSelected
          else after.select (remap controller.nodes.selected)) := by
        split
        · exact moved.shown
        · split
          · exact moved.shown
          · exact moved.trans (.of_gui rfl rfl rfl rfl)
      generalize (if command = .duplicate then (after.select (index + 1)).loadSelected
          else if command = .delete ∧ controller.nodes.selected = index then
            (after.select (remap controller.nodes.selected)).loadSelected
          else after.select (remap controller.nodes.selected)) = remapped at shown ⊢
      split
      · refine shown.trans (Quiet.trans ?_ (quiet_startActive answers now _))
        split
        · exact quiet_toggleConnection answers now _
        · exact .refl _
      · exact shown

theorem quiet_commitDraft : Quiet controller controller.commitDraft := by
  unfold commitDraft
  dsimp only
  split
  · exact .of_profiles rfl rfl rfl rfl (by simp)
  · exact .of_gui rfl rfl rfl rfl

theorem quiet_editNode (field : DraftField) (value : String) :
    Quiet controller (controller.editNode field value) := by
  unfold editNode
  refine Quiet.trans ?_ (quiet_commitDraft _)
  exact .of_gui rfl rfl rfl rfl

theorem quiet_setActiveNode : Quiet controller (controller.setActiveNode answers now) := by
  unfold setActiveNode
  dsimp only
  split
  · exact .refl controller
  · rename_i target selected
    split
    · exact quiet_switch answers now controller (List.getElem?_eq_some_iff.mp selected).1
    · exact quiet_setNotice controller _

theorem quiet_activateNode (index : Nat) :
    Quiet controller (controller.activateNode answers now index) := by
  unfold activateNode
  split
  · exact .refl controller
  · rename_i target selected
    split
    · split
      · exact .refl controller
      · exact quiet_switch answers now controller (List.getElem?_eq_some_iff.mp selected).1
    · exact quiet_setNotice controller _

/-! ## Links and sheets -/

theorem length_le_of_importLine {env : Env Digest} {state state' : List StoredProfile × Nat}
    {line : String} (taken : importLine env state line = some state') :
    state.1.length ≤ state'.1.length := by
  unfold importLine at taken
  cases parsed : importShareLink env.url env.base64 line with
  | ok imported =>
      simp only [parsed, Option.some.injEq] at taken
      simp [← taken]
  | error failure =>
      cases failure with
      | bail =>
          simp only [parsed, Option.some.injEq] at taken
          simp [← taken]
      | panicked => simp [parsed] at taken

theorem length_le_of_importLines {env : Env Digest} {given : List String}
    {state state' : List StoredProfile × Nat}
    (taken : given.foldlM (importLine env) state = some state') :
    state.1.length ≤ state'.1.length := by
  induction given generalizing state with
  | nil =>
      obtain rfl : state = state' := by simpa using taken
      exact le_refl _
  | cons line rest inductionHypothesis =>
      rw [List.foldlM_cons] at taken
      obtain ⟨middle, first, later⟩ := Option.bind_eq_some_iff.mp taken
      exact (length_le_of_importLine first).trans (inductionHypothesis later)

theorem quiet_importText {text : String} (taken : controller.importText env text = some after) :
    Quiet controller after := by
  unfold importText at taken
  obtain ⟨⟨profiles, skipped⟩, folded, rfl⟩ := Option.map_eq_some_iff.mp taken
  have imported : Quiet controller (controller.setProfiles profiles) :=
    .of_profiles rfl rfl rfl rfl (length_le_of_importLines folded)
  dsimp only
  split
  · exact imported.trans (quiet_setNotice _ _)
  · exact imported.shown.trans (quiet_setNotice _ _)

theorem quiet_importLinks (taken : controller.importLinks env answers = some after) :
    Quiet controller after := by
  unfold importLinks at taken
  cases pasted : answers.pasteText with
  | ok text =>
      simp only [pasted] at taken
      exact quiet_importText env controller taken
  | error error =>
      simp only [pasted, Option.some.injEq] at taken
      rw [← taken]
      exact quiet_setNotice controller _

theorem quiet_withShareLink {next : String → Controller Digest}
    (shared : ∀ link, Quiet controller (next link))
    (taken : controller.withShareLink env next = some after) : Quiet controller after := by
  unfold withShareLink at taken
  split at taken
  · obtain rfl := Option.some.inj taken
    exact quiet_setNotice controller _
  · split at taken
    · obtain rfl := Option.some.inj taken
      exact .refl controller
    · split at taken
      · obtain rfl := Option.some.inj taken
        exact shared _
      · obtain rfl := Option.some.inj taken
        exact quiet_setNotice controller _
      · cases taken

theorem quiet_exportLink (taken : controller.exportLink env answers = some after) :
    Quiet controller after := by
  refine quiet_withShareLink env controller (fun link => ?_) taken
  split
  · exact quiet_setNotice controller _
  · exact quiet_setNotice controller _

theorem quiet_shareQrCode (taken : controller.shareQrCode env answers = some after) :
    Quiet controller after := by
  refine quiet_withShareLink env controller (fun link => ?_) taken
  split
  · exact .of_gui rfl rfl rfl rfl
  · exact quiet_setNotice controller _

theorem quiet_editAdvanced (field : DraftField) (value : String) :
    Quiet controller (controller.editAdvanced field value) := by
  unfold editAdvanced
  split
  · exact .refl controller
  · exact .of_gui rfl rfl rfl rfl

theorem quiet_commitAdvanced : Quiet controller controller.commitAdvanced := by
  unfold commitAdvanced
  split
  · exact .refl controller
  · split
    · exact .refl controller
    · refine Quiet.trans ?_ (quiet_commitDraft _)
      exact .of_gui rfl rfl rfl rfl

/-! ## Revert and prompt -/

theorem quiet_clearSaveNotice : Quiet controller controller.clearSaveNotice := by
  unfold clearSaveNotice
  split
  · exact quiet_setNotice controller _
  · exact quiet_setNotice controller _
  · exact quiet_setNotice controller _
  · exact quiet_setNotice controller _
  · exact .refl controller

theorem quiet_revertNodes : Quiet controller controller.revertNodes := by
  unfold revertNodes
  dsimp only
  split
  · exact .refl controller
  · refine Quiet.trans ?_ (quiet_clearSaveNotice _)
    rw [GuiState.normalizeSelectedIndex_eq]
    exact .of_nodes rfl rfl rfl rfl (fun _ => GuiState.min_lt_length_filled _ _)
      fun _ => ProfileStore.filled_ne_nil _

theorem quiet_requestLeave (leave : Leave) :
    Quiet controller (controller.requestLeave leave).1 := by
  unfold requestLeave
  split
  · exact .refl controller
  · split
    · exact .refl controller
    · exact .of_gui rfl rfl rfl rfl

/-- Only an answer of Save writes. -/
theorem quiet_answerPrompt {answer : Answer} (unsaved : answer ≠ .save) :
    Quiet controller (controller.answerPrompt env answers answer).1 := by
  unfold answerPrompt
  split
  · exact .refl controller
  · cases answer with
    | save => exact absurd rfl unsaved
    | discard =>
        refine Quiet.trans ?_ (quiet_revertNodes _)
        exact .of_gui rfl rfl rfl rfl
    | cancel => exact .of_gui rfl rfl rfl rfl

/-! ## Settings -/

/-- A setter of the settings page that stores nothing when the value is there already. -/
theorem quiet_changeRuntime_unless {same : Prop} [Decidable same] {runtime : RuntimeState}
    (index : runtime.selectedProfile = controller.gui.runtime.selectedProfile) :
    Quiet controller (if same then controller else controller.changeRuntime now runtime) := by
  split
  · exact .refl controller
  · exact quiet_changeRuntime now controller index

theorem quiet_setAutostart (enabled : Bool) :
    Quiet controller (controller.setAutostart env answers now enabled) := by
  unfold setAutostart
  dsimp only
  split
  · exact .refl controller
  · split
    · exact quiet_changeRuntime now controller rfl
    · exact quiet_setNotice controller _

theorem quiet_installAppIcon : Quiet controller (controller.installAppIcon answers) := by
  unfold installAppIcon
  split
  · exact quiet_setNotice controller _
  · exact quiet_setNotice controller _

theorem quiet_startupConnection : Quiet controller (controller.startupConnection answers now) := by
  unfold startupConnection
  dsimp only
  cases controller.gui.runtime.startupConnectionState with
  | off => exact .refl controller
  | on => exact quiet_startActive answers now controller
  | lastState =>
      dsimp only
      split
      · exact quiet_startActive answers now controller
      · exact .refl controller

theorem quiet_openSetting {key : SettingKey} (taken : controller.openSetting key = some after) :
    Quiet controller after := by
  cases key with
  | mixedPort =>
      obtain ⟨split, -, rfl⟩ := Option.map_eq_some_iff.mp taken
      exact .of_gui rfl rfl rfl rfl
  | onlinePacUrl =>
      obtain rfl := Option.some.inj taken
      split
      · exact .of_gui rfl rfl rfl rfl
      · exact .refl controller
  | directUrl | proxyUrl | updateHours | pacListen =>
      obtain rfl := Option.some.inj taken
      exact .of_gui rfl rfl rfl rfl

theorem quiet_editSetting (text : String) : Quiet controller (controller.editSetting env text) := by
  unfold editSetting
  split
  · exact .refl controller
  · exact .of_gui rfl rfl rfl rfl

theorem quiet_copyPacUrl : Quiet controller (controller.copyPacUrl answers) := by
  unfold copyPacUrl
  split
  · exact quiet_setNotice controller _
  · exact .refl controller

theorem quiet_beginRules : Quiet controller controller.beginRules.1 := by
  unfold beginRules
  split
  · exact .refl controller
  · exact .of_gui rfl rfl rfl rfl

theorem quiet_expireNotice (seq : Nat) : Quiet controller (controller.expireNotice seq) := by
  unfold expireNotice
  split
  · exact quiet_setNotice controller _
  · exact .refl controller

/-! ## Settings the proxy depends on -/

/-- The server, the calls and the window may change. -/
theorem LocalChange.of_same (storage : after.gui.storage = before.gui.storage)
    (config : after.gui.config = before.gui.config)
    (profiles : after.gui.profiles = before.gui.profiles)
    (runtime : after.gui.runtime = before.gui.runtime) (persist : after.persist = before.persist)
    (saved : after.saved = before.saved) : LocalChange before after where
  storage := storage
  saved := saved
  known := by rw [persist]
  profilesDirty := by rw [persist]
  stillDirty := fun file dirty => by rw [persist]; exact dirty
  config := Or.inl config
  settings := by rw [runtime]; exact Or.inl rfl
  scheduled := fun scheduled file dirty => by
    rw [persist] at dirty ⊢
    exact scheduled file dirty
  valid := fun valid => by
    rw [Valid, profiles, runtime]
    exact valid
  listed := fun listed => by
    rw [Listed, profiles]
    exact listed

/-- So may the settings of app.json, when they are marked dirty. -/
theorem LocalChange.of_config (storage : after.gui.storage = before.gui.storage)
    (profiles : after.gui.profiles = before.gui.profiles)
    (runtime : after.gui.runtime = before.gui.runtime)
    (persist : after.persist = before.persist.mark .app now)
    (saved : after.saved = before.saved) : LocalChange before after where
  storage := storage
  saved := saved
  known := by rw [persist]; rfl
  profilesDirty := by rw [persist]; rfl
  stillDirty := fun file dirty => by
    rw [persist]
    cases file <;> simp_all [Persist.mark]
  config := by rw [persist]; exact Or.inr rfl
  settings := by rw [runtime]; exact Or.inl rfl
  scheduled := fun _ file _ => by rw [persist]; rfl
  valid := fun valid => by
    rw [Valid, profiles, runtime]
    exact valid
  listed := fun listed => by
    rw [Listed, profiles]
    exact listed

theorem localChange_changeConfig (config : AppConfig) :
    LocalChange controller (controller.changeConfig now config) :=
  .of_config now rfl rfl rfl rfl rfl

theorem localChange_applyProxy : LocalChange controller (controller.applyProxy answers) := by
  unfold applyProxy
  refine LocalChange.trans ?_ (quiet_report _ _ _).change
  exact .of_same rfl rfl rfl rfl rfl rfl

theorem localChange_restartPac (forceRestart : Bool) :
    LocalChange controller (controller.restartPac answers forceRestart).1 := by
  obtain ⟨server, bound, rules, same⟩ :=
    controller.gui.restartPacServer_same forceRestart answers.bind
  have gui : (controller.restartPac answers forceRestart).1.gui = _ := same
  exact .of_same (by rw [gui]) (by rw [gui]) (by rw [gui]) (by rw [gui]) rfl rfl

theorem localChange_setProxyMode (mode : SystemProxyMode) :
    LocalChange controller (controller.setProxyMode answers now mode) := by
  unfold setProxyMode
  dsimp only
  split
  · exact .refl controller
  · exact (localChange_changeConfig now controller _).trans (localChange_applyProxy answers _)

theorem localChange_setPacRule (rule : PacRuleMode) :
    LocalChange controller (controller.setPacRule answers now rule) := by
  unfold setPacRule
  dsimp only
  split
  · exact .refl controller
  · generalize { controller.gui.config with pacRuleMode := rule } = config
    obtain ⟨server, bound, rules, same⟩ :=
      (controller.setConfig config).gui.restartPacServer_same false answers.bind
    have gui : ((controller.setConfig config).restartPac answers false).1.gui = _ := same
    exact .of_config now (by rw [markDirty, gui]; rfl) (by rw [markDirty, gui]; rfl)
      (by rw [markDirty, gui]; rfl) rfl rfl

theorem localChange_finishRules (result : Except String Unit) :
    LocalChange controller (controller.finishRules answers result) := by
  unfold finishRules
  cases result with
  | ok =>
      refine LocalChange.trans ?_ (quiet_setNotice _ _).change
      refine LocalChange.trans ?_ (localChange_restartPac answers _ false)
      exact .of_same rfl rfl rfl rfl rfl rfl
  | error error =>
      refine LocalChange.trans ?_ (quiet_setNotice _ _).change
      exact .of_same rfl rfl rfl rfl rfl rfl

theorem localChange_reapplyPacProxy :
    LocalChange controller (controller.reapplyPacProxy answers) := by
  unfold reapplyPacProxy
  split
  · exact localChange_applyProxy answers controller
  · exact .refl controller

theorem localChange_setPacSource (mode : PacMode) :
    LocalChange controller (controller.setPacSource answers now mode) := by
  unfold setPacSource
  dsimp only
  split
  · exact .refl controller
  · exact (localChange_changeConfig now controller _).trans
      (localChange_reapplyPacProxy answers _)

/-- A setter of app.json that stores nothing when the value is there already. -/
theorem localChange_changeConfig_unless {same : Prop} [Decidable same] (config : AppConfig) :
    LocalChange controller (if same then controller else controller.changeConfig now config) := by
  split
  · exact .refl controller
  · exact localChange_changeConfig now controller config

theorem localChange_applyListenChange :
    LocalChange controller (controller.applyListenChange answers now) := by
  unfold applyListenChange
  have restarted := localChange_restartPac answers controller false
  generalize controller.restartPac answers false = restart at restarted ⊢
  obtain ⟨middle, outcome⟩ := restart
  have reported := restarted.trans (quiet_report middle outcome .proxyFailed).change
  dsimp only
  generalize middle.report outcome .proxyFailed = reportedAfter at reported ⊢
  have applied : LocalChange controller
      (if reportedAfter.gui.config.systemProxyMode = .disable then reportedAfter
      else reportedAfter.applyProxy answers) :=
    .ite reported (reported.trans (localChange_applyProxy answers _))
  exact .ite (applied.trans (quiet_startActive answers now _).change) applied

theorem localChange_changePacListen (listen : String) :
    LocalChange controller (controller.changePacListen answers now listen) := by
  unfold changePacListen
  obtain ⟨server, bound, rules, same⟩ :=
    (controller.setConfig { controller.gui.config with pacListen := listen }).gui.restartPacServer_same
      true answers.bind
  have gui : ((controller.setConfig { controller.gui.config with pacListen := listen }).restartPac
      answers true).1.gui = _ := same
  have rest : ((controller.setConfig { controller.gui.config with pacListen := listen }).restartPac
      answers true).1 = { controller with gui := _ } := rfl
  dsimp only
  split
  · rename_i restarted outcome
    rw [outcome] at gui rest
    dsimp only at gui rest
    refine LocalChange.trans ?_ (localChange_reapplyPacProxy answers _)
    subst rest
    exact .of_config now (by rw [markDirty, gui]; rfl) (by rw [markDirty, gui]; rfl)
      (by rw [markDirty, gui]; rfl) rfl rfl
  · rename_i restarted error outcome
    rw [outcome] at gui rest
    dsimp only at gui rest
    refine LocalChange.trans ?_ (quiet_setNotice _ _).change
    subst rest
    exact .of_same (by rw [gui]; rfl) rfl (by rw [gui]; rfl) (by rw [gui]; rfl) rfl rfl

theorem localChange_commitValue {key : SettingKey} {value : String}
    (taken : controller.commitValue answers now key value = some after) :
    LocalChange controller after := by
  cases key with
  | mixedPort =>
      obtain ⟨port, -, split⟩ := Option.bind_eq_some_iff.mp taken
      obtain ⟨⟨host, _⟩, -, rfl⟩ := Option.map_eq_some_iff.mp split
      dsimp only
      split
      · exact .refl controller
      · exact (localChange_changeConfig now controller _).trans
          (localChange_applyListenChange answers now _)
  | directUrl | proxyUrl =>
      obtain rfl := Option.some.inj taken
      exact localChange_changeConfig_unless now controller _
  | updateHours =>
      obtain ⟨hours, -, rfl⟩ := Option.map_eq_some_iff.mp taken
      exact localChange_changeConfig_unless now controller _
  | pacListen =>
      obtain rfl := Option.some.inj taken
      split
      · exact .refl controller
      · exact localChange_changePacListen answers now controller value
  | onlinePacUrl =>
      obtain rfl := Option.some.inj taken
      exact .ite (.refl controller) ((localChange_changeConfig now controller _).trans
        (localChange_reapplyPacProxy answers _))

theorem localChange_commitSetting (taken : controller.commitSetting env answers now = some after) :
    LocalChange controller after := by
  unfold commitSetting at taken
  split at taken
  · obtain rfl := Option.some.inj taken
    exact .refl controller
  · split at taken
    · obtain rfl := Option.some.inj taken
      exact .of_same rfl rfl rfl rfl rfl rfl
    · refine LocalChange.trans ?_ (localChange_commitValue answers now _ taken)
      exact .of_same rfl rfl rfl rfl rfl rfl

theorem localChange_startup : LocalChange controller (controller.startup answers now).1 := by
  unfold startup
  have connected := (localChange_restartPac answers controller true).trans
    (quiet_startupConnection answers now _).change
  dsimp only
  generalize ((controller.restartPac answers true).1).startupConnection answers now = middle
    at connected ⊢
  have applied : LocalChange controller
      (if middle.gui.config.systemProxyMode = .disable then middle
      else middle.applyProxy answers) :=
    .ite connected (connected.trans (localChange_applyProxy answers _))
  generalize (if middle.gui.config.systemProxyMode = .disable then middle
      else middle.applyProxy answers) = appliedAfter at applied ⊢
  split
  · exact applied.trans (quiet_beginRules _).change
  · exact applied

/-! ## Writing -/

/-- The dirty files were written; the window may have changed. -/
structure Flushed (before after : Controller Digest) : Prop where
  persist : after.persist = (before.persist.flush env before.gui before.saved answers.write now).1
  gui : after.gui = { before.gui with
    storage := (before.persist.flush env before.gui before.saved answers.write now).2.1 }
  saved : after.saved = before.saved

theorem flushed_flushAll :
    Flushed env answers now controller (controller.flushAll env answers now).1 :=
  ⟨rfl, rfl, rfl⟩

theorem flushed_shutdown :
    Flushed env answers now controller (controller.shutdown env answers now) := by
  unfold shutdown
  dsimp only
  split
  · exact ⟨rfl, rfl, rfl⟩
  · exact ⟨rfl, rfl, rfl⟩

theorem flushDue_eq_or : controller.flushDue env answers now = controller ∨
    Flushed env answers now controller (controller.flushDue env answers now) := by
  unfold flushDue
  split
  · have flushed := flushed_flushAll env answers now controller
    generalize controller.flushAll env answers now = flush at flushed ⊢
    obtain ⟨after, outcome⟩ := flush
    cases outcome with
    | ok => exact Or.inr flushed
    | error => exact Or.inr ⟨flushed.persist, flushed.gui, flushed.saved⟩
  · exact Or.inl rfl

end Controller

/-! ## Operations -/

section Operations

variable {Digest : Type} [DecidableEq Digest] {env : Env Digest} {answers : Answers} {now : Nat}
  {controller after : Controller Digest}

/-- The operation neither writes, saves nor reloads, nor touches the proxy settings. -/
def Operation.isQuiet : Operation → Bool
  | .startup | .shutdown | .flushDue | .flushAll | .onFilesChanged | .setProxyMode _
  | .setPacRule _ | .finishRules _ | .saveNodes | .answerPrompt .save | .setPacSource _
  | .setUpdateHours _ | .commitSetting | .onTray (.setProxyMode _) | .onTray (.setPacRule _) =>
      false
  | _ => true

open Controller in
theorem quiet_perform {operation : Operation} (quiet : operation.isQuiet = true)
    (taken : operation.perform env answers now controller = some after) :
    controller.Quiet after := by
  cases operation with
  | startup | shutdown | flushDue | flushAll | onFilesChanged | saveNodes | commitSetting
  | setProxyMode | setPacRule | finishRules | setPacSource | setUpdateHours => cases quiet
  | expireNotice seq =>
      obtain rfl := Option.some.inj taken
      exact quiet_expireNotice controller seq
  | toggleConnection =>
      obtain rfl := Option.some.inj taken
      exact quiet_toggleConnection answers now controller
  | updateRules =>
      obtain rfl := Option.some.inj taken
      exact quiet_beginRules controller
  | copyPacUrl =>
      obtain rfl := Option.some.inj taken
      exact quiet_copyPacUrl answers controller
  | pollCore =>
      obtain rfl := Option.some.inj taken
      exact quiet_pollCore answers controller
  | selectNode index =>
      obtain rfl := Option.some.inj taken
      exact quiet_selectNode controller index
  | addNode name =>
      obtain rfl := Option.some.inj taken
      exact quiet_addNode controller name
  | nodeCommand index command =>
      obtain rfl := Option.some.inj taken
      exact quiet_nodeCommand answers now controller index command
  | editNode field value =>
      obtain rfl := Option.some.inj taken
      exact quiet_editNode controller field value
  | setActiveNode =>
      obtain rfl := Option.some.inj taken
      exact quiet_setActiveNode answers now controller
  | importLinks => exact quiet_importLinks env answers controller taken
  | importText text => exact quiet_importText env controller taken
  | exportLink => exact quiet_exportLink env answers controller taken
  | shareQrCode => exact quiet_shareQrCode env answers controller taken
  | editAdvanced field value =>
      obtain rfl := Option.some.inj taken
      exact quiet_editAdvanced controller field value
  | commitAdvanced =>
      obtain rfl := Option.some.inj taken
      exact quiet_commitAdvanced controller
  | revertNodes =>
      obtain rfl := Option.some.inj taken
      exact quiet_revertNodes controller
  | requestLeave leave =>
      obtain rfl := Option.some.inj taken
      exact quiet_requestLeave controller leave
  | answerPrompt answer =>
      obtain rfl := Option.some.inj taken
      exact quiet_answerPrompt env answers controller fun save => by
        rw [save] at quiet
        cases quiet
  | setLanguage | setAppearance | setHideOnStart | setCloseToTray | setStartupConnection =>
      obtain rfl := Option.some.inj taken
      exact quiet_changeRuntime_unless now controller rfl
  | setAutostart enabled =>
      obtain rfl := Option.some.inj taken
      exact quiet_setAutostart env answers now controller enabled
  | installAppIcon =>
      obtain rfl := Option.some.inj taken
      exact quiet_installAppIcon answers controller
  | openSetting key => exact quiet_openSetting controller taken
  | editSetting text =>
      obtain rfl := Option.some.inj taken
      exact quiet_editSetting env controller text
  | dismissNotice | closeQrCode | openAdvanced | cancelAdvanced | cancelSetting =>
      obtain rfl := Option.some.inj taken
      exact .of_gui rfl rfl rfl rfl
  | onTray event =>
      cases event with
      | setProxyMode | setPacRule => cases quiet
      | toggleConnection =>
          obtain rfl := Option.some.inj taken
          exact quiet_toggleConnection answers now controller
      | updateRules =>
          obtain rfl := Option.some.inj taken
          exact quiet_beginRules controller
      | selectNode index =>
          obtain rfl := Option.some.inj taken
          exact quiet_activateNode answers now controller index
      | importClipboard => exact quiet_importLinks env answers controller taken
      | window =>
          obtain rfl := Option.some.inj taken
          exact .refl controller

/-- Save, or the answer Save to the prompt. -/
def Operation.IsSave {Digest : Type} (operation : Operation) (controller : Controller Digest) :
    Prop :=
  operation = .saveNodes ∨ (operation = .answerPrompt .save ∧ controller.leave.isSome = true)

/-- The writes of a save, whatever becomes of the pending leave. -/
def SaveStep (env : Env Digest) (answers : Answers) (before after : Controller Digest) : Prop :=
  ∃ leave, after = { (before.writeNodes env answers).1 with leave }

open Controller in
/-- What an operation is on the persistent side. -/
theorem perform_cases {operation : Operation}
    (taken : operation.perform env answers now controller = some after) :
    controller.LocalChange after ∨ Flushed env answers now controller after ∨
      (operation.IsSave controller ∧ SaveStep env answers controller after) ∨
      (operation = .onFilesChanged ∧ after = controller.onFilesChanged env answers now) := by
  by_cases quiet : operation.isQuiet = true
  · exact Or.inl (quiet_perform quiet taken).change
  · cases operation with
    | startup =>
        obtain rfl := Option.some.inj taken
        exact Or.inl (localChange_startup answers now controller)
    | setProxyMode mode =>
        obtain rfl := Option.some.inj taken
        exact Or.inl (localChange_setProxyMode answers now controller mode)
    | setPacRule rule =>
        obtain rfl := Option.some.inj taken
        exact Or.inl (localChange_setPacRule answers now controller rule)
    | finishRules result =>
        obtain rfl := Option.some.inj taken
        exact Or.inl (localChange_finishRules answers controller result)
    | setPacSource mode =>
        obtain rfl := Option.some.inj taken
        exact Or.inl (localChange_setPacSource answers now controller mode)
    | setUpdateHours hours =>
        obtain rfl := Option.some.inj taken
        exact Or.inl (localChange_changeConfig_unless now controller _)
    | commitSetting => exact Or.inl (localChange_commitSetting env answers now controller taken)
    | shutdown =>
        obtain rfl := Option.some.inj taken
        exact Or.inr (Or.inl (flushed_shutdown env answers now controller))
    | flushDue =>
        obtain rfl := Option.some.inj taken
        rcases flushDue_eq_or env answers now controller with same | flushed
        · rw [same]
          exact Or.inl (.refl controller)
        · exact Or.inr (Or.inl flushed)
    | flushAll =>
        obtain rfl := Option.some.inj taken
        exact Or.inr (Or.inl (flushed_flushAll env answers now controller))
    | onFilesChanged => exact Or.inr (Or.inr (Or.inr ⟨rfl, (Option.some.inj taken).symm⟩))
    | saveNodes =>
        obtain rfl := Option.some.inj taken
        exact Or.inr (Or.inr (Or.inl ⟨Or.inl rfl, _, rfl⟩))
    | answerPrompt answer =>
        obtain rfl := Option.some.inj taken
        cases answer with
        | save =>
            unfold answerPrompt
            split
            · exact Or.inl (.refl controller)
            · rename_i leave waits
              have pending : Operation.IsSave (.answerPrompt .save) controller :=
                Or.inr ⟨rfl, by rw [waits]; rfl⟩
              dsimp only
              split
              · exact Or.inr (Or.inr (Or.inl ⟨pending, none, rfl⟩))
              · exact Or.inr (Or.inr (Or.inl ⟨pending, _, rfl⟩))
        | discard | cancel => exact absurd rfl quiet
    | onTray event =>
        cases event with
        | setProxyMode mode =>
            obtain rfl := Option.some.inj taken
            exact Or.inl (localChange_setProxyMode answers now controller mode)
        | setPacRule rule =>
            obtain rfl := Option.some.inj taken
            exact Or.inl (localChange_setPacRule answers now controller rule)
        | _ => exact absurd rfl quiet
    | _ => exact absurd rfl quiet

end Operations

end Juicity.Gui
