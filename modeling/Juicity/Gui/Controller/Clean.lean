import Juicity.Gui.Coding
import Juicity.Gui.Controller.Editor

/-!
Contract: when the controller says that no node edit is unsaved. A reload and a
revert leave none, and without any nothing shown would be lost. A new controller
has one when runtime.json points past the list in profiles.json.
-/

namespace Juicity.Gui

open Juicity.Common Juicity.Machine

namespace NodeSide

variable {side : NodeSide}

theorem dirty_eq_false : side.dirty = false ↔
    side.profiles = side.saved.profiles ∧ side.active = side.saved.active ∧
      ∀ profile, side.row side.selected = some profile → side.draft.unapplied profile = false := by
  rw [dirty, Bool.or_eq_false_iff, listDirty, decide_eq_false_iff_not, not_or, not_not, not_not,
    and_assoc]
  cases side.row side.selected with
  | none => simp
  | some profile => simp

/-- The draft of a row holds no text that was kept out of it. -/
theorem unapplied_fromProfile (profile : StoredProfile) :
    (DraftData.fromProfile profile).unapplied profile = false :=
  List.any_eq_false.mpr fun _ _ => by simp

/-- A loaded editor on the saved list is clean. -/
theorem clean_load (profiles : side.profiles = side.saved.profiles)
    (active : side.active = side.saved.active) : side.load.dirty = false := by
  refine dirty_eq_false.mpr ⟨profiles, active, fun profile shown => ?_⟩
  have loaded : side.load.draft = .fromProfile profile := draftAt_of_row shown
  rw [loaded]
  exact unapplied_fromProfile profile

/-- A revert leaves no edit. -/
theorem Coherent.clean_revert (coherent : side.Coherent) : side.revert.dirty = false := by
  cases edited : side.dirty with
  | false =>
      rw [revert, if_pos edited]
      exact edited
  | true =>
      rw [coherent.revert_eq edited]
      exact clean_load rfl rfl

/-- A reload of files makes no edit. -/
theorem Coherent.clean_reload (coherent : side.Coherent) (clean : side.dirty = false)
    {saved : Saved} {listed : Bool} (sound : side.Sound (.reload saved listed)) :
    (side.reload saved listed).dirty = false := by
  obtain ⟨profiles, active, shown⟩ := dirty_eq_false.mp clean
  obtain ⟨inside, unlisted⟩ := sound
  have tidy : side.listDirty = false := (Bool.or_eq_false_iff.mp clean).1
  cases listed with
  | false =>
      have same : side.profiles = saved.profiles := profiles.trans (unlisted rfl).symm
      have clamped : min saved.active (side.rows.length - 1) = saved.active := by
        rw [rows, same]
        exact Nat.min_eq_left (Nat.le_sub_one_of_lt inside)
      rw [reload_kept coherent (.inr rfl), tidy]
      exact dirty_eq_false.mpr ⟨same, clamped, shown⟩
  | true =>
      rw [reload_read tidy inside]
      dsimp only
      split
      · rename_i same
        exact dirty_eq_false.mpr ⟨rfl, rfl, fun profile held => shown profile (same.symm.trans held)⟩
      · exact clean_load rfl rfl

end NodeSide

/-- The index in runtime.json lies inside the list in profiles.json, unless that list is
empty. -/
def Serde.IndexInside (serde : Serde) (files : Files) : Prop :=
  let list := (serde.profiles.loadOrRecover .default (files .profiles)).1.profiles
  list = [] ∨ serde.heldIndex files < list.length

namespace Controller

variable {Digest : Type}

/-- A new controller has a node edit exactly when its index lies outside its list. -/
theorem nodesDirty_new (env : Env Digest) (storage : Storage) (moved : ConfigFile → Bool) :
    (Controller.new env storage moved).nodesDirty = false ↔
      env.serde.IndexInside storage.files := by
  have coherent := coherent_new env storage moved
  have shown : ∀ profile, (Controller.new env storage moved).nodeSide.row
      (Controller.new env storage moved).nodeSide.selected = some profile →
        (Controller.new env storage moved).nodeSide.draft.unapplied profile = false := by
    intro profile held
    have loaded : (Controller.new env storage moved).nodeSide.draft = .fromProfile profile :=
      NodeSide.draftAt_of_row held
    rw [loaded]
    exact NodeSide.unapplied_fromProfile profile
  have clamped : (Controller.new env storage moved).nodesDirty = false ↔
      (Controller.new env storage moved).nodeSide.active =
        (Controller.new env storage moved).nodeSide.saved.active := by
    rw [nodesDirty_eq, NodeSide.dirty_eq_false]
    exact ⟨fun clean => clean.2.1, fun same => ⟨rfl, same, shown⟩⟩
  rw [clamped]
  show (if _ then _ else _ : RuntimeState).selectedProfile =
    min (if _ then _ else _ : RuntimeState).selectedProfile _ ↔ _
  unfold Serde.IndexInside
  dsimp only
  generalize (env.serde.profiles.loadOrRecover .default (storage.files .profiles)).1 = store
  by_cases empty : store.profiles = []
  · simp [empty]
  · have some := List.length_pos_of_ne_nil empty
    have filled : store.filled = store := if_neg empty
    rw [if_neg empty, filled]
    simp only [empty, false_or]
    show env.serde.heldIndex storage.files = min (env.serde.heldIndex storage.files) _ ↔ _
    omega

end Controller

section Worlds

variable {Digest : Type} [DecidableEq Digest]

/-- No node edit is reported that is none, and none is hidden. -/
structure EditsReported (env : Env Digest) (storage : Storage) (moved : ConfigFile → Bool) :
    Prop where
  start : (Controller.new env storage moved).nodesDirty = false
  reload : ∀ (world : World Digest) answers now,
    Reachable (step env) (.start env storage moved) world → world.controller.nodesDirty = false →
      (world.controller.onFilesChanged env answers now).nodesDirty = false
  revert : ∀ world : World Digest, Reachable (step env) (.start env storage moved) world →
    world.controller.revertNodes.nodesDirty = false
  discard : ∀ (world : World Digest) answers,
    Reachable (step env) (.start env storage moved) world → world.controller.leave.isSome →
      (world.controller.answerPrompt env answers .discard).1.nodesDirty = false
  shown : ∀ world : World Digest, Reachable (step env) (.start env storage moved) world →
    world.controller.nodesDirty = false →
      world.controller.gui.profiles = world.controller.saved.profiles ∧
        world.controller.gui.runtime.selectedProfile = world.controller.saved.active ∧
        ∃ profile, world.controller.editedProfile = some profile ∧
          world.controller.nodes.draft.Shows profile
  leaves : ∀ (world : World Digest) leave, Reachable (step env) (.start env storage moved) world →
    (world.controller.requestLeave leave).2.isSome → world.controller.nodesDirty = false

variable {env : Env Digest} {storage : Storage} {moved : ConfigFile → Bool} {world : World Digest}

/-- A clean controller shows what is saved. -/
theorem shown_of_clean (reached : Reachable (step env) (.start env storage moved) world)
    (clean : world.controller.nodesDirty = false) :
    world.controller.gui.profiles = world.controller.saved.profiles ∧
      world.controller.gui.runtime.selectedProfile = world.controller.saved.active ∧
      ∃ profile, world.controller.editedProfile = some profile ∧
        world.controller.nodes.draft.Shows profile := by
  have coherent := coherent_of_reachable reached
  rw [Controller.nodesDirty_eq] at clean
  obtain ⟨profiles, active, unapplied⟩ := NodeSide.dirty_eq_false.mp clean
  obtain ⟨profile, shown⟩ : ∃ profile, world.controller.nodeSide.row
      world.controller.nodeSide.selected = some profile :=
    ⟨_, List.getElem?_eq_getElem coherent.selected⟩
  exact ⟨profiles, active, profile, shown,
    DraftData.shows_of_applied (coherent.applied profile shown) (unapplied profile shown)⟩

theorem editsReported_iff_indexInside (env : Env Digest) (storage : Storage)
    (moved : ConfigFile → Bool) :
    EditsReported env storage moved ↔ env.serde.IndexInside storage.files := by
  rw [← Controller.nodesDirty_new env storage moved]
  refine ⟨fun reported => reported.start, fun start => ?_⟩
  exact {
    start
    reload := fun world answers now reached clean => by
      have coherent := coherent_of_reachable reached
      rw [Controller.nodesDirty_eq] at clean ⊢
      rw [Controller.nodeSide_onFilesChanged]
      by_cases none : world.controller.reloaded env = []
      · rw [if_pos none]
        exact clean
      · rw [if_neg none]
        have happens : Operation.onFilesChanged.nodeEvent env answers now world.controller =
          some (.reload _ _) := if_neg none
        exact coherent.clean_reload clean (Controller.sound_nodeEvent coherent.saved happens)
    revert := fun world reached => by
      rw [Controller.nodesDirty_eq, Controller.nodeSide_revertNodes]
      exact (coherent_of_reachable reached).clean_revert
    discard := fun world answers reached asked => by
      obtain ⟨leave, open_⟩ := Option.isSome_iff_exists.mp asked
      rw [Controller.nodesDirty_eq, Controller.answerPrompt, open_]
      exact (congrArg NodeSide.dirty (Controller.nodeSide_revertNodes _)).trans
        (coherent_of_reachable reached).clean_revert
    shown := fun world reached clean => shown_of_clean reached clean
    leaves := fun world leave reached proceeds => by
      unfold Controller.requestLeave at proceeds
      split at proceeds
      · cases proceeds
      · split at proceeds
        · assumption
        · cases proceeds }

end Worlds

/-- One node, and an index behind it. -/
def pastStorage : Storage := .ofRecords nodesEnv.serde .default oneNode secondActive

/-- Nothing was edited, and the window would ask before it closes. -/
theorem index_past_list_reported :
    ((Controller.new nodesEnv pastStorage fun _ => false).requestLeave .quit).2 = none ∧
      ¬EditsReported nodesEnv pastStorage fun _ => false := by
  have dirty : (Controller.new nodesEnv pastStorage fun _ => false).nodesDirty = true := by
    decide +kernel
  refine ⟨by decide +kernel, fun reported => ?_⟩
  rw [reported.start] at dirty
  cases dirty

end Juicity.Gui
