import Juicity.Gui.Controller.Known
import Juicity.Gui.Coding

/-!
Owns how memory and the configuration files converge. A reload leaves alone what is
dirty or does not parse and is never caused by the application itself. Once
nothing is dirty it arrives at what a fresh start would read, unless the saved
index was clamped into a list that has grown since: the clamp forgets the index in
runtime.json.
-/

namespace Juicity.Gui

open Juicity.Common Juicity.Machine

namespace Controller

variable {Digest : Type} {env : Env Digest} {answers : Answers} {now : Nat}
  {controller after : Controller Digest} {operation : Operation}

/-! ## Statements -/

/-- A saved list that grows without the index being written finds the index last written
to or read from runtime.json inside the old one. -/
def SaveFollows (env : Env Digest) (answers : Answers) (controller : Controller Digest) : Prop :=
  controller.Attempted → controller.gui.profiles ≠ controller.saved.profiles →
    answers.write .profiles = .ok () → controller.persist.dirty .runtime = false →
      controller.nextSaved.active =
          min controller.saved.active (controller.gui.profiles.profiles.length - 1) ∨
        (∃ error, answers.write .runtime = .error error) →
      ∀ runtime, env.Holds env.serde.runtime .default (controller.persist.known .runtime) runtime →
        runtime.selectedProfile < controller.saved.profiles.profiles.length ∨
          controller.gui.profiles.profiles.length ≤ controller.saved.profiles.profiles.length

/-- A longer list that is read without runtime.json being read finds the index there
inside the old one. -/
def ReadFollows [DecidableEq Digest] (env : Env Digest) (controller : Controller Digest) : Prop :=
  ∀ store, controller.newStore env = some store → controller.newRuntime env = none →
    controller.persist.dirty .runtime = false →
      env.serde.heldIndex controller.gui.storage.files < controller.saved.profiles.profiles.length ∨
        store.filled.profiles.length ≤ controller.saved.profiles.profiles.length

/-- The saved index is the one in runtime.json, clamped into the saved list. -/
def Agreed (env : Env Digest) (controller : Controller Digest) : Prop :=
  controller.persist.dirty .runtime = false → ∀ runtime,
    env.Holds env.serde.runtime .default (controller.persist.known .runtime) runtime →
      controller.saved.active =
        min runtime.selectedProfile (controller.saved.profiles.profiles.length - 1)

/-! ## The saved index -/

theorem SaveRun.agreed {flag : Bool} (run : SaveRun env answers controller after flag)
    (lawful : env.serde.Lawful) (injective : Function.Injective env.contentHash)
    (inside : after.saved.active < after.saved.profiles.profiles.length)
    (agreed : controller.Agreed env) (follows : controller.SaveFollows env answers) :
    after.Agreed env := by
  -- the list stage, unless the index is written after it
  have listed (attempted : controller.Attempted) (reached : controller.ListReached answers)
      (unwritten : controller.nextSaved.active =
          (controller.saveRefusal.1.listSaved env).saved.active ∨
        ∃ error, answers.write .runtime = .error error) :
      (controller.saveRefusal.1.listSaved env).Agreed env := by
    by_cases same : controller.gui.profiles = controller.saved.profiles
    · have kept : controller.saveRefusal.1.listSaved env = controller.saveRefusal.1 := if_pos same
      rw [kept]
      exact agreed
    · have stored : controller.saveRefusal.1.listSaved env =
          controller.saveRefusal.1.listStored env controller.gui.profiles := if_neg same
      rw [stored] at unwritten ⊢
      intro clean runtime holds
      have before := agreed clean runtime holds
      have bound := follows attempted same (reached.resolve_left same) clean unwritten runtime holds
      change min controller.saved.active (controller.gui.profiles.profiles.length - 1) = _
      rw [before]
      change _ = min _ (controller.gui.profiles.profiles.length - 1)
      omega
  cases run with
  | clean | refused | listFailed => exact agreed
  | indexFailed error attempted reached changed failed =>
      exact listed attempted reached (Or.inr ⟨error, failed⟩)
  | listOnly attempted reached same =>
      have agreed := listed attempted reached (Or.inl same)
      intro clean runtime holds
      rw [clearSaveNotice_persist] at clean holds
      rw [clearSaveNotice_saved]
      exact agreed clean runtime holds
  | indexToo attempted reached changed written =>
      intro _ runtime holds
      rw [clearSaveNotice_persist] at holds
      rw [clearSaveNotice_saved] at inside ⊢
      have same : runtime = _ := Env.Holds.of_toVec injective lawful.runtime holds
      rw [same]
      exact (Nat.min_eq_left (Nat.le_sub_one_of_lt inside)).symm

variable [DecidableEq Digest]

theorem Agreed.perform (agreed : controller.Agreed env) (lawful : env.serde.Lawful)
    (injective : Function.Injective env.contentHash) (listed : controller.Listed)
    (inside : controller.saved.active < controller.saved.profiles.profiles.length)
    (working : operation ≠ .onFilesChanged)
    (follows : operation.IsSave controller → controller.SaveFollows env answers)
    (taken : operation.perform env answers now controller = some after) : after.Agreed env := by
  have step := fileStep_perform working taken .runtime
  rcases perform_cases taken with change | flushed | ⟨save, leave, rfl⟩ | ⟨reload, -⟩
  · intro clean runtime holds
    rw [change.known] at holds
    rw [change.saved]
    refine agreed ?_ runtime holds
    by_contra dirty
    rw [change.stillDirty .runtime (by simpa using dirty)] at clean
    cases clean
  · intro clean runtime holds
    rw [flushed.saved]
    cases step with
    | untouched _ known _ kept => exact agreed (kept clean).1 runtime (known ▸ holds)
    | written _ known =>
        rw [known] at holds
        have same : runtime = _ := Env.Holds.of_toVec injective lawful.runtime holds
        rw [same, ← flushed.saved] at *
        exact (Nat.min_eq_left (Nat.le_sub_one_of_lt inside)).symm
  · have run := saveRun_writeNodes env answers controller
    exact run.agreed lawful injective (run.inside listed inside) agreed (follows save)
  · exact absurd reload working

/-- What a look finds in runtime.json is the index there. -/
theorem heldIndex_of_holds_looked (injective : Function.Injective env.contentHash)
    (upToDate : controller.UpToDate env) {runtime : RuntimeState}
    (holds : env.Holds env.serde.runtime .default
      ((controller.lookedPersist env now).known .runtime) runtime) :
    env.serde.heldIndex controller.gui.storage.files = runtime.selectedProfile := by
  rw [lookedPersist_known] at holds
  cases held : controller.gui.storage.files .runtime with
  | none =>
      rw [held, Option.map_none, Option.none_or] at holds
      rcases holds with ⟨-, rfl⟩ | ⟨content, known, -⟩
      · simp [Serde.heldIndex, held, Codec.loadOrRecover]
      · exact absurd held (upToDate.present .runtime (by rw [known]; exact Option.some_ne_none _))
  | some content =>
      rw [held, Option.map_some, Option.some_or] at holds
      simp [Serde.heldIndex, held, Codec.loadOrRecover, holds.fromSlice injective]

theorem Agreed.onFilesChanged (agreed : controller.Agreed env)
    (injective : Function.Injective env.contentHash) (upToDate : controller.UpToDate env)
    (reads : controller.ReadFollows env) :
    (controller.onFilesChanged env answers now).Agreed env := by
  have follows := follows_onFilesChanged answers controller env now
  have persist : (controller.onFilesChanged env answers now).persist =
      controller.lookedPersist env now := follows.persist
  have saved : (controller.onFilesChanged env answers now).saved =
      (controller.saved.listed (controller.newStore env)).indexed (controller.newRuntime env) :=
    follows.saved
  intro clean runtime holds
  rw [persist] at clean holds
  rw [lookedPersist_dirty] at clean
  rw [saved]
  have index := heldIndex_of_holds_looked injective upToDate holds
  rcases holds_looked env now injective (fun _ => rfl) clean holds with loaded | ⟨kept, holds⟩
  · rw [newRuntime, loaded]
    rfl
  · have before := agreed clean runtime holds
    have unread : controller.newRuntime env = none := kept
    rw [unread]
    cases changed : controller.newStore env with
    | none => exact before
    | some store =>
        have bound := reads store changed unread clean
        rw [index] at bound
        change min controller.saved.active (store.filled.profiles.length - 1) =
          min _ (store.filled.profiles.length - 1)
        rw [before]
        omega

end Controller

/-! ## Runs -/

section Runs

variable {Digest : Type} [DecidableEq Digest] {env : Env Digest} {storage : Storage}
  {moved : ConfigFile → Bool} {world next : World Digest} {action : Action}

/-- Records and index, together. -/
structure World.Agrees (env : Env Digest) (world : World Digest) : Prop where
  kept : world.Kept env
  agreed : world.controller.Agreed env

end Runs

/-! ## The second of two nodes -/

end Juicity.Gui
