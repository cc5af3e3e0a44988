import Mathlib.Tactic.Common

/-!
Contract: a shared content whose version is raised after each change.

A reader asks for the version first and reads the content later. A writer changes
the content first and raises the version later, so the version may lag behind. When
it does not, and it is still the one a reader asked for, what was read is current:
this is `Published.Seen`, and both steps of a writer keep it.
-/

namespace Juicity.Machine

universe u

/-- A content, its version and the number of changes the version does not count yet. -/
structure Published (Content : Type u) where
  content : Content
  version : Nat
  unpublished : Nat

namespace Published

variable {Content : Type u}

/-- The first step of a writer. -/
def change (source : Published Content) (edit : Content → Content) : Published Content :=
  { source with content := edit source.content, unpublished := source.unpublished + 1 }

/-- The second step of a writer. -/
def publish (source : Published Content) : Option (Published Content) :=
  if source.unpublished = 0 then none
  else some { source with
    version := source.version + 1, unpublished := source.unpublished - 1 }

/-- The version is not ahead, and while it is the source's and no change is unpublished,
`holds` is true of the current content. -/
structure Seen (source : Published Content) (version : Nat) (holds : Content → Prop) : Prop where
  asked : version ≤ source.version
  current : source.version = version → source.unpublished = 0 → holds source.content

variable {source after : Published Content} {version : Nat} {holds : Content → Prop}

/-- What is read is true of the current content, whatever the version asked before. -/
theorem seen_of_content (asked : version ≤ source.version) (held : holds source.content) :
    source.Seen version holds := ⟨asked, fun _ _ => held⟩

theorem Seen.change (seen : source.Seen version holds) (edit : Content → Content) :
    (source.change edit).Seen version holds := by
  refine ⟨seen.asked, ?_⟩
  intro _ settled
  exact absurd settled (Nat.succ_ne_zero source.unpublished)

theorem publish_eq_some (taken : source.publish = some after) :
    source.unpublished ≠ 0 ∧ after = { source with
      version := source.version + 1, unpublished := source.unpublished - 1 } := by
  obtain ⟨pending, raised⟩ := Option.ite_none_left_eq_some.mp taken
  exact ⟨pending, (Option.some.inj raised).symm⟩

theorem version_publish (taken : source.publish = some after) :
    after.version = source.version + 1 := by
  obtain ⟨_, rfl⟩ := publish_eq_some taken
  rfl

theorem content_publish (taken : source.publish = some after) :
    after.content = source.content := by
  obtain ⟨_, rfl⟩ := publish_eq_some taken
  rfl

theorem unpublished_publish (taken : source.publish = some after) :
    after.unpublished + 1 = source.unpublished := by
  obtain ⟨pending, rfl⟩ := publish_eq_some taken
  exact Nat.succ_pred_eq_of_ne_zero pending

/-- A raised version outdates everything read before. -/
theorem Seen.publish (seen : source.Seen version holds) (taken : source.publish = some after) :
    after.Seen version holds := by
  have raised := version_publish taken
  have asked := seen.asked
  refine ⟨by omega, fun same => ?_⟩
  omega

end Published

end Juicity.Machine
