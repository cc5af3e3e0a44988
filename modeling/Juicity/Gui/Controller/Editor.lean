import Juicity.Gui.Controller.NodeEvents
import Juicity.Machine.Numeral

/-!
Contract: the editor and the row it edits. A draft that was copied into its row is
copied again without effect, and what it shows is what the row stores, up to
trimming and normalisation, unless it holds text that was kept out.

Owns the invariant of the node side: both indices lie inside their lists and the
draft belongs to the selected row.
-/

namespace Juicity.Gui

open Juicity.Common Juicity.Machine

/-! ## Numbers in text -/

theorem toList_toString (number : Nat) : (toString number).toList = Nat.toDigits 10 number :=
  String.toList_ofList

theorem trim_toString (number : Nat) : trim (toString number) = toString number := by
  have plain : ∀ char ∈ Nat.toDigits 10 number, isWhitespace char = false := by
    intro char member
    have digit := code_of_isDigitOf_ten
      (isDigitOf_of_mem_toDigits (by omega) (by omega) number char member)
    simp only [isWhitespace, decide_eq_false_iff_not]
    omega
  exact trim_plain plain

/-- The port of a row is read back, or is the invalid port 0. -/
theorem parsePort_toString (number : UInt16) :
    (parsePort (toString number.toNat)).getD number = number := by
  unfold parsePort
  rw [trim_toString, toList_toString, parseU16_toDigits]
  show (if decide (number > 0) = true then some number else none).getD number = number
  split
  · rfl
  · rfl

theorem parseTimeout_toString (number : UInt32) :
    parseTimeout (toString number.toNat) = some number := by
  rw [parseTimeout, trim_toString, toList_toString, parseU32_toDigits]

/-! ## Draft and row -/

/-- A field that is written when a test on the stored value asks for it, written again. -/
theorem rewritten {α : Type} (changed : α → Prop) [DecidablePred changed] (typed stored : α) :
    (if changed (if changed stored then typed else stored) then typed
      else if changed stored then typed else stored) =
      if changed stored then typed else stored := by
  by_cases change : changed stored
  · rw [if_pos change, ite_self]
  · rw [if_neg change, if_neg change]

/-- A field that is written when the text parses, written again. -/
theorem reparsed {α : Type} (typed : Option α) (stored : α) :
    typed.getD (typed.getD stored) = typed.getD stored := by
  cases typed with
  | none => rfl
  | some value => rfl

namespace DraftData

/-- The draft of a row writes nothing into it. -/
theorem fromProfile_applyTo (profile : StoredProfile) :
    (fromProfile profile).applyTo profile = profile := by
  have port : (parsePort (fromProfile profile).port).getD profile.serverPort = profile.serverPort :=
    parsePort_toString profile.serverPort
  have timeout : parseTimeout (fromProfile profile).timeout = some profile.timeout :=
    parseTimeout_toString profile.timeout
  unfold applyTo
  dsimp only
  rw [port, timeout]
  simp [fromProfile]

/-- A draft that was written into a row writes nothing more. -/
theorem applyTo_applyTo (draft : DraftData) (profile : StoredProfile) :
    draft.applyTo (draft.applyTo profile) = draft.applyTo profile := by
  unfold applyTo
  dsimp only [fromProfile]
  simp only [StoredProfile.mk.injEq, ProxyProfile.mk.injEq]
  refine ⟨⟨rewritten (fun stored => draft.name ≠ stored) _ _, trivial,
    rewritten (fun stored => draft.server ≠ stored ∧ .server ∉ draft.missing) _ _,
    reparsed _ _, rewritten (fun _ => .password ∉ draft.missing) _ _,
    rewritten (fun stored => draft.uuid ≠ stored ∧ .uuid ∉ draft.missing) _ _,
    rewritten (fun stored => draft.sni ≠ Option.getD stored "") _ _, trivial,
    rewritten (fun stored => draft.pinnedCertchainSha256 ≠ Option.getD stored "") _ _,
    rewritten (fun stored => draft.congestionControl ≠ Option.getD stored "bbr") _ _, trivial,
    rewritten (fun stored => draft.plugin ≠ Option.getD stored "") _ _,
    rewritten (fun stored => draft.pluginOptions ≠ Option.getD stored "") _ _⟩,
    rewritten (fun stored => draft.pluginArgs ≠ Option.getD stored "") _ _, reparsed _ _,
    rewritten (fun stored => draft.group ≠ Option.getD stored "") _ _, trivial, trivial⟩

/-- Every text of the draft is the stored field as the editor loads it, or has it as its
trimmed or parsed form. -/
structure Shows (draft : DraftData) (profile : StoredProfile) : Prop where
  name : draft.name = profile.name ∨ trim draft.name = profile.name
  protocol : draft.protocol = profile.protocol
  server : draft.server = profile.server ∨ trim draft.server = profile.server
  port : draft.port = toString profile.serverPort.toNat ∨
    parsePort draft.port = some profile.serverPort
  uuid : draft.uuid = profile.uuid ∨ trim draft.uuid = profile.uuid
  password : draft.password = profile.password
  method : draft.method = profile.method
  sni : draft.sni = profile.sni.getD "" ∨ nonEmptyText draft.sni = profile.sni
  allowInsecure : draft.allowInsecure = profile.allowInsecure
  pinnedCertchainSha256 : draft.pinnedCertchainSha256 = profile.pinnedCertchainSha256.getD "" ∨
    nonEmptyText draft.pinnedCertchainSha256 = profile.pinnedCertchainSha256
  congestionControl : draft.congestionControl = profile.congestionControl.getD "bbr" ∨
    normalizeCongestionControl draft.congestionControl = profile.congestionControl
  plugin : draft.plugin = profile.plugin.getD "" ∨ nonEmptyText draft.plugin = profile.plugin
  pluginOptions : draft.pluginOptions = profile.pluginOpts.getD "" ∨
    nonEmptyText draft.pluginOptions = profile.pluginOpts
  pluginArgs : draft.pluginArgs = profile.pluginArgs.getD "" ∨
    nonEmptyText draft.pluginArgs = profile.pluginArgs
  timeout : draft.timeout = toString profile.timeout.toNat ∨
    parseTimeout draft.timeout = some profile.timeout
  group : draft.group = profile.group.getD "" ∨ nonEmptyText draft.group = profile.group

/-- A field that is written exactly when its text changed. -/
theorem shows_changed {α : Type} {same : Prop} [Decidable same] {typed stored : α}
    (written : (if ¬same then typed else stored) = stored) : same ∨ typed = stored := by
  by_cases kept : same
  · exact .inl kept
  · rw [if_pos kept] at written
    exact .inr written

/-- Text that is not valid shows what is stored when none was kept out. -/
theorem checkedText_of_applied {draft : DraftData} {profile : StoredProfile}
    (clean : draft.unapplied profile = false) {field : DraftField} {reason : DraftError}
    (reported : (field, reason) ∈ draft.errors) :
    draft.checkedText field = (fromProfile profile).checkedText field := by
  have same := List.any_eq_false.mp clean _ reported
  simpa using same

theorem required_mem_errors {draft : DraftData} {field : DraftField}
    (empty : field ∈ draft.missing) : (field, .required) ∈ draft.errors :=
  List.mem_append_left _ (List.mem_append_left _ (List.mem_map.mpr ⟨field, empty, rfl⟩))

/-- A draft that writes nothing into its row, and that holds no text that was kept out,
shows the row. -/
theorem shows_of_applied {draft : DraftData} {profile : StoredProfile}
    (applied : draft.applyTo profile = profile) (clean : draft.unapplied profile = false) :
    draft.Shows profile := by
  have server : draft.server = profile.server ∨ trim draft.server = profile.server := by
    by_cases empty : .server ∈ draft.missing
    · exact .inl (checkedText_of_applied clean (required_mem_errors empty))
    · have written := congrArg (fun row : StoredProfile => row.server) applied
      simp only [applyTo, empty, not_false_eq_true, and_true] at written
      exact shows_changed written
  have uuid : draft.uuid = profile.uuid ∨ trim draft.uuid = profile.uuid := by
    by_cases empty : .uuid ∈ draft.missing
    · exact .inl (checkedText_of_applied clean (required_mem_errors empty))
    · have written := congrArg (fun row : StoredProfile => row.uuid) applied
      simp only [applyTo, empty, not_false_eq_true, and_true] at written
      exact shows_changed written
  have password : draft.password = profile.password := by
    by_cases empty : .password ∈ draft.missing
    · exact checkedText_of_applied clean (required_mem_errors empty)
    · have written := congrArg (fun row : StoredProfile => row.password) applied
      simp only [applyTo, empty, not_false_eq_true, if_true] at written
      exact written
  have port : draft.port = toString profile.serverPort.toNat ∨
      parsePort draft.port = some profile.serverPort := by
    cases parsed : parsePort draft.port with
    | none =>
        have reported : (DraftField.port, DraftError.port) ∈ draft.errors := by
          simp [errors, parsed]
        exact .inl (checkedText_of_applied clean reported)
    | some number =>
        have written := congrArg (fun row : StoredProfile => row.serverPort) applied
        simp only [applyTo, parsed, Option.getD_some] at written
        rw [written]
        exact .inr rfl
  have timeout : draft.timeout = toString profile.timeout.toNat ∨
      parseTimeout draft.timeout = some profile.timeout := by
    cases parsed : parseTimeout draft.timeout with
    | none =>
        have reported : (DraftField.timeout, DraftError.timeout) ∈ draft.errors := by
          simp [errors, parsed]
        exact .inl (checkedText_of_applied clean reported)
    | some number =>
        have written := congrArg StoredProfile.timeout applied
        simp only [applyTo, parsed, Option.getD_some] at written
        rw [written]
        exact .inr rfl
  exact {
    name := shows_changed (congrArg (fun row : StoredProfile => row.name) applied)
    protocol := congrArg (fun row : StoredProfile => row.protocol) applied
    server, port, uuid, password
    method := congrArg (fun row : StoredProfile => row.method) applied
    sni := shows_changed (congrArg (fun row : StoredProfile => row.sni) applied)
    allowInsecure := congrArg (fun row : StoredProfile => row.allowInsecure) applied
    pinnedCertchainSha256 :=
      shows_changed (congrArg (fun row : StoredProfile => row.pinnedCertchainSha256) applied)
    congestionControl :=
      shows_changed (congrArg (fun row : StoredProfile => row.congestionControl) applied)
    plugin := shows_changed (congrArg (fun row : StoredProfile => row.plugin) applied)
    pluginOptions := shows_changed (congrArg (fun row : StoredProfile => row.pluginOpts) applied)
    pluginArgs := shows_changed (congrArg StoredProfile.pluginArgs applied)
    timeout
    group := shows_changed (congrArg StoredProfile.group applied) }

end DraftData

/-! ## The invariant of the node side -/

theorem filled_of_inside {store : ProfileStore} {index : Nat}
    (inside : index < store.profiles.length) : store.filled = store :=
  if_neg (List.ne_nil_of_length_pos (Nat.zero_lt_of_lt inside))

namespace NodeSide

variable {side : NodeSide}

/-- The editor is on a row of the list, and its valid texts are in that row. -/
structure Coherent (side : NodeSide) : Prop where
  selected : side.selected < side.rows.length
  saved : side.saved.active < side.saved.profiles.profiles.length
  applied : ∀ profile, side.row side.selected = some profile → side.draft.applyTo profile = profile

theorem draftAt_of_row {index : Nat} {profile : StoredProfile}
    (shown : side.row index = some profile) : side.draftAt index = .fromProfile profile := by
  rw [draftAt, shown]
  rfl

/-- A loaded editor is coherent. -/
theorem coherent_load (listed : side.rows ≠ [])
    (saved : side.saved.active < side.saved.profiles.profiles.length) : side.load.Coherent := by
  have some := List.length_pos_of_ne_nil listed
  refine ⟨show min side.selected (side.rows.length - 1) < side.rows.length by omega, saved, ?_⟩
  intro profile shown
  have loaded : side.load.draft = .fromProfile profile := draftAt_of_row shown
  rw [loaded]
  exact DraftData.fromProfile_applyTo profile

theorem commit_of_row {profile : StoredProfile} (shown : side.row side.selected = some profile) :
    side.commit = { side with
      profiles := ⟨side.rows.set side.selected (side.draft.applyTo profile)⟩ } := by
  unfold commit
  rw [shown]

/-- A commit changes rows, and no number of them. -/
theorem commit_same (side : NodeSide) : ∃ rows : List StoredProfile,
    rows.length = side.rows.length ∧ side.commit = { side with profiles := ⟨rows⟩ } := by
  cases shown : side.row side.selected with
  | some profile => exact ⟨_, List.length_set, commit_of_row shown⟩
  | none =>
      refine ⟨side.rows, rfl, ?_⟩
      unfold commit
      rw [shown]
      rfl

theorem active_commit : side.commit.active = side.active := by
  obtain ⟨rows, -, same⟩ := side.commit_same
  rw [same]

theorem advanced_commit : side.commit.advanced = side.advanced := by
  obtain ⟨rows, -, same⟩ := side.commit_same
  rw [same]

/-- An editor whose draft was copied into its row is coherent. -/
theorem coherent_commit (selected : side.selected < side.rows.length)
    (saved : side.saved.active < side.saved.profiles.profiles.length) : side.commit.Coherent := by
  rw [commit_of_row (List.getElem?_eq_getElem selected)]
  refine ⟨?_, saved, ?_⟩
  · show side.selected < (side.rows.set _ _).length
    rw [List.length_set]
    exact selected
  · intro profile stored
    have same : (side.rows.set side.selected _)[side.selected]? = some profile := stored
    rw [List.getElem?_set_self selected] at same
    rw [← Option.some.inj same]
    exact DraftData.applyTo_applyTo _ _

/-- What a list command does: nothing, or the edited list with both indices moved and,
after Duplicate and after a Delete of the selected row, a freshly loaded editor. -/
theorem command_cases (side : NodeSide) (index : Nat) (command : ListCommand) :
    (side.command index command = side ∧
        (side.rows.length ≤ index ∨ command.edit index side.rows = none)) ∨
      ∃ rows remap, index < side.rows.length ∧
        command.edit index side.rows = some (rows, remap) ∧
        side.command index command =
          let moved := { side with profiles := ⟨rows⟩, active := remap side.active }
          if command = .duplicate then moved.display (index + 1)
          else if command = .delete ∧ side.selected = index then
            moved.display (remap side.selected)
          else { moved with selected := remap side.selected } := by
  unfold NodeSide.command
  by_cases outside : index ≥ side.rows.length
  · exact .inl ⟨if_pos outside, .inl outside⟩
  · cases done : command.edit index side.rows with
    | none => exact .inl ⟨if_neg outside, .inr rfl⟩
    | some result => exact .inr ⟨result.1, result.2, Nat.lt_of_not_le outside, rfl, if_neg outside⟩

theorem Coherent.command (coherent : side.Coherent) (index : Nat) (command : ListCommand) :
    (side.command index command).Coherent := by
  rcases command_cases side index command with
    ⟨same, -⟩ | ⟨rows, remap, inside, done, moved⟩
  · rw [same]
    exact coherent
  · obtain ⟨profile, shown⟩ : ∃ profile, side.rows[side.selected]? = some profile :=
      ⟨_, List.getElem?_eq_getElem coherent.selected⟩
    have listed : rows ≠ [] :=
      List.ne_nil_of_length_pos (Nat.zero_lt_of_lt (remap_lt inside done coherent.selected))
    rw [moved]
    dsimp only
    by_cases duplicates : command = .duplicate
    · rw [if_pos duplicates]
      exact coherent_load listed coherent.saved
    · rw [if_neg duplicates]
      by_cases deletes : command = .delete ∧ side.selected = index
      · rw [if_pos deletes]
        exact coherent_load listed coherent.saved
      · rw [if_neg deletes]
        have followed : rows[remap side.selected]? = some profile :=
          (getElem?_edit inside done coherent.selected deletes).trans shown
        refine ⟨(List.getElem?_eq_some_iff.mp followed).1, coherent.saved, fun other held => ?_⟩
        have same : rows[remap side.selected]? = some other := held
        rw [followed] at same
        exact coherent.applied other (shown.trans same)

/-- An editor that stays on a row that holds the same profile, and is loaded otherwise. -/
theorem Coherent.follow {before : NodeSide} (coherent : before.Coherent)
    (selected : side.selected < side.rows.length)
    (saved : side.saved.active < side.saved.profiles.profiles.length)
    (draft : side.draft = before.draft) :
    (if side.row side.selected = before.row before.selected then side
      else ({ side with advanced := none } : NodeSide).load).Coherent := by
  split
  · rename_i same
    refine ⟨selected, saved, fun profile shown => ?_⟩
    rw [draft]
    exact coherent.applied profile (same.symm.trans shown)
  · exact coherent_load (List.ne_nil_of_length_pos (Nat.zero_lt_of_lt selected)) saved

/-- A reload that keeps the working list keeps the editor. -/
theorem reload_kept (coherent : side.Coherent) {saved : Saved} {listed : Bool}
    (keeps : side.listDirty = true ∨ listed = false) :
    side.reload saved listed = { side with
      active := min (if side.listDirty then side.active else saved.active) (side.rows.length - 1)
      saved := saved } := by
  have kept : (if side.listDirty then side.profiles
      else if listed then saved.profiles else side.profiles).filled = side.profiles := by
    have filled := filled_of_inside coherent.selected
    rcases keeps with edited | unlisted
    · rw [if_pos edited]
      exact filled
    · rw [unlisted, if_neg Bool.false_ne_true, ite_self]
      exact filled
  have stays : min side.selected (side.profiles.profiles.length - 1) = side.selected :=
    Nat.min_eq_left (Nat.le_sub_one_of_lt coherent.selected)
  unfold NodeSide.reload
  dsimp only
  rw [kept, stays]
  exact if_pos rfl

/-- A reload that replaces the working list keeps the editor when the row is the same. -/
theorem reload_read (clean : side.listDirty = false) {saved : Saved}
    (inside : saved.active < saved.profiles.profiles.length) :
    side.reload saved true =
      let selected := min side.selected (saved.profiles.profiles.length - 1)
      let shown : NodeSide :=
        ⟨saved.profiles, saved.active, selected, side.draft, side.advanced, saved⟩
      if saved.profiles.profiles[selected]? = side.row side.selected then shown
      else ({ shown with advanced := none } : NodeSide).load := by
  have read : (if side.listDirty then side.profiles
      else if true then saved.profiles else side.profiles).filled = saved.profiles := by
    rw [clean]
    exact filled_of_inside inside
  have followed : min (if side.listDirty then side.active else saved.active)
      (saved.profiles.profiles.length - 1) = saved.active := by
    rw [clean]
    exact Nat.min_eq_left (Nat.le_sub_one_of_lt inside)
  unfold NodeSide.reload
  dsimp only
  rw [read, followed]
  rfl

/-- A revert of edits loads the saved nodes. -/
theorem Coherent.revert_eq (coherent : side.Coherent) (edited : side.dirty = true) :
    side.revert =
      load ⟨side.saved.profiles, side.saved.active, side.saved.active, side.draft, none,
        side.saved⟩ := by
  have filled := filled_of_inside coherent.saved
  have inside : min side.saved.active (side.saved.profiles.profiles.length - 1) =
      side.saved.active := Nat.min_eq_left (Nat.le_sub_one_of_lt coherent.saved)
  unfold NodeSide.revert restore
  rw [if_neg (by rw [edited]; decide), filled]
  dsimp only
  rw [inside]

/-- Every event keeps the node side coherent. -/
theorem Coherent.take (coherent : side.Coherent) {event : NodeEvent} (sound : side.Sound event) :
    (side.take event).Coherent := by
  have listed : side.rows ≠ [] := List.ne_nil_of_length_pos (Nat.zero_lt_of_lt coherent.selected)
  cases event with
  | select index =>
      show (if _ then side else side.display index).Coherent
      split
      · exact coherent
      · exact coherent_load listed coherent.saved
  | append added =>
      exact coherent_load (fun empty => listed (List.append_eq_nil_iff.mp empty).1) coherent.saved
  | command index command => exact coherent.command index command
  | edit field value => exact coherent_commit coherent.selected coherent.saved
  | activate index =>
      show (side.activate index).Coherent
      unfold NodeSide.activate
      split
      · exact coherent
      · split
        · exact ⟨coherent.selected, coherent.saved, coherent.applied⟩
        · exact coherent
  | openSheet | editSheet field value | cancelSheet =>
      exact ⟨coherent.selected, coherent.saved, coherent.applied⟩
  | commitSheet =>
      show side.commitSheet.Coherent
      unfold NodeSide.commitSheet
      split
      · exact coherent
      · exact coherent_commit coherent.selected coherent.saved
  | save saved =>
      refine ⟨coherent.selected, ?_, coherent.applied⟩
      have some := List.length_pos_of_ne_nil listed
      rcases sound with rfl | ⟨list, index⟩
      · exact coherent.saved
      · show saved.active < saved.profiles.profiles.length
        rw [list]
        rcases index with old | working
        · rw [old]
          exact lt_of_le_of_lt (Nat.min_le_right _ _) (Nat.sub_lt some Nat.one_pos)
        · rw [working]
          exact lt_of_le_of_lt (Nat.min_le_right _ _) (Nat.sub_lt some Nat.one_pos)
  | revert =>
      show side.revert.Coherent
      unfold NodeSide.revert
      split
      · exact coherent
      · refine coherent_load (ProfileStore.filled_ne_nil _) coherent.saved
  | reload saved listed =>
      exact coherent.follow (GuiState.min_lt_length_filled _ _) sound.1 rfl

end NodeSide

/-! ## Reachable controllers -/

namespace Controller

variable {Digest : Type} {env : Env Digest} {storage : Storage} {moved : ConfigFile → Bool}

theorem coherent_new (env : Env Digest) (storage : Storage) (moved : ConfigFile → Bool) :
    (Controller.new env storage moved).nodeSide.Coherent := by
  have some := List.length_pos_of_ne_nil (listed_new env storage moved)
  refine ⟨min_pred_lt some, min_pred_lt some, fun profile shown => ?_⟩
  have loaded : (Controller.new env storage moved).nodeSide.draft = .fromProfile profile :=
    NodeSide.draftAt_of_row shown
  rw [loaded]
  exact DraftData.fromProfile_applyTo profile

theorem coherent_perform [DecidableEq Digest] {answers : Answers} {now : Nat}
    {controller after : Controller Digest} {operation : Operation}
    (coherent : controller.nodeSide.Coherent)
    (taken : operation.perform env answers now controller = some after) :
    after.nodeSide.Coherent := by
  rw [nodeSide_perform taken]
  cases happens : operation.nodeEvent env answers now controller with
  | none => exact coherent
  | some event => exact coherent.take (sound_nodeEvent coherent.saved happens)

end Controller

theorem coherent_of_reachable {Digest : Type} [DecidableEq Digest] {env : Env Digest}
    {storage : Storage} {moved : ConfigFile → Bool} {world : World Digest}
    (reached : Reachable (step env) (World.start env storage moved) world) :
    world.controller.nodeSide.Coherent :=
  World.invariant (Controller.coherent_new env storage moved)
    (fun _ _ _ _ _ coherent taken => Controller.coherent_perform coherent taken)
    (fun _ _ coherent => coherent) reached

end Juicity.Gui
