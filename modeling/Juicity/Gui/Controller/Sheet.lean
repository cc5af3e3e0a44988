import Juicity.Gui.Coding
import Juicity.Gui.Controller.Indices

/-!
Contract: the Advanced sheet and the node it was opened for. A commit changes the
selected row only, and there the advanced fields only; so it reaches the right node
as long as no operation shows another node and leaves the sheet open.
-/

namespace Juicity.Gui

open Juicity.Common Juicity.Machine

/-- Two profiles that differ in the fields of the Advanced sheet at most. -/
structure StoredProfile.SameBasics (profile other : StoredProfile) : Prop where
  name : other.name = profile.name
  protocol : other.protocol = profile.protocol
  server : other.server = profile.server
  serverPort : other.serverPort = profile.serverPort
  password : other.password = profile.password
  uuid : other.uuid = profile.uuid
  method : other.method = profile.method
  configPath : other.configPath = profile.configPath
  link : other.link = profile.link

theorem StoredProfile.SameBasics.refl (profile : StoredProfile) : profile.SameBasics profile :=
  ⟨rfl, rfl, rfl, rfl, rfl, rfl, rfl, rfl, rfl⟩

/-- A draft that took fields from a sheet writes the advanced fields of its row only. -/
theorem DraftData.sameBasics_takeAdvanced {draft : DraftData} {profile : StoredProfile}
    (applied : draft.applyTo profile = profile) (sheet : DraftData) :
    profile.SameBasics ((draft.takeAdvanced sheet).applyTo profile) where
  name := (congrArg (fun row : StoredProfile => row.name) applied :)
  protocol := (congrArg (fun row : StoredProfile => row.protocol) applied :)
  server := (congrArg (fun row : StoredProfile => row.server) applied :)
  serverPort := (congrArg (fun row : StoredProfile => row.serverPort) applied :)
  password := (congrArg (fun row : StoredProfile => row.password) applied :)
  uuid := (congrArg (fun row : StoredProfile => row.uuid) applied :)
  method := (congrArg (fun row : StoredProfile => row.method) applied :)
  configPath := rfl
  link := rfl

namespace NodeSide

variable {side : NodeSide}

/-- Done writes into the selected row, the advanced fields only. -/
theorem Coherent.rows_commitSheet (coherent : side.Coherent) :
    (∀ i, i ≠ side.selected → side.commitSheet.row i = side.row i) ∧
      ∀ i profile, side.row i = some profile →
        ∃ changed, side.commitSheet.row i = some changed ∧ profile.SameBasics changed := by
  unfold commitSheet
  cases opened : side.advanced with
  | none => exact ⟨fun _ _ => rfl, fun _ profile held => ⟨profile, held, .refl profile⟩⟩
  | some sheet =>
      dsimp only
      obtain ⟨shown, here⟩ : ∃ shown, side.row side.selected = some shown :=
        ⟨_, List.getElem?_eq_getElem coherent.selected⟩
      have there : ({ side with
          advanced := none
          draft := side.draft.takeAdvanced sheet } : NodeSide).row side.selected = some shown := here
      have written (i : Nat) : ({ side with
          advanced := none
          draft := side.draft.takeAdvanced sheet } : NodeSide).commit.row i =
            (side.rows.set side.selected
              ((side.draft.takeAdvanced sheet).applyTo shown))[i]? :=
        congrArg (fun side : NodeSide => side.row i) (commit_of_row there)
      refine ⟨fun i other => ?_, fun i profile held => ?_⟩
      · rw [written, List.getElem?_set_ne other.symm]
        rfl
      · rw [written]
        by_cases same : i = side.selected
        · rw [same, List.getElem?_set_self coherent.selected]
          rw [same, here] at held
          obtain rfl := Option.some.inj held
          exact ⟨_, rfl, DraftData.sameBasics_takeAdvanced (coherent.applied shown here) sheet⟩
        · rw [List.getElem?_set_ne (Ne.symm same)]
          exact ⟨profile, held, .refl profile⟩

/-- The event does not show another row by one of the ways that leave the sheet open. -/
def KeepsSheet (side : NodeSide) : NodeEvent → Prop
  | .select index => index = side.selected ∨ side.rows.length ≤ index
  | .append _ => False
  | .command index .duplicate => side.rows.length ≤ index
  | .command index .delete => index ≠ side.selected ∨ side.rows.length = 1
  | _ => True

theorem advanced_command (index : Nat) (command : ListCommand) :
    (side.command index command).advanced = side.advanced := by
  rcases command_cases side index command with ⟨same, -⟩ | ⟨rows, remap, -, -, edited⟩
  · rw [same]
  · rw [edited]
    dsimp only
    split
    · rfl
    · split
      · rfl
      · rfl

end NodeSide

namespace Names

variable {names : Names} {side : NodeSide}

/-- The sheet is open for the row that the draft was loaded from. -/
def OwnsSheet (names : Names) (side : NodeSide) : Prop :=
  side.advanced.isSome → names.sheet = names.draft

theorem OwnsSheet.command (owns : names.OwnsSheet side) (tracks : names.Tracks side) {index : Nat}
    {command : ListCommand}
    (keeps : side.advanced.isSome → side.KeepsSheet (.command index command)) :
    (names.command side index command).OwnsSheet (side.command index command) := by
  intro opened
  rw [NodeSide.advanced_command] at opened
  rcases command_cases tracks index command with ⟨same, -⟩ | ⟨rows, remap, moved, -⟩
  · rw [same]
    exact owns opened
  · have duplicates : command ≠ .duplicate := by
      rintro rfl
      exact Nat.not_lt_of_le (keeps opened) moved.inside
    have deletes : ¬(command = .delete ∧ side.selected = index) := by
      rintro ⟨rfl, rfl⟩
      rcases keeps opened with other | single
      · exact other rfl
      · exact several_of_delete moved.done rfl single
    rw [moved.sheet, moved.draft, if_neg duplicates, if_neg deletes]
    exact owns opened

/-- A sheet stays with its node when the event keeps it. -/
theorem OwnsSheet.take (owns : names.OwnsSheet side) (tracks : names.Tracks side)
    (coherent : side.Coherent) {event : NodeEvent} (sound : side.Sound event)
    (keeps : side.advanced.isSome → side.KeepsSheet event) :
    (names.take side event).OwnsSheet (side.take event) := by
  cases event with
  | select index =>
      show OwnsSheet (if _ then _ else _) (if _ then _ else _)
      by_cases stays : index = side.selected ∨ index ≥ side.rows.length
      · rw [if_pos stays, if_pos stays]
        exact owns
      · rw [if_neg stays, if_neg stays]
        exact fun opened => absurd (keeps opened) stays
  | append added => exact fun opened => (keeps opened).elim
  | command index command => exact owns.command tracks keeps
  | edit field value =>
      intro opened
      rw [show side.take (.edit field value) = NodeSide.commit _ from rfl,
        NodeSide.advanced_commit] at opened
      exact owns opened
  | activate index =>
      show names.OwnsSheet (side.activate index)
      unfold NodeSide.activate
      split
      · exact owns
      · split
        · exact owns
        · exact owns
  | openSheet => exact fun _ => tracks.draft.symm
  | editSheet field value =>
      intro opened
      exact owns (by rw [← Option.isSome_map]; exact opened)
  | commitSheet =>
      intro opened
      have shut : (side.take .commitSheet).advanced = none := by
        show side.commitSheet.advanced = none
        unfold NodeSide.commitSheet
        cases held : side.advanced with
        | none => exact held
        | some sheet =>
            dsimp only
            rw [NodeSide.advanced_commit]
      rw [shut] at opened
      cases opened
  | cancelSheet => exact fun opened => nomatch opened
  | save saved =>
      intro opened
      show (if _ then _ else _ : Names).sheet = (if _ then _ else _ : Names).draft
      split
      · exact owns opened
      · exact owns opened
  | revert =>
      show OwnsSheet (if _ then _ else _) side.revert
      unfold NodeSide.revert
      cases edited : side.dirty with
      | false => exact owns
      | true => exact fun opened => nomatch opened
  | reload saved listed =>
      have step := reloaded_reload tracks coherent sound
      show OwnsSheet (names.reload side saved listed) (side.reload saved listed)
      generalize names.reload side saved listed = after at step ⊢
      generalize side.reload saved listed = shown at step ⊢
      cases step with
      | unread | edited | followed => exact owns
      | loaded => exact fun opened => nomatch opened

/-- A sheet that is not kept is open for another node than the one shown. -/
theorem not_ownsSheet_take (owns : names.OwnsSheet side) (tracks : names.Tracks side)
    (coherent : side.Coherent) {event : NodeEvent} (opened : side.advanced.isSome)
    (moves : ¬side.KeepsSheet event) :
    ¬(names.take side event).OwnsSheet (side.take event) := by
  have bound : side.selected < names.working.length := by
    rw [tracks.working]
    exact coherent.selected
  have owner : names.sheet = some names.working[side.selected] := by
    rw [owns opened, tracks.draft, List.getElem?_eq_getElem bound]
  have used : names.working[side.selected] < names.next :=
    tracks.used _ (List.getElem_mem bound)
  cases event with
  | select index =>
      obtain ⟨other, inside⟩ := not_or.mp moves
      have known : index < names.working.length := by
        rw [tracks.working]
        exact Nat.lt_of_not_le inside
      have leaves : ¬(index = side.selected ∨ index ≥ side.rows.length) := moves
      show ¬OwnsSheet (if _ then _ else _) (if _ then _ else _)
      rw [if_neg leaves, if_neg leaves]
      intro owned
      have same : some names.working[side.selected] = names.working[index]? :=
        owner.symm.trans (owned opened)
      rw [← List.getElem?_eq_getElem bound] at same
      exact other ((List.getElem?_inj bound tracks.distinct).mp same).symm
  | append added =>
      intro owned
      have same : names.sheet = some names.next := owned opened
      rw [owner] at same
      exact Nat.ne_of_lt used (Option.some.inj same)
  | command index command =>
      intro owned
      have still : (side.command index command).advanced.isSome := by
        rw [NodeSide.advanced_command]
        exact opened
      have same : (names.command side index command).sheet =
        (names.command side index command).draft := owned still
      cases command with
      | moveUp | moveDown => exact absurd trivial moves
      | duplicate =>
          rcases command_cases tracks index .duplicate with
            ⟨-, -, outside | none⟩ | ⟨rows, remap, moved, -⟩
          · exact moves outside
          · exact duplicate_ne_none (Nat.lt_of_not_le moves) none
          · rw [moved.sheet, moved.draft, if_pos rfl, owner] at same
            exact Nat.ne_of_lt used (Option.some.inj same)
      | delete =>
          obtain ⟨here, several⟩ := not_or.mp moves
          have here := not_not.mp here
          rcases command_cases tracks index .delete with
            ⟨-, -, outside | none⟩ | ⟨rows, remap, moved, -⟩
          · rw [here] at outside
            exact Nat.not_lt_of_le outside coherent.selected
          · exact delete_ne_none several none
          · rw [moved.sheet, moved.draft, if_neg (by decide), if_pos ⟨rfl, here.symm⟩, owner] at same
            have gone := moved.gone rfl _ (List.mem_of_getElem? same.symm)
            rw [here, List.getElem?_eq_getElem bound] at gone
            exact gone rfl
  | edit | activate | openSheet | editSheet | commitSheet | cancelSheet | save | revert | reload =>
      exact absurd trivial moves

end Names

/-! ## The sheet in a run -/

section Runs

variable {Digest : Type}

/-- Done changes the node that the sheet was opened for, and there the advanced fields
only; and a sheet that is open was opened for the selected node. -/
structure Tracked.SheetKept (tracked : Tracked Digest) : Prop where
  owner : tracked.world.controller.nodes.advanced.isSome →
    tracked.selectedNode = tracked.names.sheet
  others : ∀ i : Nat, tracked.names.working[i]? ≠ tracked.names.sheet →
    tracked.world.controller.commitAdvanced.gui.profiles.profiles[i]? = tracked.rows[i]?
  advancedOnly : ∀ (i : Nat) profile, tracked.rows[i]? = some profile →
    ∃ changed, tracked.world.controller.commitAdvanced.gui.profiles.profiles[i]? = some changed ∧
      profile.SameBasics changed

variable [DecidableEq Digest]

/-- With the sheet open, the operation does not show another node by one of the ways
that leave the sheet as it is. -/
def SheetSafe (env : Env Digest) (tracked : Tracked Digest) : Action → Prop
  | .perform operation answers now =>
      tracked.world.controller.nodes.advanced.isSome →
        ∀ event ∈ operation.nodeEvent env answers now tracked.world.controller,
          tracked.world.controller.nodeSide.KeepsSheet event
  | .external _ _ | .rules _ _ => True

variable {env : Env Digest} {storage : Storage} {moved : ConfigFile → Bool}
  {tracked after : Tracked Digest} {action : Action}

/-- The names fit the nodes, and the sheet is open for the node shown. -/
structure Tracked.Owned (tracked : Tracked Digest) : Prop where
  fits : tracked.Fits
  owns : tracked.names.OwnsSheet tracked.world.controller.nodeSide

omit [DecidableEq Digest] in
theorem Tracked.Owned.sheetKept (owned : tracked.Owned) : tracked.SheetKept := by
  obtain ⟨coherent, tracks⟩ := owned.fits
  have side := Controller.nodeSide_commitAdvanced tracked.world.controller
  obtain ⟨others, advancedOnly⟩ := coherent.rows_commitSheet
  have row (i : Nat) : tracked.world.controller.commitAdvanced.gui.profiles.profiles[i]? =
      tracked.world.controller.commitAdvanced.nodeSide.row i := rfl
  have owner : tracked.world.controller.nodes.advanced.isSome →
      tracked.selectedNode = tracked.names.sheet := fun opened =>
    tracks.draft.symm.trans (owned.owns opened).symm
  refine ⟨owner, fun i other => ?_, fun i profile held => ?_⟩
  · rw [row, side]
    split
    · by_cases opened : tracked.world.controller.nodes.advanced.isSome
      · refine others i fun here => other ?_
        rw [here]
        exact owner opened
      · have shut : tracked.world.controller.nodes.advanced = none := by
          simpa using opened
        rw [NodeSide.commitSheet, show tracked.world.controller.nodeSide.advanced = none from shut]
        rfl
    · rfl
  · rw [row, side]
    split
    · exact advancedOnly i profile held
    · exact ⟨profile, held, .refl profile⟩

theorem Tracked.Owned.step (owned : tracked.Owned) (safe : SheetSafe env tracked action)
    (taken : trackedStep env tracked action = some after) : after.Owned := by
  refine ⟨owned.fits.step taken, ?_⟩
  rcases trackedStep_cases taken with
    ⟨side, names⟩ | ⟨operation, answers, now, event, rfl, happens, side, names⟩
  · rw [side, names]
    exact owned.owns
  · rw [side, names]
    exact owned.owns.take owned.fits.tracks owned.fits.coherent
      (Controller.sound_nodeEvent owned.fits.coherent.saved happens)
      fun opened => safe opened event happens

/-- An operation that shows another node and leaves the sheet open breaks it. -/
theorem not_sheetKept_of_step (owned : tracked.Owned) (leaves : ¬SheetSafe env tracked action)
    (taken : trackedStep env tracked action = some after) : ¬after.SheetKept := by
  cases action with
  | perform operation answers now =>
      simp only [SheetSafe, Classical.not_imp, not_forall] at leaves
      obtain ⟨opened, event, happens, moves⟩ := leaves
      have change := nodeSide_tracked taken
      rw [happens] at change
      obtain ⟨side, names⟩ := change
      intro kept
      refine Names.not_ownsSheet_take owned.owns owned.fits.tracks owned.fits.coherent opened moves ?_
      rw [← side, ← names]
      intro still
      rw [(owned.fits.step taken).tracks.draft]
      exact (kept.owner still).symm
  | external file content => exact absurd trivial leaves
  | rules chinaList gfw => exact absurd trivial leaves

theorem sheetKept_iff_sheetSafe {history : List (Tracked Digest × Action)} {final : Tracked Digest}
    (run : Run (trackedStep env) (.start env storage moved) history final) :
    Everywhere Tracked.SheetKept history final ↔ Allowed (SheetSafe env) history :=
  run.everywhere_iff_allowed ⟨fits_start env storage moved, fun opened => nomatch opened⟩
    (fun _ _ _ owned safe taken => owned.step safe taken) (fun _ owned => owned.sheetKept)
    (fun _ _ _ owned moves taken => not_sheetKept_of_step owned moves taken)

end Runs

/-- The second of two nodes is active; the sheet is opened for it, and its checkbox for
insecure connections is set. -/
def sheetSchedule : List Action :=
  [.perform .openAdvanced .willing 0, .perform (.editAdvanced .allowInsecure "true") .willing 0]

/-- Another program writes a file before Done. -/
theorem sheetKept_iff_sheetSafe_done :
    ∃ history final, Run (trackedStep nodesEnv) (.start nodesEnv nodesStorage fun _ => false)
        history final ∧
      history.length = 4 ∧ (final.rows[1]?.map (·.allowInsecure)) = some true ∧
      (Everywhere Tracked.SheetKept history final ↔ Allowed (SheetSafe nodesEnv) history) := by
  have executed : ((exec (trackedStep nodesEnv) (.start nodesEnv nodesStorage fun _ => false)
      (sheetSchedule ++ [.external .app [], .perform .commitAdvanced .willing 1])).any fun final =>
        decide ((final.rows[1]?.map (·.allowInsecure)) = some true)) = true := by
    decide +kernel
  obtain ⟨final, ended, changed⟩ := (Option.any_eq_true _ _).mp executed
  have run := run_trace ended
  exact ⟨_, final, run, by decide +kernel, of_decide_eq_true changed, sheetKept_iff_sheetSafe run⟩

/-- The first node is selected while the sheet of the second is open: Done makes the
first node accept insecure connections. -/
theorem sheet_commits_to_other_node :
    ∃ history final, Run (trackedStep nodesEnv) (.start nodesEnv nodesStorage fun _ => false)
        history final ∧
      final.names.sheet = some 1 ∧ final.names.working = [0, 1] ∧
      (final.rows[0]?.map (·.allowInsecure)) = some false ∧
      (final.world.controller.commitAdvanced.gui.profiles.profiles[0]?.map (·.allowInsecure)) =
        some true ∧
      ¬Everywhere Tracked.SheetKept history final := by
  have executed : ((exec (trackedStep nodesEnv) (.start nodesEnv nodesStorage fun _ => false)
      (sheetSchedule ++ [.perform (.selectNode 0) .willing 1])).any fun final =>
        decide (final.names.sheet = some 1) && decide (final.names.working = [0, 1]) &&
          decide ((final.rows[0]?.map (·.allowInsecure)) = some false) &&
          decide ((final.world.controller.commitAdvanced.gui.profiles.profiles[0]?.map
            (·.allowInsecure)) = some true)) = true := by
    decide +kernel
  obtain ⟨final, ended, facts⟩ := (Option.any_eq_true _ _).mp executed
  simp only [Bool.and_eq_true, decide_eq_true_eq] at facts
  obtain ⟨⟨⟨sheet, working⟩, before⟩, committed⟩ := facts
  refine ⟨_, final, run_trace ended, sheet, working, before, committed, fun kept => ?_⟩
  have untouched := kept.2.others 0 (by rw [working, sheet]; decide)
  rw [untouched, before] at committed
  cases committed

end Juicity.Gui
