import Juicity.Gui.Coding
import Juicity.Gui.Controller.Reload
import Juicity.Machine.Potential

/-!
Owns `watch_config_dir` of `gui/src/ui/bind/mod.rs`: the watcher's callback, the
flag that lets it post one reload check at a time, and the check on the UI
thread, which reads the three files one after the other. Other programs and the
application itself write the files at any moment in between.

Contract: no edit is missed. The check clears the flag before it reads, so an
edit after a read raises another check, and when nothing is left to do the
application has looked at the last content of every file.
-/

namespace Juicity.Gui.ConfigWatch

open Juicity.Common
open Juicity.Machine

/-! ## Watcher events -/

/-- `notify::EventKind`, without its details. -/
inductive EventKind where
  | any
  | access
  | create
  | modify
  | remove
  | other
deriving DecidableEq

/-- A watcher event: the file names of its paths, none where there is none or it is no
Unicode. -/
structure Event where
  kind : EventKind
  names : List (Option String)
deriving DecidableEq

/-- `CONFIG_FILES`. -/
def configFiles : List String := ["app.json", "profiles.json", "runtime.json"]

/-- The names of `ConfigPaths::in_dir`. -/
def fileName : ConfigFile → String
  | .app => "app.json"
  | .profiles => "profiles.json"
  | .runtime => "runtime.json"

/-- Access events are ignored: a check's own reads would raise the next check. -/
def EventKind.changes : EventKind → Bool
  | .create | .modify | .remove => true
  | .any | .access | .other => false

/-- Whether an event may have changed a config file. -/
def isConfigChange (event : Event) : Bool :=
  event.kind.changes &&
    event.names.any fun name => name.any fun name => configFiles.contains name

/-- The event tells of a change of the file. -/
def Event.reports (event : Event) (file : ConfigFile) : Bool :=
  event.kind.changes && event.names.contains (some (fileName file))

theorem configFiles_contains (file : ConfigFile) :
    configFiles.contains (fileName file) = true := by
  cases file with
  | app => decide
  | profiles => decide
  | runtime => decide

theorem isConfigChange_of_reports {event : Event} {file : ConfigFile}
    (reports : event.reports file = true) : isConfigChange event = true := by
  obtain ⟨kind, named⟩ := (Bool.and_eq_true _ _).mp reports
  have listed : (some (fileName file)) ∈ event.names := by simpa using named
  exact (Bool.and_eq_true _ _).mpr
    ⟨kind, List.any_eq_true.mpr ⟨_, listed, configFiles_contains file⟩⟩

/-! ## The watcher and the UI thread -/

/-- The watcher's callback between its `swap` and its `post`. -/
inductive Callback where
  | waiting
  | posting
deriving DecidableEq

/-- What the UI thread runs: nothing, a posted check that still has the flag to clear,
or a check with the files it has yet to read. -/
inductive Ui where
  | idle
  | clearing
  | reading (file : ConfigFile) (left : List ConfigFile)
deriving DecidableEq

/-- `app` is what a check works on; its storage is the directory. -/
structure State (Digest : Type) where
  app : Reload Digest
  events : List Event
  callback : Callback
  reloadPending : Bool
  posted : Nat
  ui : Ui

/-- The directory is watched, and `watch_config_dir` starts a check. -/
def initial {Digest : Type} (app : Reload Digest) : State Digest where
  app := app
  events := []
  callback := .waiting
  reloadPending := false
  posted := 0
  ui := .reading .app [.profiles, .runtime]

/-- `edit` is a change by another program with the event that tells of it, `notice` any
event at all. -/
inductive Action where
  | edit (file : ConfigFile) (content : Option Bytes) (event : Event)
  | notice (event : Event)
  | mark (file : ConfigFile) (now : Nat)
  | write (file : ConfigFile) (outcome : Except String Unit)
  | deliver
  | post
  | begin
  | clear
  | read (now : Nat)

variable {Digest : Type}

/-- The files of the directory. -/
def State.files (state : State Digest) : Files := state.app.gui.storage.files

def setFile (app : Reload Digest) (file : ConfigFile) (content : Option Bytes) : Reload Digest :=
  { app with gui := { app.gui with storage := { app.gui.storage with
      files := Function.update app.gui.storage.files file content } } }

/-- `Persist::write` by an operation of the controller. -/
def writeFile (env : Env Digest) (app : Reload Digest) (file : ConfigFile)
    (outcome : Except String Unit) : Reload Digest :=
  match app.persist.write env file app.gui app.saved outcome with
  | (persist, storage, _) => { app with persist, gui := { app.gui with storage } }

variable [DecidableEq Digest]

/-- One action. Operations of the controller and checks run on the UI thread, one after
the other. -/
def step (env : Env Digest) (state : State Digest) : Action → Option (State Digest)
  | .edit file content event =>
      if event.reports file then
        some { state with
          app := setFile state.app file content
          events := state.events ++ [event] }
      else none
  | .notice event => some { state with events := state.events ++ [event] }
  | .mark file now =>
      match state.ui with
      | .idle => some { state with
          app := { state.app with persist := state.app.persist.mark file now } }
      | _ => none
  | .write file outcome =>
      match state.ui with
      | .idle => some { state with app := writeFile env state.app file outcome }
      | _ => none
  | .deliver =>
      match state.callback, state.events with
      | .waiting, event :: events =>
          if isConfigChange event && !state.reloadPending then
            some { state with events := events, callback := .posting, reloadPending := true }
          else
            some { state with events := events }
      | _, _ => none
  | .post =>
      match state.callback with
      | .posting => some { state with callback := .waiting, posted := state.posted + 1 }
      | .waiting => none
  | .begin =>
      match state.ui, state.posted with
      | .idle, waiting + 1 => some { state with posted := waiting, ui := .clearing }
      | _, _ => none
  | .clear =>
      match state.ui with
      | .clearing => some { state with
          app := { state.app with reloaded := [] }
          reloadPending := false
          ui := .reading .app [.profiles, .runtime] }
      | _ => none
  | .read now =>
      match state.ui with
      | .reading file left => some { state with
          app := Persist.reloadFile env now state.app file
          ui :=
            match left with
            | [] => .idle
            | next :: later => .reading next later }
      | _ => none

/-- The steps of the application, which need no other program and no event. -/
def Action.internal : Action → Bool
  | .deliver | .post | .begin | .clear | .read _ => true
  | .edit .. | .notice _ | .mark .. | .write .. => false

/-- A check that nobody edits under is the reload of the controller. -/
theorem exec_check (env : Env Digest) (state : State Digest) (now : Nat)
    (clearing : state.ui = .clearing) :
    exec (step env) state [.clear, .read now, .read now, .read now] = some { state with
      app := state.app.persist.reloadChanged env state.app.gui state.app.saved now
      reloadPending := false
      ui := .idle } := by
  simp only [exec, step, clearing, Option.bind_some]
  rfl

/-! ## Invariant -/

/-- The check the callback is about to post. -/
def Callback.holds : Callback → Nat
  | .posting => 1
  | .waiting => 0

/-- The check that has begun and still has the flag to clear. -/
def Ui.holds : Ui → Nat
  | .clearing => 1
  | .idle | .reading _ _ => 0

/-- The checks that still have the flag to clear. -/
def queued (state : State Digest) : Nat :=
  state.callback.holds + state.posted + state.ui.holds

/-- The files a check has yet to read. -/
def Ui.unread : Ui → List ConfigFile
  | .reading file left => file :: left
  | .idle | .clearing => []

/-- The flag counts the queued checks, and a content the application has not looked at
is ahead of a reader or has an event or a check on its way. -/
structure Watched (env : Env Digest) (state : State Digest) : Prop where
  flagged : queued state = if state.reloadPending then 1 else 0
  noticed : ∀ file content, state.files file = some content →
    state.app.persist.known file = some (env.contentHash content) ∨
      file ∈ state.ui.unread ∨ (∃ event ∈ state.events, isConfigChange event = true) ∨
        state.reloadPending = true

/-- A check reads every file. -/
theorem mem_unread (file : ConfigFile) :
    file ∈ (Ui.reading .app [.profiles, .runtime]).unread := by
  cases file with
  | app => decide
  | profiles => decide
  | runtime => decide

section Preservation

variable {env : Env Digest} {state after : State Digest}

omit [DecidableEq Digest] in
theorem watched_initial (app : Reload Digest) : Watched env (initial app) where
  flagged := rfl
  noticed := by
    intro file content _
    exact .inr (.inl (mem_unread file))

omit [DecidableEq Digest] in
/-- A write of the application leaves each file as it was or known. -/
theorem writeFile_cases (env : Env Digest) (app : Reload Digest) (file other : ConfigFile)
    (outcome : Except String Unit) :
    ((writeFile env app file outcome).gui.storage.files other = app.gui.storage.files other ∧
      (writeFile env app file outcome).persist.known other = app.persist.known other) ∨
    ∃ content, (writeFile env app file outcome).gui.storage.files other = some content ∧
      (writeFile env app file outcome).persist.known other = some (env.contentHash content) := by
  cases outcome with
  | error error => exact .inl ⟨rfl, rfl⟩
  | ok result =>
      by_cases same : other = file
      · subst same
        exact .inr ⟨_, Function.update_self .., Function.update_self ..⟩
      · exact .inl ⟨Function.update_of_ne same .., Function.update_of_ne same ..⟩

theorem files_reloadFile (app : Reload Digest) (now : Nat) (file : ConfigFile) :
    (Persist.reloadFile env now app file).gui.storage.files = app.gui.storage.files := by
  rw [Persist.reloadFile_eq]
  split
  · unfold Persist.loadInto
    split
    · rfl
    · rfl
  · rfl

/-- A file that was looked at is known, and nothing is forgotten of the others. -/
theorem known_reloadFile (app : Reload Digest) (now : Nat) (file other : ConfigFile) :
    (Persist.reloadFile env now app file).persist.known other =
      if other = file then
        ((app.gui.storage.files file).map env.contentHash).or (app.persist.known file)
      else app.persist.known other := by
  have known := @Persist.looked_known Digest _ env app.persist now app.gui.storage.files file other
  rw [← known, Persist.reloadFile_eq]
  split
  · rfl
  · rfl

theorem Watched.preserved {action : Action} (watched : Watched env state)
    (taken : step env state action = some after) : Watched env after := by
  obtain ⟨flagged, noticed⟩ := watched
  cases action with
  | edit file content event =>
      simp only [step] at taken
      split at taken
      · rename_i reports
        obtain rfl := Option.some.inj taken
        refine ⟨flagged, fun other bytes held => ?_⟩
        exact .inr (.inr (.inl ⟨event, by simp, isConfigChange_of_reports reports⟩))
      · cases taken
  | notice event =>
      obtain rfl := Option.some.inj taken
      refine ⟨flagged, fun file content held => ?_⟩
      rcases noticed file content held with known | unread | ⟨told, member, change⟩ | pending
      · exact .inl known
      · exact .inr (.inl unread)
      · exact .inr (.inr (.inl ⟨told, List.mem_append_left _ member, change⟩))
      · exact .inr (.inr (.inr pending))
  | mark file now =>
      simp only [step] at taken
      split at taken
      · obtain rfl := Option.some.inj taken
        exact ⟨flagged, noticed⟩
      · cases taken
  | write file outcome =>
      simp only [step] at taken
      split at taken
      · obtain rfl := Option.some.inj taken
        refine ⟨flagged, fun other content held => ?_⟩
        rcases writeFile_cases env state.app file other outcome with
          ⟨same, known⟩ | ⟨written, there, known⟩
        · have before := noticed other content (same.symm.trans held)
          rw [← known] at before
          exact before
        · obtain rfl := Option.some.inj (there.symm.trans held)
          exact .inl known
      · cases taken
  | deliver =>
      simp only [step] at taken
      split at taken
      · rename_i event events waiting shape
        split at taken
        · rename_i fresh
          obtain ⟨change, unset⟩ := (Bool.and_eq_true _ _).mp fresh
          obtain rfl := Option.some.inj taken
          have clear : state.reloadPending = false := by simpa using unset
          refine ⟨?_, fun file content held => .inr (.inr (.inr rfl))⟩
          rw [clear, queued, waiting] at flagged
          show 1 + state.posted + state.ui.holds = 1
          simp only [Callback.holds, Bool.false_eq_true, if_false] at flagged
          omega
        · rename_i stale
          obtain rfl := Option.some.inj taken
          refine ⟨flagged, fun file content held => ?_⟩
          rcases noticed file content held with known | unread | ⟨told, member, change⟩ | pending
          · exact .inl known
          · exact .inr (.inl unread)
          · rw [shape] at member
            rcases List.mem_cons.mp member with rfl | later
            · refine .inr (.inr (.inr ?_))
              show state.reloadPending = true
              by_contra unset
              exact stale (by simp [change, unset])
            · exact .inr (.inr (.inl ⟨told, later, change⟩))
          · exact .inr (.inr (.inr pending))
      · cases taken
  | post =>
      simp only [step] at taken
      split at taken
      · rename_i posting
        obtain rfl := Option.some.inj taken
        refine ⟨?_, noticed⟩
        show 0 + (state.posted + 1) + state.ui.holds = _
        rw [← flagged, queued, posting]
        simp only [Callback.holds]
        omega
      · cases taken
  | begin =>
      simp only [step] at taken
      split at taken
      · rename_i waiting idle posted
        obtain rfl := Option.some.inj taken
        refine ⟨?_, fun file content held => ?_⟩
        · show state.callback.holds + waiting + 1 = _
          rw [← flagged, queued, idle, posted]
          rfl
        · have before := noticed file content held
          rw [idle] at before
          exact before
      · cases taken
  | clear =>
      simp only [step] at taken
      split at taken
      · rename_i clearing
        obtain rfl := Option.some.inj taken
        refine ⟨?_, fun file content held => .inr (.inl (mem_unread file))⟩
        show state.callback.holds + state.posted + 0 = 0
        rw [queued, clearing] at flagged
        simp only [Ui.holds] at flagged
        split at flagged
        · omega
        · omega
      · cases taken
  | read now =>
      simp only [step] at taken
      split at taken
      · rename_i file left reading
        obtain rfl := Option.some.inj taken
        refine ⟨?_, fun other content held => ?_⟩
        · rw [← flagged]
          cases left with
          | nil => simp [queued, reading, Ui.holds]
          | cons next later => simp [queued, reading, Ui.holds]
        · have unread : ∀ left : List ConfigFile,
              (match left with
                | [] => Ui.idle
                | next :: later => Ui.reading next later).unread = left := by
            intro left
            cases left with
            | nil => rfl
            | cons next later => rfl
          dsimp only [State.files] at held ⊢
          rw [files_reloadFile] at held
          rw [known_reloadFile, unread]
          by_cases same : other = file
          · subst same
            rw [if_pos rfl, held]
            exact .inl rfl
          · rw [if_neg same]
            have before := noticed other content held
            rw [reading] at before
            rcases before with known | ahead | rest
            · exact .inl known
            · exact .inr (.inl ((List.mem_cons.mp ahead).resolve_left same))
            · exact .inr (.inr rest)
      · cases taken

end Preservation

/-! ## Catching up -/

/-- What is left to do for the check that runs. -/
def Ui.left : Ui → Nat
  | .idle => 0
  | .clearing => 4
  | .reading _ left => left.length + 1

/-- What is left to do when no more events come. -/
def left (state : State Digest) : Nat :=
  7 * state.events.length + 6 * state.callback.holds + 5 * state.posted + state.ui.left

/-- Nothing is left to do. -/
structure Settled (state : State Digest) : Prop where
  events : state.events = []
  callback : state.callback = .waiting
  posted : state.posted = 0
  ui : state.ui = .idle

section CatchingUp

variable {env : Env Digest} {state after : State Digest}

theorem left_of_internal {action : Action} (internal : action.internal = true)
    (taken : step env state action = some after) : 1 + left after ≤ left state := by
  cases action with
  | edit | notice | mark | write => cases internal
  | deliver =>
      simp only [step] at taken
      split at taken
      · rename_i event events waiting shape
        split at taken
        · obtain rfl := Option.some.inj taken
          simp only [left, waiting, shape, Callback.holds, List.length_cons]
          omega
        · obtain rfl := Option.some.inj taken
          simp only [left, waiting, shape, Callback.holds, List.length_cons]
          omega
      · cases taken
  | post =>
      simp only [step] at taken
      split at taken
      · rename_i posting
        obtain rfl := Option.some.inj taken
        simp only [left, posting, Callback.holds]
        omega
      · cases taken
  | begin =>
      simp only [step] at taken
      split at taken
      · rename_i waiting idle posted
        obtain rfl := Option.some.inj taken
        simp only [left, idle, posted, Ui.left]
        omega
      · cases taken
  | clear =>
      simp only [step] at taken
      split at taken
      · rename_i clearing
        obtain rfl := Option.some.inj taken
        simp only [left, clearing, Ui.left, List.length_cons, List.length_nil]
        omega
      · cases taken
  | read now =>
      simp only [step] at taken
      split at taken
      · rename_i file later reading
        obtain rfl := Option.some.inj taken
        cases later with
        | nil =>
            simp only [left, reading, Ui.left, List.length_nil]
            omega
        | cons next later =>
            simp only [left, reading, Ui.left, List.length_cons]
            omega
      · cases taken

omit [DecidableEq Digest] in
theorem Watched.known_of_settled (watched : Watched env state) (settled : Settled state)
    {file : ConfigFile} {content : Bytes} (held : state.files file = some content) :
    state.app.persist.known file = some (env.contentHash content) := by
  have unset : state.reloadPending = false := by
    have flagged := watched.flagged
    rw [queued, settled.callback, settled.posted, settled.ui] at flagged
    cases pending : state.reloadPending with
    | false => rfl
    | true =>
        rw [pending] at flagged
        cases flagged
  rcases watched.noticed file content held with known | unread | ⟨event, member, -⟩ | pending
  · exact known
  · rw [settled.ui] at unread
    cases unread
  · rw [settled.events] at member
    cases member
  · rw [unset] at pending
    cases pending

/-- As long as something is left to do, the watcher or the UI thread can go on. -/
theorem settled_or_goes (env : Env Digest) (state : State Digest) :
    Settled state ∨ ∃ action, action.internal = true ∧ (step env state action).isSome = true := by
  cases callback : state.callback with
  | posting => exact .inr ⟨.post, rfl, by simp only [step, callback]; rfl⟩
  | waiting =>
      cases events : state.events with
      | cons event events =>
          refine .inr ⟨.deliver, rfl, ?_⟩
          simp only [step, callback, events]
          split
          · rfl
          · rfl
      | nil =>
          cases ui : state.ui with
          | clearing => exact .inr ⟨.clear, rfl, by simp only [step, ui]; rfl⟩
          | reading file left => exact .inr ⟨.read 0, rfl, by simp only [step, ui]; rfl⟩
          | idle =>
              cases posted : state.posted with
              | zero => exact .inl ⟨events, callback, posted, ui⟩
              | succ waiting => exact .inr ⟨.begin, rfl, by simp only [step, ui, posted]; rfl⟩

/-- In every run, whatever other programs and the application write while checks are
posted and run: at most one check waits for the UI thread; once no more events come, the
application has only a bounded number of steps left, goes on until it is done, and has
then looked at the content of every file. No edit is missed. -/
theorem caughtUp_of_run (env : Env Digest) (app : Reload Digest)
    (history : List (State Digest × Action)) (state : State Digest)
    (run : Run (step env) (initial app) history state) :
    queued state ≤ 1 ∧
      ∀ more final, Run (within Action.internal (step env)) state more final →
        more.length ≤ left state ∧
          (Settled final ∨
            ∃ action, action.internal = true ∧ (step env final action).isSome = true) ∧
          (Settled final → ∀ file content, final.files file = some content →
            final.app.persist.known file = some (env.contentHash content)) := by
  have watched : Watched env state :=
    Reachable.invariant (watched_initial app) (fun _ _ _ held taken => held.preserved taken)
      ⟨history, run⟩
  refine ⟨?_, fun more final later => ?_⟩
  · rw [watched.flagged]
    split
    · exact Nat.le_refl 1
    · exact Nat.zero_le 1
  · have spends : ∀ state action after, Watched env state →
        within Action.internal (step env) state action = some after →
          (fun _ : Action => 1) action + left after ≤ left state := by
      intro state action after _ taken
      obtain ⟨internal, stepped⟩ := within_eq_some.mp taken
      exact left_of_internal internal stepped
    obtain ⟨spent, held⟩ := later.spent_le watched
      (fun _ _ _ held taken => held.preserved (within_eq_some.mp taken).2) spends
    rw [spent_one] at spent
    exact ⟨by omega, settled_or_goes env final,
      fun settled file content there => held.known_of_settled settled there⟩

end CatchingUp

/-- What the application holds when it has loaded a directory. -/
def loadedApp (env : Env Digest) (storage : Storage) : Reload Digest :=
  let loaded := GuiState.loadTracked env.serde storage fun _ => true
  ⟨.new env loaded.2, loaded.1, .new loaded.1, []⟩

/-- The list is edited again while the check that its first edit raised reads the files. -/
def editDuringCheck : List Action :=
  [.read 0, .read 0, .read 0, .edit .profiles (some [1]) ⟨.modify, [some "profiles.json"]⟩,
    .deliver, .post, .begin, .clear, .read 1, .read 1,
    .edit .profiles (some [2]) ⟨.modify, [some "profiles.json"]⟩]

theorem caughtUp_of_run_edited :
    ∃ state final more, exec (step nodesEnv) (initial (loadedApp nodesEnv nodesStorage))
        editDuringCheck = some state ∧ left state = 8 ∧
      Run (within Action.internal (step nodesEnv)) state more final ∧ more.length ≤ 8 ∧
        final.app.persist.known .profiles = some (nodesEnv.contentHash [2]) := by
  have executed : (exec (step nodesEnv) (initial (loadedApp nodesEnv nodesStorage))
      editDuringCheck).any (fun state => left state = 8 &&
        (exec (within Action.internal (step nodesEnv)) state
          [.read 2, .deliver, .post, .begin, .clear, .read 3, .read 3, .read 3]).any fun final =>
            final.events.isEmpty && final.callback = .waiting && final.posted = 0 &&
              final.ui = .idle && final.files .profiles = some [2]) = true := by
    decide +kernel
  obtain ⟨state, ended, facts⟩ := (Option.any_eq_true _ _).mp executed
  obtain ⟨bound, facts⟩ := (Bool.and_eq_true _ _).mp facts
  obtain ⟨final, finished, facts⟩ := (Option.any_eq_true _ _).mp facts
  simp only [Bool.and_eq_true, decide_eq_true_eq, List.isEmpty_iff] at facts
  obtain ⟨⟨⟨⟨events, callback⟩, posted⟩, ui⟩, edited⟩ := facts
  obtain ⟨-, later⟩ := caughtUp_of_run nodesEnv _ _ state (run_trace ended)
  have steps : left state = 8 := of_decide_eq_true bound
  obtain ⟨few, -, known⟩ := later _ final (run_trace finished)
  exact ⟨state, final, _, ended, steps, run_trace finished, steps ▸ few,
    known ⟨events, callback, posted, ui⟩ .profiles [2] edited⟩

end Juicity.Gui.ConfigWatch
