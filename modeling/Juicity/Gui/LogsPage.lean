import Juicity.Gui.LogBuffer
import Juicity.Machine.Published
import Juicity.Machine.Run

/-!
Owns the Logs page of `gui/src/ui/controller/logs.rs` and `gui/src/ui/bind/logs.rs`
over the log buffer. Any thread pushes lines: the line goes in under the lock, and
the version is raised after it. The UI thread compares versions to see whether it
has to copy the lines, and copies them one lock at a time. The steps of all threads
come in any order. A refresh that finds no new version misses no line, and one that
finds a new version leaves the page as the buffer is.
-/

namespace Juicity.Gui.LogsPage

open Juicity.Machine Juicity.Gui.Logging

/-! ## The page -/

structure LogRow where
  time : String
  level : String
  target : String
  message : String
deriving DecidableEq

/-- `Level::as_str`. -/
def levelStr : Level → String
  | .error => "ERROR"
  | .warn => "WARN"
  | .info => "INFO"
  | .debug => "DEBUG"
  | .trace => "TRACE"

def logRow (line : LogLine) : LogRow :=
  ⟨line.time, levelStr line.level, line.target, line.message⟩

/-- `i32::try_from`, or else `i32::MAX`. -/
def toI32 (count : Nat) : Nat := if count ≤ 2147483647 then count else 2147483647

/-- What the window shows. -/
structure LogStore where
  rows : List LogRow
  dropped : Nat
  follow : Bool
deriving DecidableEq

/-- Where the UI thread is in `clear_logs`, in `logs` and in `sync_logs`. -/
inductive Stage
  | idle
  | clearing
  | cleared
  | syncing
  | versioned (version : Nat)
  | collected (version : Nat) (lines : List LogLine)

/-- The buffer, the threads that have a version to raise, and the page. -/
structure World where
  log : Published Buffer
  writers : Nat
  follow : Bool
  seenLogs : Nat
  shownVersion : Option Nat
  store : LogStore
  stage : Stage

/-- The page as `LogsState::with_sources` makes it, over a buffer in use. -/
def World.start (log : Published Buffer) : World where
  log := log
  writers := log.unpublished
  follow := true
  seenLogs := log.version
  shownVersion := none
  store := ⟨[], 0, true⟩
  stage := .idle

inductive PageCall
  | refreshLogs
  | reloadLogs
  | clearLogs
  | setLogFollow (follow : Bool)

/-- The two steps of a push, a call of the page, and the next step of the UI thread in it. -/
inductive Action
  | event (secs : Nat) (event : Event)
  | publish
  | call (call : PageCall)
  | ui

/-- `sync_logs`, at the end of `logs`. -/
def World.syncLogs (world : World) (version : Nat) (lines : List LogLine) : World :=
  let rows := if world.shownVersion = some version then world.store.rows else lines.map logRow
  { world with
    shownVersion := some version
    store := ⟨rows, toI32 world.log.content.dropped, world.follow⟩
    stage := .idle }

/-- The next step of the UI thread. -/
def World.advance (world : World) : Option World :=
  match world.stage with
  | .idle => none
  | .clearing => world.log.publish.map fun log => { world with log, stage := .cleared }
  | .cleared => some { world with seenLogs := world.log.version, stage := .syncing }
  | .syncing => some { world with stage := .versioned world.log.version }
  | .versioned version => some { world with stage := .collected version world.log.content.lines }
  | .collected version lines => some (world.syncLogs version lines)

/-- A call of the page, when the UI thread is free. -/
def World.call (world : World) : PageCall → World
  | .refreshLogs =>
      let changed := world.log.version ≠ world.seenLogs
      { world with
        seenLogs := world.log.version
        stage := if changed then .syncing else .idle }
  | .reloadLogs =>
      { world with seenLogs := world.log.version, shownVersion := none, stage := .syncing }
  | .clearLogs => { world with log := world.log.change Buffer.clear, stage := .clearing }
  | .setLogFollow follow =>
      if world.follow = follow then world else { world with follow, stage := .syncing }

def step (world : World) : Action → Option World
  | .event secs event =>
      (onEvent secs event).map fun line =>
        { world with
          log := world.log.change (·.push line)
          writers := world.writers + 1 }
  | .publish =>
      if world.writers = 0 then none
      else world.log.publish.map fun log => { world with log, writers := world.writers - 1 }
  | .call call =>
      match world.stage with
      | .idle => some (world.call call)
      | _ => none
  | .ui => world.advance

/-- The page shows the lines of the buffer and how many were dropped. -/
structure UpToDate (store : LogStore) (buffer : Buffer) : Prop where
  rows : store.rows = buffer.lines.map logRow
  dropped : store.dropped = toI32 buffer.dropped

/-! ## What the page knows -/

/-- The version a `clear_logs` has still to raise. -/
def Stage.unpublished : Stage → Nat
  | .clearing => 1
  | _ => 0

/-- What a stage has read of the buffer. -/
def Stage.Read (log : Published Buffer) (seenLogs : Nat) : Stage → Prop
  | .idle | .clearing | .cleared | .syncing => True
  | .versioned version => seenLogs ≤ version ∧ version ≤ log.version
  | .collected version lines =>
      seenLogs ≤ version ∧ log.Seen version fun buffer => buffer.lines = lines

/-- What the page shows was read at its version or later, and an idle page has seen no version
after it. -/
structure Invariant (world : World) : Prop where
  balanced : world.log.unpublished = world.writers + world.stage.unpublished
  asked : world.seenLogs ≤ world.log.version
  read : world.stage.Read world.log world.seenLogs
  shown : ∀ version, world.shownVersion = some version →
    world.log.Seen version (UpToDate world.store)
  idle : world.stage = .idle → ∀ version, world.shownVersion = some version →
    world.seenLogs ≤ version

theorem invariant_start (log : Published Buffer) : Invariant (World.start log) where
  balanced := rfl
  asked := Nat.le_refl _
  read := trivial
  shown := nofun
  idle := nofun

theorem read_change {log : Published Buffer} {seenLogs : Nat} {stage : Stage}
    (read : stage.Read log seenLogs) (edit : Buffer → Buffer) :
    stage.Read (log.change edit) seenLogs := by
  cases stage with
  | idle | clearing | cleared | syncing => trivial
  | versioned version => exact read
  | collected version lines => exact ⟨read.1, read.2.change edit⟩

theorem read_publish {log after : Published Buffer} {seenLogs : Nat} {stage : Stage}
    (read : stage.Read log seenLogs) (taken : log.publish = some after) :
    stage.Read after seenLogs := by
  cases stage with
  | idle | clearing | cleared | syncing => trivial
  | versioned version =>
      refine ⟨read.1, Nat.le_trans read.2 ?_⟩
      rw [Published.version_publish taken]
      exact Nat.le_succ _
  | collected version lines => exact ⟨read.1, read.2.publish taken⟩

theorem step_call {world : World} (idle : world.stage = .idle) (call : PageCall) :
    step world (.call call) = some (world.call call) := by
  rw [step, idle]

/-- A call comes only when the UI thread is free. -/
theorem call_of_step {world after : World} {call : PageCall}
    (taken : step world (.call call) = some after) :
    world.stage = .idle ∧ after = world.call call := by
  cases here : world.stage with
  | idle =>
      rw [step_call here] at taken
      exact ⟨rfl, (Option.some.inj taken).symm⟩
  | clearing | cleared | syncing | versioned _ | collected _ _ =>
      rw [step, here] at taken
      cases taken

theorem Invariant.event {world : World} (invariant : Invariant world) (line : LogLine) :
    Invariant { world with
      log := world.log.change (·.push line)
      writers := world.writers + 1 } where
  balanced := by
    have balanced := invariant.balanced
    show world.log.unpublished + 1 = world.writers + 1 + world.stage.unpublished
    omega
  asked := invariant.asked
  read := read_change invariant.read _
  shown := fun version loaded => (invariant.shown version loaded).change (·.push line)
  idle := invariant.idle

theorem Invariant.publish {world : World} {log : Published Buffer} (invariant : Invariant world)
    (writing : world.writers ≠ 0) (taken : world.log.publish = some log) :
    Invariant { world with log, writers := world.writers - 1 } where
  balanced := by
    have before := invariant.balanced
    have after := Published.unpublished_publish taken
    show log.unpublished = world.writers - 1 + world.stage.unpublished
    omega
  asked := by
    have asked := invariant.asked
    have raised := Published.version_publish taken
    show world.seenLogs ≤ log.version
    omega
  read := read_publish invariant.read taken
  shown := fun version loaded => (invariant.shown version loaded).publish taken
  idle := invariant.idle

theorem Invariant.call {world : World} (invariant : Invariant world) (idle : world.stage = .idle)
    (call : PageCall) : Invariant (world.call call) := by
  have balanced := invariant.balanced
  rw [idle] at balanced
  cases call with
  | refreshLogs =>
      by_cases same : world.log.version = world.seenLogs
      · have kept : world.call .refreshLogs = world := by
          cases world
          simp_all [World.call]
        rw [kept]
        exact invariant
      · refine ⟨?_, Nat.le_refl _, ?_, invariant.shown, ?_⟩
        all_goals simp only [World.call, ne_eq, same, not_false_eq_true, if_true]
        · exact balanced
        · trivial
        · nofun
  | reloadLogs => exact ⟨balanced, Nat.le_refl _, trivial, nofun, nofun⟩
  | clearLogs =>
      refine ⟨?_, invariant.asked, trivial, ?_, nofun⟩
      · show world.log.unpublished + 1 = world.writers + 1
        exact congrArg (· + 1) balanced
      · exact fun version loaded => (invariant.shown version loaded).change Buffer.clear
  | setLogFollow follow =>
      show Invariant (if world.follow = follow then world
        else { world with follow, stage := .syncing })
      split
      · exact invariant
      · exact ⟨balanced, invariant.asked, trivial, invariant.shown, nofun⟩

/-- Lines that were collected are shown, unless those of the same version are. -/
theorem Invariant.syncLogs {world : World} {version : Nat} {lines : List LogLine}
    (invariant : Invariant world) (here : world.stage = .collected version lines) :
    Invariant (world.syncLogs version lines) := by
  have balanced := invariant.balanced
  have read := invariant.read
  rw [here] at balanced read
  obtain ⟨after, seen⟩ := read
  refine ⟨balanced, invariant.asked, trivial, ?_, ?_⟩
  · intro shown same
    obtain rfl := Option.some.inj same
    refine ⟨seen.asked, fun current settled => ⟨?_, rfl⟩⟩
    simp only [World.syncLogs]
    split
    next loaded => exact ((invariant.shown _ loaded).current current settled).rows
    next => rw [← seen.current current settled]
  · intro _ shown same
    obtain rfl := Option.some.inj same
    exact after

theorem Invariant.advance {world after : World} (invariant : Invariant world)
    (taken : world.advance = some after) : Invariant after := by
  have balanced := invariant.balanced
  have read := invariant.read
  unfold World.advance at taken
  split at taken
  next => cases taken
  next here =>
    obtain ⟨log, raised, rfl⟩ := Option.map_eq_some_iff.mp taken
    rw [here] at balanced
    have count := Published.unpublished_publish raised
    have version := Published.version_publish raised
    have asked := invariant.asked
    refine ⟨?_, ?_, trivial, ?_, nofun⟩
    · show log.unpublished = world.writers
      exact Nat.succ.inj (count.trans balanced)
    · show world.seenLogs ≤ log.version
      omega
    · exact fun version loaded => (invariant.shown version loaded).publish raised
  next here =>
    obtain rfl := Option.some.inj taken
    rw [here] at balanced
    exact ⟨balanced, Nat.le_refl _, trivial, invariant.shown, nofun⟩
  next here =>
    obtain rfl := Option.some.inj taken
    rw [here] at balanced
    exact ⟨balanced, invariant.asked, ⟨invariant.asked, Nat.le_refl _⟩, invariant.shown, nofun⟩
  next version here =>
    obtain rfl := Option.some.inj taken
    rw [here] at balanced read
    exact ⟨balanced, invariant.asked, ⟨read.1, Published.seen_of_content read.2 rfl⟩,
      invariant.shown, nofun⟩
  next version lines here =>
    obtain rfl := Option.some.inj taken
    exact invariant.syncLogs here

theorem Invariant.step {world after : World} {action : Action} (invariant : Invariant world)
    (taken : step world action = some after) : Invariant after := by
  cases action with
  | event secs event =>
      obtain ⟨line, _, rfl⟩ := Option.map_eq_some_iff.mp taken
      exact invariant.event line
  | publish =>
      obtain ⟨writing, published⟩ := Option.ite_none_left_eq_some.mp taken
      obtain ⟨log, raised, rfl⟩ := Option.map_eq_some_iff.mp published
      exact invariant.publish writing raised
  | call call =>
      obtain ⟨idle, rfl⟩ := call_of_step taken
      exact invariant.call idle call
  | ui => exact invariant.advance taken

theorem invariant_of_reachable {log : Published Buffer} {world : World}
    (reached : Reachable step (World.start log) world) : Invariant world :=
  Reachable.invariant (invariant_start log) (fun _ _ _ invariant taken => invariant.step taken)
    reached

/-! ## Refreshing -/

section Reached

variable {log : Published Buffer} {world : World}

/-- While no push is under way, an idle page that has seen the version shows the buffer: a
refresh that reports no change misses none. -/
theorem upToDate_of_seen (reached : Reachable step (World.start log) world)
    (idle : world.stage = .idle) (quiet : world.writers = 0)
    (loaded : world.shownVersion ≠ none) (seen : world.seenLogs = world.log.version) :
    UpToDate world.store world.log.content := by
  have invariant := invariant_of_reachable reached
  obtain ⟨version, loaded⟩ := Option.ne_none_iff_exists'.mp loaded
  have shown := invariant.shown version loaded
  have after := invariant.idle idle version loaded
  rw [seen] at after
  have balanced := invariant.balanced
  rw [quiet, idle] at balanced
  exact shown.current (Nat.le_antisymm after shown.asked) balanced

/-- What `Changes::LOGS` has the UI thread do. -/
theorem exec_syncing (reached : Reachable step (World.start log) world)
    (syncing : world.stage = .syncing) (quiet : world.writers = 0)
    (seen : world.seenLogs = world.log.version) :
    ∃ after, exec step world (List.replicate 3 .ui) = some after ∧ after.stage = .idle ∧
      UpToDate after.store world.log.content := by
  let after := world.syncLogs world.log.version world.log.content.lines
  have asks : world.advance = some { world with stage := .versioned world.log.version } := by
    rw [World.advance, syncing]
  have executed : exec step world (List.replicate 3 .ui) = some after := by
    show world.advance.bind (fun asked => exec step asked (List.replicate 2 .ui)) = some after
    rw [asks]
    rfl
  have shows : UpToDate after.store after.log.content :=
    upToDate_of_seen (reached.exec executed) rfl quiet nofun seen
  exact ⟨after, executed, rfl, shows⟩

/-- A call that reports `Changes::LOGS` and has seen the version leaves the page as the buffer
is. -/
theorem call_copies {call : PageCall} (reached : Reachable step (World.start log) world)
    (idle : world.stage = .idle) (syncing : (world.call call).stage = .syncing)
    (quiet : (world.call call).writers = 0)
    (seen : (world.call call).seenLogs = (world.call call).log.version) :
    ∃ after, exec step world (.call call :: List.replicate 3 .ui) = some after ∧
      after.stage = .idle ∧ UpToDate after.store (world.call call).log.content := by
  have taken := step_call idle call
  obtain ⟨after, executed, done, shows⟩ := exec_syncing (reached.next taken) syncing quiet seen
  refine ⟨after, ?_, done, shows⟩
  rw [exec, taken, Option.bind_some, executed]

/-- So does a refresh that finds a new version. -/
theorem refreshLogs_copies (reached : Reachable step (World.start log) world)
    (idle : world.stage = .idle) (quiet : world.writers = 0)
    (behind : world.log.version ≠ world.seenLogs) :
    ∃ after, exec step world (.call .refreshLogs :: List.replicate 3 .ui) = some after ∧
      after.stage = .idle ∧ UpToDate after.store world.log.content :=
  call_copies reached idle (if_pos behind) quiet rfl

/-- So does showing the page again. -/
theorem reloadLogs_copies (reached : Reachable step (World.start log) world)
    (idle : world.stage = .idle) (quiet : world.writers = 0) :
    ∃ after, exec step world (.call .reloadLogs :: List.replicate 3 .ui) = some after ∧
      after.stage = .idle ∧ UpToDate after.store world.log.content :=
  call_copies reached idle rfl quiet rfl

/-- Clearing leaves an empty page. -/
theorem clearLogs_empties (reached : Reachable step (World.start log) world)
    (idle : world.stage = .idle) (quiet : world.writers = 0) :
    ∃ after, exec step world (.call .clearLogs :: List.replicate 5 .ui) = some after ∧
      after.stage = .idle ∧ after.store.rows = [] ∧ after.store.dropped = 0 := by
  let raised : Published Buffer :=
    { content := .empty, version := world.log.version + 1, unpublished := world.log.unpublished }
  let cleared : World :=
    { world with log := raised, seenLogs := raised.version, stage := .syncing }
  have executed : exec step world [.call .clearLogs, .ui, .ui] = some cleared := by
    rw [exec, step_call idle]
    rfl
  obtain ⟨after, synced, done, shows⟩ := exec_syncing (reached.exec executed) rfl quiet rfl
  refine ⟨after, ?_, done, shows.rows, shows.dropped⟩
  show exec step world ([.call .clearLogs, .ui, .ui] ++ List.replicate 3 .ui) = some after
  rw [exec_append, executed, Option.bind_some, synced]

end Reached

/-! ## The lines of the page -/

/-- The buffer is what pushes and clears have made of an empty one. -/
def Made (buffer : Buffer) : Prop :=
  ∃ calls : List BufferCall, buffer = calls.foldl Buffer.apply .empty

theorem Made.apply {buffer : Buffer} (made : Made buffer) (call : BufferCall) :
    Made (buffer.apply call) := by
  obtain ⟨calls, rfl⟩ := made
  exact ⟨calls ++ [call], (List.foldl_concat _ _ _ _).symm⟩

theorem content_advance {world after : World} (taken : world.advance = some after) :
    after.log.content = world.log.content := by
  unfold World.advance at taken
  split at taken
  next => cases taken
  next =>
    obtain ⟨log, raised, rfl⟩ := Option.map_eq_some_iff.mp taken
    exact Published.content_publish raised
  all_goals
    obtain rfl := Option.some.inj taken
    rfl

theorem Made.call {world : World} (made : Made world.log.content) (call : PageCall) :
    Made (world.call call).log.content := by
  cases call with
  | refreshLogs => exact made
  | reloadLogs => exact made
  | clearLogs => exact made.apply .clear
  | setLogFollow follow =>
      show Made (if world.follow = follow then world
        else { world with follow, stage := .syncing }).log.content
      split
      · exact made
      · exact made

theorem Made.step {world after : World} {action : Action} (made : Made world.log.content)
    (taken : step world action = some after) : Made after.log.content := by
  cases action with
  | event secs event =>
      obtain ⟨line, _, rfl⟩ := Option.map_eq_some_iff.mp taken
      exact made.apply (.push line)
  | publish =>
      obtain ⟨_, published⟩ := Option.ite_none_left_eq_some.mp taken
      obtain ⟨log, raised, rfl⟩ := Option.map_eq_some_iff.mp published
      show Made log.content
      rw [Published.content_publish raised]
      exact made
  | call call =>
      obtain ⟨_, rfl⟩ := call_of_step taken
      exact made.call call
  | ui =>
      rw [content_advance taken]
      exact made

/-- An up-to-date page shows the newest lines since the last `clear`, and how many others there
were. -/
theorem lines_of_upToDate {log : Published Buffer} {world : World} (made : Made log.content)
    (reached : Reachable step (World.start log) world)
    (upToDate : UpToDate world.store world.log.content) :
    ∃ lines : List LogLine, world.store.rows = (lines.rtake maxLines).map logRow ∧
      world.store.dropped = toI32 (lines.length - maxLines) := by
  have holds : Made world.log.content :=
    @Reachable.invariant _ _ step (World.start log) (fun world => Made world.log.content) made
      (fun _ _ _ made taken => made.step taken) world reached
  obtain ⟨calls, built⟩ := holds
  rw [foldl_apply] at built
  refine ⟨sinceClear calls, ?_, ?_⟩
  · rw [upToDate.rows, built]
  · rw [upToDate.dropped, built]

end Juicity.Gui.LogsPage
