import Juicity.Gui.PacServe.Answers
import Mathlib.Data.List.Forall2

/-!
Owns the order of the answers. Connections are handled one at a time in the order
they came, each once. An answer carries one of the contents the server had, and
never an older one than the answer before it. The connection of `shutdown` gets
none.
-/

namespace Juicity.Gui.PacServe

open Juicity.Common
open Juicity.Machine

/-! ## Steps -/

/-- The connection the thread has in hand. -/
def Thread.holds : Thread → List Conn
  | .checking accepted => accepted.toList
  | .reading conn _ | .answering conn _ | .writing conn _ => [conn]
  | .accepting | .ended => []

/-- What an action can do to a state. -/
inductive Took (state : State) : Action → State → Prop where
  | update (content : String) : Took state (.update content) { state with content }
  | connect (number : Nat) (listening : state.thread ≠ .ended) :
      Took state (.connect number) { state with backlog := state.backlog ++ [.browser number] }
  | accept (conn : Conn) (rest : List Conn) (idle : state.thread = .accepting)
      (waits : state.backlog = conn :: rest) :
      Took state .accept { state with thread := .checking (some conn), backlog := rest }
  | missed (idle : state.thread = .accepting) :
      Took state (.acceptFails false) { state with thread := .checking none }
  | lost (conn : Conn) (rest : List Conn) (idle : state.thread = .accepting)
      (waits : state.backlog = conn :: rest) :
      Took state (.acceptFails true) { state with
        thread := .checking none
        backlog := rest
        handled := state.handled ++ [⟨conn, []⟩] }
  | finish (accepted : Option Conn) (here : state.thread = .checking accepted)
      (stopped : state.stop = true) : Took state .check (state.finish accepted)
  | again (here : state.thread = .checking none) (runs : state.stop = false) :
      Took state .check { state with thread := .accepting }
  | began (conn : Conn) (here : state.thread = .checking (some conn)) (runs : state.stop = false) :
      Took state .check { state with thread := .reading conn [] }
  | read (conn : Conn) (head chunk : Bytes) (here : state.thread = .reading conn head)
      (fits : chunk.length ≤ bufLen) : Took state (.read chunk) (state.afterRead conn head chunk)
  | answer (conn : Conn) (head : Bytes) (here : state.thread = .answering conn head) :
      Took state .answer { state with thread := .writing conn state.content }
  | write (conn : Conn) (pac : String) (count : Nat) (here : state.thread = .writing conn pac) :
      Took state (.write count) (state.done conn ((utf8 (response pac)).take count))
  | storeStop (serves : state.owner = .serving) :
      Took state .storeStop { state with stop := true, owner := .stopping }
  | woken (stops : state.owner = .stopping) (listening : state.thread ≠ .ended) :
      Took state (.wake true) { state with backlog := state.backlog ++ [.wake], owner := .joining }
  | gaveUp (stops : state.owner = .stopping) :
      Took state (.wake false) { state with owner := .detached }
  | join (waits : state.owner = .joining) (ended : state.thread = .ended) :
      Took state .join { state with owner := .joined }

section Steps

variable {state after : State}

theorem took_of_step {action : Action} (taken : step state action = some after) :
    Took state action after := by
  cases action with
  | update content =>
      obtain rfl := Option.some.inj taken
      exact .update content
  | connect number =>
      obtain ⟨listening, same⟩ := Option.ite_none_left_eq_some.mp taken
      obtain rfl := Option.some.inj same
      exact .connect number listening
  | accept =>
      simp only [step] at taken
      split at taken
      · rename_i conn rest idle waits
        obtain rfl := Option.some.inj taken
        exact .accept conn rest idle waits
      · cases taken
  | acceptFails lost =>
      simp only [step] at taken
      split at taken
      · rename_i idle
        obtain rfl := Option.some.inj taken
        exact .missed idle
      · rename_i conn rest idle waits
        obtain rfl := Option.some.inj taken
        exact .lost conn rest idle waits
      · cases taken
  | check =>
      simp only [step] at taken
      split at taken
      · rename_i accepted here
        by_cases stopped : state.stop = true
        · rw [if_pos stopped] at taken
          obtain rfl := Option.some.inj taken
          exact .finish accepted here stopped
        · rw [if_neg stopped] at taken
          have runs := Bool.eq_false_iff.mpr stopped
          cases accepted with
          | none =>
              obtain rfl := Option.some.inj taken
              exact .again here runs
          | some conn =>
              obtain rfl := Option.some.inj taken
              exact .began conn here runs
      · cases taken
  | read chunk =>
      simp only [step] at taken
      split at taken
      · rename_i conn head here
        obtain ⟨fits, same⟩ := Option.ite_none_right_eq_some.mp taken
        obtain rfl := Option.some.inj same
        exact .read conn head chunk here fits
      · cases taken
  | answer =>
      simp only [step] at taken
      split at taken
      · rename_i conn head here
        obtain rfl := Option.some.inj taken
        exact .answer conn head here
      · cases taken
  | write count =>
      simp only [step] at taken
      split at taken
      · rename_i conn pac here
        obtain rfl := Option.some.inj taken
        exact .write conn pac count here
      · cases taken
  | storeStop =>
      obtain ⟨serves, same⟩ := Option.ite_none_right_eq_some.mp taken
      obtain rfl := Option.some.inj same
      exact .storeStop serves
  | wake reached =>
      obtain ⟨stops, same⟩ := Option.ite_none_right_eq_some.mp taken
      cases reached with
      | false =>
          obtain rfl := Option.some.inj same
          exact .gaveUp stops
      | true =>
          obtain ⟨listening, same⟩ := Option.ite_none_left_eq_some.mp same
          obtain rfl := Option.some.inj same
          exact .woken stops listening
  | join =>
      obtain ⟨both, same⟩ := Option.ite_none_right_eq_some.mp taken
      obtain rfl := Option.some.inj same
      exact .join both.1 both.2

/-- A read concerns the thread alone, which keeps its connection. -/
theorem afterRead_eq (state : State) (conn : Conn) (head chunk : Bytes) :
    ∃ thread, state.afterRead conn head chunk = { state with thread } ∧
      (thread = .answering conn (head ++ chunk) ∨
        thread = .reading conn (head ++ chunk) ∧ chunk ≠ [] ∧ wantsMore (head ++ chunk) = true) := by
  unfold State.afterRead
  cases chunk with
  | nil => exact ⟨_, rfl, .inl (by rw [List.append_nil])⟩
  | cons byte chunk =>
      rw [if_neg (by simp)]
      split
      · rename_i more
        exact ⟨_, rfl, .inr ⟨rfl, by simp, more⟩⟩
      · exact ⟨_, rfl, .inl rfl⟩

end Steps

/-! ## One after the other -/

/-- The connection that comes with an action. -/
def arrival : Action → List Conn
  | .connect number => [.browser number]
  | .wake true => [.wake]
  | _ => []

/-- All connections, in the order they came. -/
def connected (history : List (State × Action)) : List Conn :=
  history.flatMap fun entry => arrival entry.2

theorem connected_snoc (history : List (State × Action)) (state : State) (action : Action) :
    connected (history ++ [(state, action)]) = connected history ++ arrival action := by
  rw [connected, List.flatMap_append, List.flatMap_singleton]
  rfl

/-- The connections the server is done with, the one in hand and the ones that wait. -/
def queue (state : State) : List Conn :=
  state.handled.map Handled.conn ++ (state.thread.holds ++ state.backlog)

/-- What comes goes to the end, and nothing else changes the order. -/
theorem queue_took {state after : State} {action : Action} (took : Took state action after) :
    queue after = queue state ++ arrival action := by
  cases took with
  | update content => simp [queue, arrival]
  | connect number listening => simp [queue, arrival]
  | accept conn rest idle waits => simp [queue, arrival, Thread.holds, idle, waits]
  | missed idle => simp [queue, arrival, Thread.holds, idle]
  | lost conn rest idle waits => simp [queue, arrival, Thread.holds, idle, waits]
  | finish accepted here stopped =>
      have same : ((accepted.toList ++ state.backlog).map fun conn => (⟨conn, []⟩ : Handled)).map
          Handled.conn = accepted.toList ++ state.backlog := by
        rw [List.map_map]
        exact List.map_id _
      simp only [queue, State.finish, List.map_append, here, Thread.holds, arrival] at same ⊢
      rw [same]
      simp
  | again here runs => simp [queue, arrival, Thread.holds, here]
  | began conn here runs => simp [queue, arrival, Thread.holds, here]
  | read conn head chunk here fits =>
      obtain ⟨thread, same, rfl | ⟨rfl, -⟩⟩ := afterRead_eq state conn head chunk
      · simp [same, queue, arrival, Thread.holds, here]
      · simp [same, queue, arrival, Thread.holds, here]
  | answer conn head here => simp [queue, arrival, Thread.holds, here]
  | write conn pac count here => simp [queue, arrival, Thread.holds, here, State.done]
  | storeStop serves => simp [queue, arrival]
  | woken stops listening => simp [queue, arrival]
  | gaveUp stops => simp [queue, arrival]
  | join waits ended => simp [queue, arrival]

theorem queue_of_run {first : String} {history : List (State × Action)} {final : State}
    (run : Run step (initial first) history final) : queue final = connected history := by
  induction run with
  | start => rfl
  | next before taken inductionHypothesis =>
      rw [queue_took (took_of_step taken), inductionHypothesis, connected_snoc]

/-! ## Never an older content -/

/-- The content that an action brings. -/
def renewal : Action → List String
  | .update content => [content]
  | _ => []

/-- The contents the server has had; the last one is the current. -/
def contents (first : String) (history : List (State × Action)) : List String :=
  first :: history.flatMap fun entry => renewal entry.2

theorem contents_snoc (first : String) (history : List (State × Action)) (state : State)
    (action : Action) :
    contents first (history ++ [(state, action)]) = contents first history ++ renewal action := by
  rw [contents, List.flatMap_append, List.flatMap_singleton]
  rfl

/-- Something of an answer with the content was written. -/
def Tells (versions : List String) (mark : Nat) (handled : Handled) : Prop :=
  ∃ pac count, versions[mark]? = some pac ∧ handled.written = (utf8 (response pac)).take count

/-- The answers so far, by the number of the content each carries. -/
structure Told (versions : List String) (marks : List Nat) (state : State) : Prop where
  tells : List.Forall₂ (Tells versions) marks state.handled
  sorted : marks.Pairwise (· ≤ ·)
  within : ∀ mark ∈ marks, mark < versions.length
  current : versions.getLast? = some state.content
  writes : ∀ conn pac, state.thread = .writing conn pac →
    ∃ number, versions[number]? = some pac ∧ ∀ mark ∈ marks, mark ≤ number

section Told

variable {versions : List String} {marks : List Nat} {state after : State}

theorem told_initial (first : String) : Told [first] [] (initial first) where
  tells := .nil
  sorted := .nil
  within := by
    intro mark member
    cases member
  current := rfl
  writes := by
    intro conn pac writing
    cases writing

theorem getElem?_append_some {value : String} {number : Nat} (found : versions[number]? = some value)
    (more : List String) : (versions ++ more)[number]? = some value := by
  rw [List.getElem?_append_left (List.getElem?_eq_some_iff.mp found).1, found]

/-- Later contents do not matter to the answers there are. -/
theorem Told.renewed (told : Told versions marks state) (content : String) :
    Told (versions ++ [content]) marks { state with content } where
  tells := by
    refine told.tells.imp fun mark handled => ?_
    rintro ⟨pac, count, found, written⟩
    exact ⟨pac, count, getElem?_append_some found _, written⟩
  sorted := told.sorted
  within := by
    intro mark member
    rw [List.length_append]
    exact Nat.lt_add_right _ (told.within mark member)
  current := List.getLast?_concat
  writes := by
    intro conn pac writing
    obtain ⟨number, found, newest⟩ := told.writes conn pac writing
    exact ⟨number, getElem?_append_some found _, newest⟩

/-- A step that answers nothing. -/
theorem Told.kept (told : Told versions marks state) (handled : after.handled = state.handled)
    (content : after.content = state.content)
    (writes : ∀ conn pac, after.thread = .writing conn pac → state.thread = .writing conn pac) :
    Told versions marks after where
  tells := handled ▸ told.tells
  sorted := told.sorted
  within := told.within
  current := content ▸ told.current
  writes := fun conn pac writing => told.writes conn pac (writes conn pac writing)

/-- The number of the current content. -/
theorem Told.newest (told : Told versions marks state) :
    ∃ number, versions[number]? = some state.content ∧ ∀ mark ∈ marks, mark ≤ number := by
  refine ⟨versions.length - 1, ?_, fun mark member => ?_⟩
  · rw [← List.getLast?_eq_getElem?, told.current]
  · have within := told.within mark member
    omega

/-- One more connection is handled. -/
theorem Told.handled (told : Told versions marks state) {number : Nat} {pac : String}
    (found : versions[number]? = some pac) (newest : ∀ mark ∈ marks, mark ≤ number) (conn : Conn)
    (count : Nat) (content : after.content = state.content)
    (more : after.handled = state.handled ++ [⟨conn, (utf8 (response pac)).take count⟩])
    (idle : ∀ conn pac, after.thread ≠ .writing conn pac) :
    Told versions (marks ++ [number]) after where
  tells := by
    rw [more]
    exact List.rel_append told.tells (.cons ⟨pac, count, found, rfl⟩ .nil)
  sorted := by
    refine List.pairwise_append.mpr ⟨told.sorted, List.pairwise_singleton _ _, ?_⟩
    intro mark member last here
    rw [List.mem_singleton.mp here]
    exact newest mark member
  within := by
    intro mark member
    rcases List.mem_append.mp member with old | new
    · exact told.within mark old
    · rw [List.mem_singleton.mp new]
      exact (List.getElem?_eq_some_iff.mp found).1
  current := content ▸ told.current
  writes := fun conn pac writing => absurd writing (idle conn pac)

/-- Connections are dropped without a word. -/
theorem Told.dropped (conns : List Conn) :
    ∀ {marks : List Nat} {state : State}, Told versions marks state →
      (∀ conn pac, state.thread ≠ .writing conn pac) →
        ∃ later, Told versions later { state with
          handled := state.handled ++ conns.map fun conn => ⟨conn, []⟩ } := by
  induction conns with
  | nil =>
      intro marks state told _
      refine ⟨marks, told.kept ?_ rfl fun _ _ writing => writing⟩
      rw [List.map_nil, List.append_nil]
  | cons conn conns inductionHypothesis =>
      intro marks state told idle
      obtain ⟨number, found, newest⟩ := told.newest
      have one : Told versions (marks ++ [number])
          { state with handled := state.handled ++ [⟨conn, []⟩] } :=
        told.handled found newest conn 0 rfl rfl idle
      obtain ⟨later, rest⟩ := inductionHypothesis one idle
      refine ⟨later, rest.kept ?_ rfl fun _ _ writing => writing⟩
      show state.handled ++ ((⟨conn, []⟩ : Handled) :: _) = _
      rw [List.append_assoc]
      rfl

/-- Whatever a step answers is not older than what was answered before. -/
theorem Told.took {action : Action} (told : Told versions marks state)
    (took : Took state action after) (same : renewal action = []) :
    ∃ later, Told versions later after := by
  cases took with
  | update content => cases same
  | connect number listening => exact ⟨marks, told.kept rfl rfl fun _ _ writing => writing⟩
  | accept conn rest idle waits =>
      exact ⟨marks, told.kept rfl rfl fun _ _ writing => by cases writing⟩
  | missed idle => exact ⟨marks, told.kept rfl rfl fun _ _ writing => by cases writing⟩
  | lost conn rest idle waits =>
      obtain ⟨number, found, newest⟩ := told.newest
      exact ⟨_, told.handled found newest conn 0 rfl rfl fun _ _ => Thread.noConfusion⟩
  | finish accepted here stopped =>
      have idle : ∀ conn pac, state.thread ≠ .writing conn pac := by
        intro conn pac writing
        cases here.symm.trans writing
      obtain ⟨later, dropped⟩ := told.dropped (accepted.toList ++ state.backlog) idle
      exact ⟨later, dropped.kept rfl rfl fun _ _ writing => by cases writing⟩
  | again here runs => exact ⟨marks, told.kept rfl rfl fun _ _ writing => by cases writing⟩
  | began conn here runs => exact ⟨marks, told.kept rfl rfl fun _ _ writing => by cases writing⟩
  | read conn head chunk here fits =>
      obtain ⟨thread, read, rfl | ⟨rfl, -⟩⟩ := afterRead_eq state conn head chunk
      · rw [read]
        exact ⟨marks, told.kept rfl rfl fun _ _ writing => by cases writing⟩
      · rw [read]
        exact ⟨marks, told.kept rfl rfl fun _ _ writing => by cases writing⟩
  | answer conn head here =>
      refine ⟨marks, told.tells, told.sorted, told.within, told.current, ?_⟩
      intro other pac writing
      obtain ⟨-, rfl⟩ := Thread.writing.inj writing
      exact told.newest
  | write conn pac count here =>
      obtain ⟨number, found, newest⟩ := told.writes conn pac here
      exact ⟨_, told.handled found newest conn count rfl rfl fun _ _ => Thread.noConfusion⟩
  | storeStop serves => exact ⟨marks, told.kept rfl rfl fun _ _ writing => writing⟩
  | woken stops listening => exact ⟨marks, told.kept rfl rfl fun _ _ writing => writing⟩
  | gaveUp stops => exact ⟨marks, told.kept rfl rfl fun _ _ writing => writing⟩
  | join waits ended => exact ⟨marks, told.kept rfl rfl fun _ _ writing => writing⟩

end Told

theorem told_of_run {first : String} {history : List (State × Action)} {final : State}
    (run : Run step (initial first) history final) :
    ∃ marks, Told (contents first history) marks final := by
  induction run with
  | start => exact ⟨[], told_initial first⟩
  | @next history state after action before taken inductionHypothesis =>
      obtain ⟨marks, told⟩ := inductionHypothesis
      rw [contents_snoc]
      cases action with
      | update content =>
          obtain rfl := Option.some.inj taken
          exact ⟨marks, told.renewed content⟩
      | _ => simpa [renewal] using told.took (took_of_step taken) rfl

/-- In every run, connections are handled in the order they came, each once. Of the answers, a
whole one is read by a browser as one of the contents the server had, one cut short is not read at
all, and none is older than the one before it. -/
theorem answers_of_run {first : String} {history : List (State × Action)} {final : State}
    (run : Run step (initial first) history final) :
    final.handled.map Handled.conn ++ (final.thread.holds ++ final.backlog) = connected history ∧
    ∃ marks : List Nat, marks.Pairwise (· ≤ ·) ∧
      List.Forall₂ (fun mark handled => ∃ pac, (contents first history)[mark]? = some pac ∧
        handled.written <+: utf8 (response pac) ∧
        browserRead handled.written =
          if handled.written = utf8 (response pac) then
            some (utf8 "HTTP/1.0 200 OK" ++ [13], utf8 pac)
          else none) marks final.handled := by
  refine ⟨queue_of_run run, ?_⟩
  obtain ⟨marks, told⟩ := told_of_run run
  refine ⟨marks, told.sorted, told.tells.imp fun mark handled => ?_⟩
  rintro ⟨pac, count, found, written⟩
  refine ⟨pac, found, written ▸ List.take_prefix _ _, ?_⟩
  rw [written, browserRead_take]
  by_cases whole : (utf8 (response pac)).length ≤ count
  · rw [if_pos whole, if_pos (List.take_of_length_le whole)]
  · rw [if_neg whole, if_neg]
    intro same
    have lengths := congrArg List.length same
    rw [List.length_take] at lengths
    omega

/-- A browser that is read while the content changes is told the new one; the next connection is
cut off at once. -/
theorem answers_of_run_update :
    ∃ history final, Run step (initial "old") history final ∧
      connected history = [.browser 1, .browser 2] ∧ contents "old" history = ["old", "new"] ∧
      final.handled.map Handled.conn ++ (final.thread.holds ++ final.backlog) =
        [.browser 1, .browser 2] := by
  have executed : (exec step (initial "old") [.connect 1, .connect 2, .accept, .check, .update "new",
      .read [], .answer, .write 1000, .accept, .check, .read [], .answer, .write 3]).isSome = true := by
    decide
  obtain ⟨final, ended⟩ := Option.isSome_iff_exists.mp executed
  have run := run_trace ended
  refine ⟨_, final, run, by decide, by decide, ?_⟩
  exact (answers_of_run run).1.trans (by decide)

end Juicity.Gui.PacServe
