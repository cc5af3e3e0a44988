import Juicity.Common.Bytes
import Juicity.Common.Consts
import Juicity.Machine.Run
import Juicity.Machine.Tasks

/-!
Owns `server/src/tcp.rs`: two copies that share an activity stamp, joined by
`try_join!`, against an idle timer. One action is one awaited operation of a
copy that completes, a wake-up of the timer, or time that passes. Instants count
from `base`.

A copy passes on what it read, in order and once; the copies do not see each
other, so the end of one stream ends nothing else.
-/

namespace Juicity.Server.TcpRelay

open Juicity.Common
open Juicity.Machine

/-- `io::Error`; `other` are the errors of the streams. -/
inductive IoError where
  | timedOut
  | writeZero
  | other (code : Nat)
deriving DecidableEq

/-! ## One direction -/

/-- `buf.len()`. -/
def bufLen : Nat := 64 * 1024

/-- What an awaited operation of `copy_direction` returns. -/
inductive Io where
  | read (chunk : Bytes)
  | readError (error : IoError)
  | write (written : Nat)
  | writeError (error : IoError)
  | shutdown
  | shutdownError (error : IoError)

inductive Pc where
  | reading
  | writing (remaining : Bytes)
  | shuttingDown
  | returned (result : Except IoError Unit)

/-- A copy with the bytes that its reader delivered and its writer accepted so far, and
how many were accepted at each shutdown of the writer. -/
structure Copy where
  pc : Pc
  delivered : Bytes
  accepted : Bytes
  eof : Bool
  shutdowns : List Nat

namespace Copy

def initial : Copy := ⟨.reading, [], [], false, []⟩

/-- `reader.read` filled the buffer with a chunk. -/
def afterRead (copy : Copy) (chunk : Bytes) : Copy :=
  if chunk.length = 0 then
    { copy with eof := true, pc := .shuttingDown }
  else
    { copy with delivered := copy.delivered ++ chunk, pc := .writing chunk }

/-- `writer.write` took some of what remained. -/
def afterWrite (copy : Copy) (remaining : Bytes) (written : Nat) : Copy :=
  if written = 0 then
    { copy with pc := .returned (.error .writeZero) }
  else
    { copy with
      accepted := copy.accepted ++ remaining.take written
      pc := if (remaining.drop written).isEmpty then .reading
        else .writing (remaining.drop written) }

def afterShutdown (copy : Copy) (result : Except IoError Unit) : Copy :=
  { copy with shutdowns := copy.shutdowns ++ [copy.accepted.length], pc := .returned result }

/-- One operation of `copy_direction`; a reader fills at most the buffer, and a writer
takes at most what it is given. -/
def step (copy : Copy) : Io → Option Copy
  | .read chunk =>
      match copy.pc with
      | .reading => if chunk.length ≤ bufLen then some (copy.afterRead chunk) else none
      | _ => none
  | .readError error =>
      match copy.pc with
      | .reading => some { copy with pc := .returned (.error error) }
      | _ => none
  | .write written =>
      match copy.pc with
      | .writing remaining =>
          if written ≤ remaining.length then some (copy.afterWrite remaining written) else none
      | _ => none
  | .writeError error =>
      match copy.pc with
      | .writing _ => some { copy with pc := .returned (.error error) }
      | _ => none
  | .shutdown =>
      match copy.pc with
      | .shuttingDown => some (copy.afterShutdown (.ok ()))
      | _ => none
  | .shutdownError error =>
      match copy.pc with
      | .shuttingDown => some (copy.afterShutdown (.error error))
      | _ => none

end Copy

/-- The operations that store the activity. -/
def Io.progresses : Io → Bool
  | .read chunk => decide (chunk.length ≠ 0)
  | .write written => decide (written ≠ 0)
  | _ => false

/-! ## Both directions -/

inductive Side where
  | toRemote
  | toClient
deriving DecidableEq

/-- The relay; `last` is what the idle timer read when it slept last, and `progressed` the
time at which `activity` was stored last. -/
structure State where
  copies : Side → Copy
  now : Instant
  activity : Nat
  progressed : Instant
  last : Option Nat
  result : Option (Except IoError Unit)

def initial : State := ⟨fun _ => .initial, 0, 1, 0, none, none⟩

/-- `try_join!`: the first error, or success of both. -/
def joined (copies : Side → Copy) : Option (Except IoError Unit) :=
  match (copies .toRemote).pc, (copies .toClient).pc with
  | .returned (.error error), _ => some (.error error)
  | _, .returned (.error error) => some (.error error)
  | .returned (.ok ()), .returned (.ok ()) => some (.ok ())
  | _, _ => none

namespace State

/-- `activity.store` after an operation that makes progress. -/
def stamp (state : State) (io : Io) : State :=
  if io.progresses then
    { state with activity := Duration.asMillis state.now + 1, progressed := state.now }
  else state

/-- A copy has moved, and the copies are joined again. -/
def moved (state : State) (side : Side) (copy : Copy) : State :=
  { state with
    copies := Function.update state.copies side copy
    result := joined (Function.update state.copies side copy) }

/-- The idle timer is polled: it sleeps until its deadline, and then compares. -/
def pollIdle (state : State) (idleTimeout : Duration) : State :=
  match state.last with
  | none => { state with last := some state.activity }
  | some last =>
      if Duration.fromMillis last + idleTimeout ≤ state.now then
        if state.activity = last then { state with result := some (.error .timedOut) }
        else { state with last := some state.activity }
      else state

end State

inductive Action where
  | tick (elapsed : Duration)
  | io (side : Side) (io : Io)
  | idle

/-- One action of a relay that has not returned. -/
def step (idleTimeout : Duration) (state : State) (action : Action) : Option State :=
  match state.result with
  | some _ => none
  | none =>
      match action with
      | .tick elapsed => some { state with now := state.now + elapsed }
      | .io side io => ((state.copies side).step io).map fun copy => (state.stamp io).moved side copy
      | .idle => some (state.pollIdle idleTimeout)

/-! ## A copy on its own -/

namespace Copy

/-- What a copy has done by the time it stands at each place. -/
def Invariant (copy : Copy) : Prop :=
  match copy.pc with
  | .reading => copy.delivered = copy.accepted ∧ copy.shutdowns = []
  | .writing remaining => copy.delivered = copy.accepted ++ remaining ∧ copy.shutdowns = []
  | .shuttingDown => copy.eof ∧ copy.delivered = copy.accepted ∧ copy.shutdowns = []
  | .returned (.ok ()) =>
      copy.eof ∧ copy.delivered = copy.accepted ∧ copy.shutdowns = [copy.accepted.length]
  | .returned (.error _) => copy.accepted <+: copy.delivered

/-- The writer has a front part of what the reader delivered; a copy that returns `Ok` has
seen the end, has written everything, and has then shut the writer down, once. -/
structure Faithful (copy : Copy) : Prop where
  front : copy.accepted <+: copy.delivered
  whole : copy.pc = .returned (.ok ()) → copy.eof = true ∧ copy.accepted = copy.delivered ∧
    copy.shutdowns = [copy.delivered.length]

variable {copy after : Copy}

theorem invariant_initial : Invariant initial := ⟨rfl, rfl⟩

theorem Invariant.front (inv : copy.Invariant) : copy.accepted <+: copy.delivered := by
  unfold Invariant at inv
  split at inv
  · exact (inv.1 ▸ List.prefix_rfl)
  · exact inv.1 ▸ List.prefix_append _ _
  · exact (inv.2.1 ▸ List.prefix_rfl)
  · exact (inv.2.1 ▸ List.prefix_rfl)
  · exact inv

theorem Invariant.faithful (inv : copy.Invariant) : copy.Faithful where
  front := inv.front
  whole := by
    intro returned
    rw [Invariant, returned] at inv
    obtain ⟨ended, same, once⟩ := inv
    exact ⟨ended, same.symm, by rw [once, same]⟩

theorem Invariant.afterRead (inv : copy.Invariant) (reading : copy.pc = .reading)
    (chunk : Bytes) : (copy.afterRead chunk).Invariant := by
  rw [Invariant, reading] at inv
  obtain ⟨same, none⟩ := inv
  unfold Copy.afterRead
  split
  · exact ⟨rfl, same, none⟩
  · exact ⟨by rw [same], none⟩

theorem Invariant.afterWrite (inv : copy.Invariant) {remaining : Bytes}
    (writing : copy.pc = .writing remaining) (written : Nat) :
    (copy.afterWrite remaining written).Invariant := by
  have front := inv.front
  rw [Invariant, writing] at inv
  obtain ⟨same, none⟩ := inv
  unfold Copy.afterWrite
  split
  · exact front
  · have split : copy.delivered =
        copy.accepted ++ remaining.take written ++ remaining.drop written := by
      rw [List.append_assoc, List.take_append_drop, same]
    by_cases all : (remaining.drop written).isEmpty
    · rw [if_pos all]
      rw [List.isEmpty_iff.mp all, List.append_nil] at split
      exact ⟨split, none⟩
    · rw [if_neg all]
      exact ⟨split, none⟩

theorem Invariant.afterShutdown (inv : copy.Invariant) (shutting : copy.pc = .shuttingDown)
    (result : Except IoError Unit) : (copy.afterShutdown result).Invariant := by
  have front := inv.front
  rw [Invariant, shutting] at inv
  obtain ⟨ended, same, none⟩ := inv
  cases result with
  | error error => exact front
  | ok _ => exact ⟨ended, same, by rw [Copy.afterShutdown, none]; rfl⟩

theorem Invariant.preserved (inv : copy.Invariant) {io : Io} (taken : copy.step io = some after) :
    after.Invariant := by
  cases io with
  | read chunk =>
      simp only [Copy.step] at taken
      split at taken
      · split at taken
        · obtain rfl := Option.some.inj taken
          exact inv.afterRead ‹_› chunk
        · cases taken
      · cases taken
  | readError error =>
      simp only [Copy.step] at taken
      split at taken
      · obtain rfl := Option.some.inj taken
        exact inv.front
      · cases taken
  | write written =>
      simp only [Copy.step] at taken
      split at taken
      · split at taken
        · obtain rfl := Option.some.inj taken
          exact inv.afterWrite ‹_› written
        · cases taken
      · cases taken
  | writeError error =>
      simp only [Copy.step] at taken
      split at taken
      · obtain rfl := Option.some.inj taken
        exact inv.front
      · cases taken
  | shutdown =>
      simp only [Copy.step] at taken
      split at taken
      · obtain rfl := Option.some.inj taken
        exact inv.afterShutdown ‹_› _
      · cases taken
  | shutdownError error =>
      simp only [Copy.step] at taken
      split at taken
      · obtain rfl := Option.some.inj taken
        exact inv.afterShutdown ‹_› _
      · cases taken

end Copy

/-! ## The relay -/

section Relay

variable {idleTimeout : Duration} {state after : State} {action : Action} {side : Side} {io : Io}

theorem stamp_copies (state : State) (io : Io) : (state.stamp io).copies = state.copies := by
  unfold State.stamp
  split
  · rfl
  · rfl

theorem copies_moved (side : Side) (copy : Copy) :
    Moves state.copies ((state.stamp io).moved side copy).copies side copy := by
  show Function.update (state.stamp io).copies side copy = _
  rw [stamp_copies]

theorem copies_pollIdle (state : State) (idleTimeout : Duration) :
    (state.pollIdle idleTimeout).copies = state.copies := by
  unfold State.pollIdle
  split
  · rfl
  · split
    · split
      · rfl
      · rfl
    · rfl

/-- The operations of one side. -/
def ofSide (side : Side) : Action → Option Io
  | .io mover io => if mover = side then some io else none
  | .tick _ | .idle => none

theorem ofSide_taken (taken : step idleTimeout state action = some after)
    (mine : ofSide side action = some io) :
    (state.copies side).step io = some (after.copies side) := by
  cases running : state.result with
  | some result =>
      simp only [step, running] at taken
      cases taken
  | none =>
      cases action with
      | tick elapsed => cases mine
      | idle => cases mine
      | io mover operation =>
          by_cases same : mover = side
          · rw [ofSide, if_pos same] at mine
            obtain rfl := Option.some.inj mine
            subst same
            simp only [step, running] at taken
            obtain ⟨copy, moves, rfl⟩ := Option.map_eq_some_iff.mp taken
            rw [moves, (copies_moved mover copy).self]
          · rw [ofSide, if_neg same] at mine
            cases mine

theorem ofSide_untouched (taken : step idleTimeout state action = some after)
    (others : ofSide side action = none) : after.copies side = state.copies side := by
  cases running : state.result with
  | some result =>
      simp only [step, running] at taken
      cases taken
  | none =>
      simp only [step, running] at taken
      cases action with
      | tick elapsed =>
          obtain rfl := Option.some.inj taken
          rfl
      | idle =>
          obtain rfl := Option.some.inj taken
          rw [copies_pollIdle]
      | io mover operation =>
          obtain ⟨copy, moves, rfl⟩ := Option.map_eq_some_iff.mp taken
          refine (copies_moved mover copy).of_ne ?_
          rintro rfl
          rw [ofSide, if_pos rfl] at others
          cases others

theorem invariant_of_step (inv : (state.copies side).Invariant)
    (taken : step idleTimeout state action = some after) : (after.copies side).Invariant := by
  cases mine : ofSide side action with
  | some io => exact inv.preserved (ofSide_taken taken mine)
  | none =>
      rw [ofSide_untouched taken mine]
      exact inv

theorem joined_ok {copies : Side → Copy} (both : joined copies = some (.ok ())) (side : Side) :
    (copies side).pc = .returned (.ok ()) := by
  unfold joined at both
  split at both
  · cases both
  · cases both
  · cases side with
    | toRemote => assumption
    | toClient => assumption
  · cases both

theorem joined_error {copies : Side → Copy} {error : IoError}
    (failed : joined copies = some (.error error)) :
    ∃ side, (copies side).pc = .returned (.error error) := by
  unfold joined at failed
  split at failed
  · obtain rfl := Except.error.inj (Option.some.inj failed)
    exact ⟨.toRemote, ‹_›⟩
  · obtain rfl := Except.error.inj (Option.some.inj failed)
    exact ⟨.toClient, ‹_›⟩
  · cases failed
  · cases failed

/-- Why the relay returns what it returns: both streams have ended and been passed on, a
copy failed, or nothing has moved for the idle timeout. -/
def Ends (idleTimeout : Duration) (state : State) : Except IoError Unit → Prop
  | .ok () => ∀ side, (state.copies side).pc = .returned (.ok ())
  | .error error => (∃ side, (state.copies side).pc = .returned (.error error)) ∨
      error = .timedOut ∧ state.progressed + idleTimeout ≤ state.now

/-- The stamp is the next full millisecond after the last progress. -/
structure Stamped (idleTimeout : Duration) (state : State) : Prop where
  activity : state.progressed < Duration.fromMillis state.activity
  ends : ∀ result, state.result = some result → Ends idleTimeout state result

theorem lt_fromMillis (now : Instant) : now < Duration.fromMillis (Duration.asMillis now + 1) := by
  have next : ∀ now : Nat, now < (now / 1000000 + 1) * 1000000 := by omega
  exact next now

theorem activity_stamp (before : state.progressed < Duration.fromMillis state.activity) (io : Io) :
    (state.stamp io).progressed < Duration.fromMillis (state.stamp io).activity := by
  unfold State.stamp
  split
  · exact lt_fromMillis state.now
  · exact before

theorem Stamped.moved (stamped : Stamped idleTimeout state) (io : Io) (side : Side) (copy : Copy) :
    Stamped idleTimeout ((state.stamp io).moved side copy) where
  activity := activity_stamp stamped.activity io
  ends := by
    intro result here
    cases result with
    | ok _ => exact joined_ok here
    | error error => exact .inl (joined_error here)

theorem Stamped.pollIdle (stamped : Stamped idleTimeout state) (running : state.result = none) :
    Stamped idleTimeout (state.pollIdle idleTimeout) := by
  have unended : ∀ last : Option Nat, Stamped idleTimeout { state with last := last } := by
    intro last
    refine ⟨stamped.activity, fun result here => ?_⟩
    rw [show state.result = some result from here] at running
    cases running
  unfold State.pollIdle
  split
  · exact unended _
  · rename_i last slept
    split
    · rename_i expired
      split
      · rename_i quiet
        refine ⟨stamped.activity, fun result here => ?_⟩
        obtain rfl := Option.some.inj here
        refine .inr ⟨rfl, Nat.le_trans (Nat.add_le_add_right ?_ _) expired⟩
        rw [← quiet]
        exact Nat.le_of_lt stamped.activity
      · exact unended _
    · exact stamped

theorem Stamped.preserved (stamped : Stamped idleTimeout state)
    (taken : step idleTimeout state action = some after) : Stamped idleTimeout after := by
  cases running : state.result with
  | some result =>
      simp only [step, running] at taken
      cases taken
  | none =>
      simp only [step, running] at taken
      cases action with
      | tick elapsed =>
          obtain rfl := Option.some.inj taken
          exact ⟨stamped.activity, fun result here => by cases here⟩
      | idle =>
          obtain rfl := Option.some.inj taken
          exact stamped.pollIdle running
      | io side io =>
          obtain ⟨copy, moves, rfl⟩ := Option.map_eq_some_iff.mp taken
          exact stamped.moved io side copy

end Relay

end Juicity.Server.TcpRelay
