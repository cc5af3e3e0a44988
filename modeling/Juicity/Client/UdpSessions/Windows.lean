import Juicity.Client.UdpSessions.OneStream

/-!
Contract: the three ways to a second stream. The lookup before a claim may be
overtaken by an insertion, the cleanup may drop the session of a stream that is
open but idle, and a removal may hit a session newer than the one it checked.
A run in which none of them happens keeps one stream for each source.
-/

namespace Juicity.Client.UdpSessions

open Juicity.Common
open Juicity.Machine

universe u v

variable {Source : Type u} {Datagram : Type v} [DecidableEq Source]

/-- The lookup before a claim still holds, and until the loop ends no session
is removed whose channel is open. -/
structure Timely (setting : Setting Source) (state : State Source Datagram)
    (action : Action Source Datagram) : Prop where
  lookup : ∀ source datagram, action = .claim → state.loop = .claiming source datagram →
    ∀ entry, state.sessions.lookup source = some entry → state.isClosed entry.tx = true
  removal : ∀ source entry, state.loop.running = true →
    state.sessions.lookup source = some entry →
      Removes setting state action source entry → state.isClosed entry.tx = true

/-- Until the loop ends, every open stream that was inserted has its session. -/
def Listed (state : State Source Datagram) : Prop :=
  state.loop.running = true → ∀ task stream, state.streams task = some stream →
    stream.opener.early = false → stream.live = true → state.sends task stream = true

theorem sends_iff {state : State Source Datagram} {task : Nat}
    {stream : Stream Source Datagram} :
    state.sends task stream = true ↔
      ∃ entry, state.sessions.lookup stream.source = some entry ∧ entry.tx = task := by
  simp [State.sends, Option.any_eq_true]

section Preservation

variable {setting : Setting Source} {state after : State Source Datagram}
  {action : Action Source Datagram} {task : Nat} {stream : Stream Source Datagram}

theorem Listed.evolved (listed : Listed state) (core : Core state)
    (timely : Timely setting state action) (streams : Evolved Evolves state after)
    (sessions : Shrinks setting state action after.sessions)
    (running : after.loop.running = true → state.loop.running = true) : Listed after := by
  intro runs task stream here late live
  obtain ⟨earlier, before, evolves⟩ := streams.backward here
  have wasLive := evolves.live (core.sound task earlier before) live
  have wasLate : earlier.opener.early = false := by
    by_contra early
    rw [evolves.settled live (by simpa using early)] at late
    cases late
  obtain ⟨entry, found, same⟩ :=
    sends_iff.mp (listed (running runs) task earlier before wasLate wasLive)
  apply sends_iff.mpr
  rw [evolves.source]
  rcases sessions.after earlier.source entry found with ⟨new, kept, sameTx⟩ | removes
  · exact ⟨new, kept, sameTx.trans same⟩
  · have closed := timely.removal earlier.source entry (running runs) found removes
    rw [same, isClosed_of_live before, wasLive] at closed
    cases closed

theorem Listed.claimed (listed : Listed state) {source : Source} {datagram : Datagram}
    (claiming : state.loop = .claiming source datagram) (free : source ∉ state.opening) :
    Listed (state.claim source datagram) := by
  intro _ task stream here late live
  have runs : state.loop.running = true := by rw [claiming]; rfl
  have sends : (state.claim source datagram).sends task stream = state.sends task stream := by
    rw [State.claim, if_neg free]
    rfl
  rcases streams_claim free here with ⟨_, _, connecting, _⟩ | ⟨_, before⟩
  · rw [connecting] at late
    cases late
  · rw [sends]
    exact listed runs task stream before late live

theorem Listed.inserted (listed : Listed state) (single : Single state)
    (here : state.streams task = some stream) (connected : stream.opener = .connected)
    {now : Nat} : Listed (state.insertSession task stream now) := by
  have early : stream.opener.early = true := by rw [connected]; rfl
  have live := (single.core.sound task stream here).live_of_early early
  intro runs other rival there late rivalLive
  apply sends_iff.mpr
  rcases update_cases there with ⟨rfl, rfl⟩ | ⟨different, before⟩
  · exact ⟨_, lookup_insertSession_self, rfl⟩
  · have sourced : rival.source ≠ stream.source := fun same =>
      different (single.one other task rival stream before here rivalLive live same)
    rw [lookup_insertSession_of_ne sourced]
    exact sends_iff.mp (listed runs other rival before late rivalLive)

theorem Listed.released (listed : Listed state) (here : state.streams task = some stream)
    (releasing : stream.opener = .releasing) : Listed (state.dropGuard task stream) := by
  intro runs other rival there late live
  rcases update_cases there with ⟨rfl, rfl⟩ | ⟨_, before⟩
  · exact listed runs other stream here (by rw [releasing]; rfl) live
  · exact listed runs other rival before late live

theorem Listed.claimsCurrent (listed : Listed state) (timely : Timely setting state action) :
    ClaimsCurrent state action := by
  intro source datagram claims claiming free
  refine ⟨timely.lookup source datagram claims claiming, ?_⟩
  intro task stream here _ late live
  exact listed (by rw [claiming]; rfl) task stream here late live

theorem Listed.preserved (listed : Listed state) (single : Single state)
    (timely : Timely setting state action) (taken : step setting state action = some after) :
    Listed after := by
  cases took_of_step taken with
  | evolved streams sessions opening spawned running =>
      exact listed.evolved single.core timely streams sessions running
  | claimed claiming free => exact listed.claimed claiming free
  | inserted here connected => exact listed.inserted single here connected
  | released here releasing => exact listed.released here releasing

end Preservation

/-- A run with timely lookups and removals keeps one stream for each source. -/
theorem oneStream_of_timely (setting : Setting Source)
    {history : List (State Source Datagram × Action Source Datagram)}
    {final : State Source Datagram} (run : Run (step setting) initial history final)
    (timely : Allowed (Timely setting) history) : Everywhere OneStream history final := by
  have start : Single (initial : State Source Datagram) ∧
      Listed (initial : State Source Datagram) :=
    ⟨single_initial, by intro _ task stream here; cases here⟩
  have every : Everywhere (fun state => Single state ∧ Listed state) history final := by
    apply run.invariant_of_allowed
    · exact start
    · intro state action after both fine taken
      exact ⟨both.1.preserved (both.2.claimsCurrent fine) taken,
        both.2.preserved both.1 fine taken⟩
    · exact timely
  exact every.mono fun _ both => both.1.one

end Juicity.Client.UdpSessions
