import Juicity.Client.UdpSessions.Markers
import Juicity.Common.Bytes

/-!
Owns the number of streams of a source. A second stream of a source can only
come from a claim of its marker made after the first stream was opened. The
loop looks a session up and claims the marker in two steps; a source keeps one
stream in exactly the runs where the lookup is still right when the marker is
claimed and every stream that lost its session has ended by then.
-/

namespace Juicity.Client.UdpSessions

open Juicity.Common
open Juicity.Machine

universe u v

variable {Source : Type u} {Datagram : Type v} [DecidableEq Source]

/-- Each source has at most one stream that is being opened or has a writer. -/
def OneStream (state : State Source Datagram) : Prop :=
  ∀ task other stream rival,
    state.streams task = some stream → state.streams other = some rival →
      stream.live = true → rival.live = true → stream.source = rival.source → task = other

/-- When the loop claims a free marker, the source has no session with an open
channel, and every stream of the source that is still open has its session in
the map. -/
def ClaimsCurrent (state : State Source Datagram) (action : Action Source Datagram) : Prop :=
  ∀ source datagram, action = .claim → state.loop = .claiming source datagram →
    source ∉ state.opening →
      (∀ entry, state.sessions.lookup source = some entry → state.isClosed entry.tx = true) ∧
        ∀ task stream, state.streams task = some stream → stream.source = source →
          stream.opener.early = false → stream.live = true → state.sends task stream = true

section Preservation

variable {setting : Setting Source} {state after : State Source Datagram}
  {action : Action Source Datagram} {task : Nat} {stream : Stream Source Datagram}

/-- Streams that go on do not become more. -/
theorem OneStream.continued (one : OneStream state) (core : Core state)
    (streams : Evolved Continues state after) : OneStream after := by
  intro task other stream rival here there live rivalLive same
  obtain ⟨earlier, before, continued⟩ := streams.backward here
  obtain ⟨rivalEarlier, rivalBefore, rivalContinued⟩ := streams.backward there
  rw [continued.source, rivalContinued.source] at same
  have wasLive := continued.live (core.sound task earlier before) live
  have rivalWasLive := rivalContinued.live (core.sound other rivalEarlier rivalBefore) rivalLive
  exact one task other earlier rivalEarlier before rivalBefore wasLive rivalWasLive same

/-- A current claim finds no open stream of its source. -/
theorem Core.ended_of_current (core : Core state) (current : ClaimsCurrent state .claim)
    {source : Source} {datagram : Datagram} (claiming : state.loop = .claiming source datagram)
    (free : source ∉ state.opening) (here : state.streams task = some stream)
    (sourced : stream.source = source) : stream.live = false := by
  obtain ⟨closed, unlisted⟩ := current source datagram rfl claiming free
  by_contra running
  have live : stream.live = true := by simpa using running
  cases early : stream.opener.early with
  | true =>
      have marked := core.marked task stream here (holds_of_early early)
      rw [sourced] at marked
      exact free marked
  | false =>
      have sends := unlisted task stream here sourced early live
      obtain ⟨entry, found, same⟩ := (Option.any_eq_true _ _).mp sends
      rw [sourced] at found
      have ended := closed entry found
      rw [beq_iff_eq.mp same, isClosed_of_live here, live] at ended
      cases ended

theorem OneStream.claimed (one : OneStream state) (core : Core state)
    (current : ClaimsCurrent state .claim) {source : Source} {datagram : Datagram}
    (claiming : state.loop = .claiming source datagram) (free : source ∉ state.opening) :
    OneStream (state.claim source datagram) := by
  intro task other stream rival here there live rivalLive same
  rcases streams_claim free here with ⟨rfl, sourced, _⟩ | ⟨_, before⟩
  · rcases streams_claim free there with ⟨rfl, _⟩ | ⟨_, rivalBefore⟩
    · rfl
    · rw [core.ended_of_current current claiming free rivalBefore (same.symm.trans sourced)]
        at rivalLive
      cases rivalLive
  · rcases streams_claim free there with ⟨_, sourced, _⟩ | ⟨_, rivalBefore⟩
    · rw [core.ended_of_current current claiming free before (same.trans sourced)] at live
      cases live
    · exact one task other stream rival before rivalBefore live rivalLive same

end Preservation

/-- The invariant of the runs whose claims are all current. -/
structure Single (state : State Source Datagram) : Prop where
  core : Core state
  one : OneStream state

theorem single_initial : Single (initial : State Source Datagram) :=
  ⟨core_initial, by intro task other stream rival here; cases here⟩

theorem Single.preserved {setting : Setting Source} {state after : State Source Datagram}
    {action : Action Source Datagram} (single : Single state)
    (current : ClaimsCurrent state action) (taken : step setting state action = some after) :
    Single after := by
  refine ⟨single.core.preserved taken, ?_⟩
  cases took_of_step taken with
  | evolved streams sessions opening spawned running =>
      exact single.one.continued single.core
        (streams.mono fun _ _ evolves => evolves.toContinues)
  | claimed claiming free => exact single.one.claimed single.core current claiming free
  | inserted here connected =>
      exact single.one.continued single.core
        (.of_move Continues.refl here (continues_inserted connected) rfl)
  | released here releasing =>
      exact single.one.continued single.core
        (.of_move Continues.refl here (continues_released releasing) rfl)

/-- A source on the loopback address. -/
def exampleSource : SocketAddr := ⟨.v4 ⟨[127, 0, 0, 1], rfl⟩, 40000⟩

/-- One shard. -/
def exampleSetting (relay : Relay) : Setting SocketAddr := ⟨relay, 1, fun _ => 0⟩

end Juicity.Client.UdpSessions
