import Juicity.Client.UdpSessions.Steps

/-!
Owns the opening markers: the marker of a source is taken exactly while one
opening task holds it, and every session belongs to a stream of its source
whose opening task has inserted it.
-/

namespace Juicity.Client.UdpSessions

open Juicity.Common
open Juicity.Machine

universe u v

variable {Source : Type u} {Datagram : Type v} [DecidableEq Source]

/-- What every run keeps. -/
structure Core (state : State Source Datagram) : Prop where
  sound : ∀ task stream, state.streams task = some stream → stream.Sound
  fresh : ∀ task stream, state.streams task = some stream → task < state.spawned
  marked : ∀ task stream, state.streams task = some stream → stream.opener.holds = true →
    stream.source ∈ state.opening
  held : ∀ source ∈ state.opening, ∃ task stream, state.streams task = some stream ∧
    stream.opener.holds = true ∧ stream.source = source
  alone : ∀ task other stream rival, state.streams task = some stream →
    state.streams other = some rival → stream.opener.holds = true →
      rival.opener.holds = true → stream.source = rival.source → task = other
  listed : ∀ source entry, state.sessions.lookup source = some entry →
    ∃ stream, state.streams entry.tx = some stream ∧ stream.source = source ∧
      stream.opener.early = false

theorem core_initial : Core (initial : State Source Datagram) where
  sound := by intro task stream here; cases here
  fresh := by intro task stream here; cases here
  marked := by intro task stream here; cases here
  held := by intro source marked; simp [initial] at marked
  alone := by intro task other stream rival here; cases here
  listed := by intro source entry found; cases found

section Preservation

variable {setting : Setting Source} {state after : State Source Datagram}
  {action : Action Source Datagram} {task : Nat} {stream : Stream Source Datagram}

/-- The streams go on, and the maps after the step are right. -/
theorem Core.continued (core : Core state) (streams : Evolved Continues state after)
    (spawned : after.spawned = state.spawned)
    (marked : ∀ task stream, after.streams task = some stream →
      stream.opener.holds = true → stream.source ∈ after.opening)
    (held : ∀ source ∈ after.opening, ∃ task stream, after.streams task = some stream ∧
      stream.opener.holds = true ∧ stream.source = source)
    (listed : ∀ source entry, after.sessions.lookup source = some entry →
      ∃ stream, after.streams entry.tx = some stream ∧ stream.source = source ∧
        stream.opener.early = false) : Core after where
  sound := by
    intro task stream here
    obtain ⟨earlier, before, continued⟩ := streams.backward here
    exact continued.sound (core.sound task earlier before)
  fresh := by
    intro task stream here
    obtain ⟨earlier, before, _⟩ := streams.backward here
    rw [spawned]
    exact core.fresh task earlier before
  marked := marked
  held := held
  alone := by
    intro task other stream rival here there holds rivalHolds same
    obtain ⟨earlier, before, continued⟩ := streams.backward here
    obtain ⟨rivalEarlier, rivalBefore, rivalContinued⟩ := streams.backward there
    rw [continued.source, rivalContinued.source] at same
    exact core.alone task other earlier rivalEarlier before rivalBefore (continued.holds holds)
      (rivalContinued.holds rivalHolds) same
  listed := listed

/-- A session that was there before still belongs to a stream of its source. -/
theorem Core.listed_of_before (core : Core state) (streams : Evolved Continues state after)
    {source : Source} {old : UdpSessionEntry} {tx : Nat}
    (found : state.sessions.lookup source = some old) (same : old.tx = tx) :
    ∃ stream, after.streams tx = some stream ∧ stream.source = source ∧
      stream.opener.early = false := by
  obtain ⟨stream, here, sourced, late⟩ := core.listed source old found
  rw [same] at here
  obtain ⟨later, there, continued⟩ := streams.forward here
  exact ⟨later, there, continued.source.trans sourced, continued.late late⟩

theorem Core.evolved (core : Core state) (streams : Evolved Evolves state after)
    (sessions : Shrinks setting state action after.sessions)
    (opening : after.opening = state.opening) (spawned : after.spawned = state.spawned) :
    Core after := by
  have continued : Evolved Continues state after :=
    streams.mono fun _ _ evolves => evolves.toContinues
  apply core.continued continued spawned
  · intro task stream here holds
    obtain ⟨earlier, before, evolves⟩ := streams.backward here
    rw [opening, evolves.source]
    exact core.marked task earlier before (evolves.holds holds)
  · intro source marked
    rw [opening] at marked
    obtain ⟨task, stream, here, holds, sourced⟩ := core.held source marked
    obtain ⟨later, there, evolves⟩ := streams.forward here
    exact ⟨task, later, there, evolves.kept holds, evolves.source.trans sourced⟩
  · intro source entry found
    obtain ⟨old, before, same⟩ := sessions.before source entry found
    exact core.listed_of_before continued before same

theorem Core.inserted (core : Core state) (here : state.streams task = some stream)
    (connected : stream.opener = .connected) {now : Nat} :
    Core (state.insertSession task stream now) := by
  have continued : Evolved Continues state (state.insertSession task stream now) :=
    .of_move Continues.refl here (continues_inserted connected) rfl
  apply core.continued continued rfl
  · intro other later there holds
    obtain ⟨earlier, before, moves⟩ := continued.backward there
    rw [moves.source]
    exact core.marked other earlier before (moves.holds holds)
  · intro source marked
    obtain ⟨other, holder, there, holds, sourced⟩ := core.held source marked
    by_cases same : other = task
    · subst same
      obtain rfl := Option.some.inj (here.symm.trans there)
      exact ⟨other, _, Function.update_self .., rfl, sourced⟩
    · exact ⟨other, holder, (Function.update_of_ne same ..).trans there, holds, sourced⟩
  · intro source entry found
    by_cases same : source = stream.source
    · subst same
      rw [lookup_insertSession_self] at found
      obtain rfl := Option.some.inj found
      exact ⟨_, Function.update_self .., rfl, rfl⟩
    · rw [lookup_insertSession_of_ne same] at found
      exact core.listed_of_before continued found rfl

theorem Core.released (core : Core state) (here : state.streams task = some stream)
    (releasing : stream.opener = .releasing) :
    Core (state.dropGuard task stream) := by
  have continued : Evolved Continues state (state.dropGuard task stream) :=
    .of_move Continues.refl here (continues_released releasing) rfl
  have holding : stream.opener.holds = true := by rw [releasing]; rfl
  apply core.continued continued rfl
  · intro other later there holds
    rcases update_cases there with ⟨_, rfl⟩ | ⟨same, before⟩
    · cases holds
    · have different : later.source ≠ stream.source := fun sourced =>
        same (core.alone other task later stream before here holds holding sourced)
      exact Finset.mem_erase.mpr ⟨different, core.marked other later before holds⟩
  · intro source marked
    obtain ⟨different, before⟩ := Finset.mem_erase.mp marked
    obtain ⟨other, holder, there, holds, sourced⟩ := core.held source before
    have another : other ≠ task := by
      rintro rfl
      obtain rfl := Option.some.inj (here.symm.trans there)
      exact different sourced.symm
    exact ⟨other, holder, (Function.update_of_ne another ..).trans there, holds, sourced⟩
  · intro source entry found
    exact core.listed_of_before continued found rfl

/-- The stream a claim starts, or one that was there. -/
theorem streams_claim {source : Source} {datagram : Datagram} (free : source ∉ state.opening)
    (here : (state.claim source datagram).streams task = some stream) :
    task = state.spawned ∧ stream.source = source ∧ stream.opener = .connecting ∧
        stream.writer = .unspawned ∧ stream.supervisor = .unspawned ∨
      task ≠ state.spawned ∧ state.streams task = some stream := by
  rw [State.claim, if_neg free] at here
  rcases update_cases here with ⟨same, rfl⟩ | before
  · exact .inl ⟨same, rfl, rfl, rfl, rfl⟩
  · exact .inr before

theorem streams_claim_self {source : Source} (datagram : Datagram)
    (free : source ∉ state.opening) :
    ∃ stream, (state.claim source datagram).streams state.spawned = some stream ∧
      stream.source = source ∧ stream.opener.holds = true ∧ stream.live = true := by
  rw [State.claim, if_neg free]
  exact ⟨_, Function.update_self .., rfl, rfl, rfl⟩

theorem streams_claim_of_before (core : Core state) {source : Source} {datagram : Datagram}
    (free : source ∉ state.opening) (here : state.streams task = some stream) :
    (state.claim source datagram).streams task = some stream := by
  have old : task ≠ state.spawned := (core.fresh task stream here).ne
  rw [State.claim, if_neg free]
  exact (Function.update_of_ne old ..).trans here

theorem Core.claimed (core : Core state) {source : Source} {datagram : Datagram}
    (free : source ∉ state.opening) : Core (state.claim source datagram) := by
  have opening : (state.claim source datagram).opening = insert source state.opening := by
    rw [State.claim, if_neg free]
  have spawned : (state.claim source datagram).spawned = state.spawned + 1 := by
    rw [State.claim, if_neg free]
  have sessions : (state.claim source datagram).sessions = state.sessions := by
    rw [State.claim, if_neg free]
  constructor
  case sound =>
    intro task stream here
    rcases streams_claim free here with ⟨_, _, _, writer, supervisor⟩ | ⟨_, before⟩
    · exact ⟨fun _ => supervisor, fun _ => writer, fun _ => writer⟩
    · exact core.sound task stream before
  case fresh =>
    intro task stream here
    rw [spawned]
    rcases streams_claim free here with ⟨rfl, _⟩ | ⟨_, before⟩
    · exact Nat.lt_succ_self _
    · exact Nat.lt_succ_of_lt (core.fresh task stream before)
  case marked =>
    intro task stream here holds
    rw [opening]
    rcases streams_claim free here with ⟨_, rfl, _⟩ | ⟨_, before⟩
    · exact Finset.mem_insert_self ..
    · exact Finset.mem_insert_of_mem (core.marked task stream before holds)
  case held =>
    intro other marked
    rw [opening] at marked
    rcases Finset.mem_insert.mp marked with rfl | before
    · obtain ⟨stream, here, sourced, holds, _⟩ := streams_claim_self datagram free
      exact ⟨_, stream, here, holds, sourced⟩
    · obtain ⟨task, stream, here, holds, sourced⟩ := core.held other before
      exact ⟨task, stream, streams_claim_of_before core free here, holds, sourced⟩
  case alone =>
    intro task other stream rival here there holds rivalHolds same
    rcases streams_claim free here with ⟨rfl, sourced, _⟩ | ⟨_, before⟩
    · rcases streams_claim free there with ⟨rfl, _⟩ | ⟨_, rivalBefore⟩
      · rfl
      · have marked := core.marked other rival rivalBefore rivalHolds
        rw [← same, sourced] at marked
        exact absurd marked free
    · rcases streams_claim free there with ⟨_, sourced, _⟩ | ⟨_, rivalBefore⟩
      · have marked := core.marked task stream before holds
        rw [same, sourced] at marked
        exact absurd marked free
      · exact core.alone task other stream rival before rivalBefore holds rivalHolds same
  case listed =>
    intro other entry found
    rw [sessions] at found
    obtain ⟨stream, here, sourced, late⟩ := core.listed other entry found
    exact ⟨stream, streams_claim_of_before core free here, sourced, late⟩

theorem Core.preserved (core : Core state) (taken : step setting state action = some after) :
    Core after := by
  cases took_of_step taken with
  | evolved streams sessions opening spawned running =>
      exact core.evolved streams sessions opening spawned
  | claimed claiming free => exact core.claimed free
  | inserted here connected => exact core.inserted here connected
  | released here releasing => exact core.released here releasing

end Preservation

/-- In every reachable state the marker of a source is taken exactly when one
opening task holds it. -/
theorem mem_opening_iff {setting : Setting Source} {state : State Source Datagram}
    (reached : Reachable (step setting) initial state) (source : Source) :
    source ∈ state.opening ↔ ∃! task, ∃ stream, state.streams task = some stream ∧
      stream.opener.holds = true ∧ stream.source = source := by
  have core : Core state :=
    reached.invariant core_initial fun _ _ _ core taken => core.preserved taken
  constructor
  · intro marked
    obtain ⟨task, stream, here, holds, sourced⟩ := core.held source marked
    refine ⟨task, ⟨stream, here, holds, sourced⟩, ?_⟩
    rintro other ⟨rival, there, rivalHolds, rivalSourced⟩
    exact core.alone other task rival stream there here rivalHolds holds
      (rivalSourced.trans sourced.symm)
  · rintro ⟨task, ⟨stream, here, holds, rfl⟩, _⟩
    exact core.marked task stream here holds

end Juicity.Client.UdpSessions
