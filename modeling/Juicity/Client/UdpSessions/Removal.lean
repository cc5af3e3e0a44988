import Juicity.Client.UdpSessions.OneStream

/-!
Contract: whose entry a removal by identifier takes out. `remove_session_if_match`
and its inline copies of the forwarder compare the identifier under a guard that is
dropped before the entry is removed. The receive loop keeps the identifier in a
local variable, which stands beside the state here.

A removal takes the entry it compared unless a stream is inserted in between.
-/

namespace Juicity.Client.UdpSessions

open Juicity.Common
open Juicity.Machine

universe u v

variable {Source : Type u} {Datagram : Type v}

/-- The local `session_id` of the receive loop: what it compares, or compared last. -/
def Loop.sessionId (compared : UInt64) : Loop Source Datagram → UInt64
  | .checking _ _ id => id
  | _ => compared

/-- The relay, and the identifier that the receive loop compared last. -/
structure Compared (Source : Type u) (Datagram : Type v) where
  state : State Source Datagram
  sessionId : UInt64

def Compared.initial : Compared Source Datagram := ⟨UdpSessions.initial, 0⟩

/-- A task that has found the entry of the source to have the identifier, and whose next
action on the map is to remove the entry of the source. -/
inductive Pending (compared : Compared Source Datagram) :
    Action Source Datagram → Source → UInt64 → Prop where
  | loop {source : Source} {datagram : Datagram}
      (removing : compared.state.loop = .removing source datagram) :
      Pending compared .removeClosed source compared.sessionId
  | supervisor {task : Nat} {stream : Stream Source Datagram}
      (here : compared.state.streams task = some stream)
      (removing : stream.supervisor = .removing) :
      Pending compared (.stream task .removeSession) stream.source stream.id

theorem Pending.of_supervisor {compared : Compared Source Datagram} {task : Nat}
    {stream : Stream Source Datagram} {source : Source} {id : UInt64}
    (here : compared.state.streams task = some stream) (removing : stream.supervisor = .removing)
    (sourced : stream.source = source) (identified : stream.id = id) :
    Pending compared (.stream task .removeSession) source id := by
  subst sourced identified
  exact .supervisor here removing

theorem Pending.loop_or_supervisor {compared : Compared Source Datagram}
    {removal : Action Source Datagram} {source : Source} {id : UInt64}
    (pending : Pending compared removal source id) :
    (∃ datagram, compared.state.loop = .removing source datagram) ∨
      ∃ task stream, compared.state.streams task = some stream ∧
        stream.supervisor = .removing := by
  cases pending with
  | loop removing => exact .inl ⟨_, removing⟩
  | supervisor here removing => exact .inr ⟨_, _, here, removing⟩

variable [DecidableEq Source]

def compareStep (setting : Setting Source) (compared : Compared Source Datagram)
    (action : Action Source Datagram) : Option (Compared Source Datagram) :=
  (step setting compared.state action).map fun after =>
    ⟨after, compared.state.loop.sessionId compared.sessionId⟩

/-- If this action is the removal for a source and an identifier, the entry it takes out
has the identifier. -/
def RemovesOwn (compared : Compared Source Datagram) (action : Action Source Datagram) : Prop :=
  ∀ source id entry, Pending compared action source id →
    compared.state.sessions.lookup source = some entry → entry.id = id

/-- If this action inserts a stream, nobody is about to remove the entry of its source
for another identifier. -/
def Undisturbed (compared : Compared Source Datagram) (action : Action Source Datagram) : Prop :=
  ∀ task now stream, action = .stream task (.insertSession now) →
    compared.state.streams task = some stream → stream.opener = .connected →
      ∀ removal id, Pending compared removal stream.source id → stream.id = id

/-- Every removal that is about to happen would take out its own entry. -/
def Guarded (compared : Compared Source Datagram) : Prop :=
  ∀ action, RemovesOwn compared action

/-- Every entry was there before, under the same identifier. -/
def SameIds (before after : Table Source UdpSessionEntry) : Prop :=
  ∀ source entry, after.lookup source = some entry →
    ∃ old, before.lookup source = some old ∧ old.id = entry.id

namespace SameIds

variable {sessions : Table Source UdpSessionEntry}

theorem refl (sessions : Table Source UdpSessionEntry) : SameIds sessions sessions :=
  fun _ entry found => ⟨entry, found, rfl⟩

theorem touch {source : Source} {entry : UdpSessionEntry} {now : Nat}
    (found : sessions.lookup source = some entry) :
    SameIds sessions (sessions.insert source { entry with lastUsedMs := now }) := by
  intro other new listed
  obtain ⟨old, before, same⟩ := lookup_touch found listed
  exact ⟨old, before, by rw [same]⟩

theorem erase (source : Source) : SameIds sessions (sessions.erase source) := by
  intro other new listed
  by_cases same : other = source
  · subst same
    rw [AList.lookup_erase] at listed
    cases listed
  · rw [AList.lookup_erase_ne same] at listed
    exact ⟨new, listed, rfl⟩

theorem retainShard {state : State Source Datagram} {setting : Setting Source} {shard : Nat}
    {keep : UdpSessionEntry → Bool} :
    SameIds state.sessions (state.retainShard setting shard keep) :=
  fun _ entry listed => ⟨entry, Table.lookup_of_lookup_retain listed, rfl⟩

end SameIds

/-! ## What one action does to the removals that are pending -/

section Preservation

variable {setting : Setting Source} {state after : State Source Datagram}
  {action : Action Source Datagram} {task : Nat} {stream : Stream Source Datagram}

/-- A move of one stream that inserts nothing. -/
structure Moved (state : State Source Datagram) (task : Nat)
    (stream moved : Stream Source Datagram) (after : State Source Datagram) : Prop where
  streams : after.streams = Function.update state.streams task (some moved)
  source : moved.source = stream.source
  id : moved.id = stream.id
  loop : after.loop = state.loop
  sessions : SameIds state.sessions after.sessions
  removing : moved.supervisor = .removing → stream.supervisor = .removing ∨
    state.sessionMatches stream.source stream.id = true

theorem moved_setStream {moved : Stream Source Datagram} (source : moved.source = stream.source)
    (id : moved.id = stream.id)
    (removing : moved.supervisor = .removing → stream.supervisor = .removing ∨
      state.sessionMatches stream.source stream.id = true) :
    Moved state task stream moved (state.setStream task moved) :=
  ⟨rfl, source, id, rfl, .refl _, removing⟩

theorem moved_of_move {move : Move} (inserts : ∀ now, move ≠ .insertSession now)
    (taken : state.move setting task stream move = some after) :
    ∃ moved, Moved state task stream moved after := by
  cases move with
  | insertSession now => exact absurd rfl (inserts now)
  | connect ok =>
      simp only [State.move] at taken
      split at taken
      · obtain rfl := Option.some.inj taken
        refine ⟨_, moved_setStream ?_ ?_ ?_⟩
        · cases ok with
          | true => rfl
          | false => rfl
        · cases ok with
          | true => rfl
          | false => rfl
        · cases ok with
          | true => exact .inl
          | false => exact .inl
      · cases taken
  | spawnTasks =>
      simp only [State.move] at taken
      split at taken
      · split at taken
        · obtain rfl := Option.some.inj taken
          exact ⟨_, moved_setStream rfl rfl fun impossible => by cases impossible⟩
        · obtain rfl := Option.some.inj taken
          exact ⟨_, moved_setStream rfl rfl fun impossible => by cases impossible⟩
      · cases taken
  | dropGuard =>
      simp only [State.move] at taken
      split at taken
      · obtain rfl := Option.some.inj taken
        exact ⟨_, rfl, rfl, rfl, rfl, .refl _, .inl⟩
      · cases taken
  | launch | readerEnded | readerAborted | writerJoined | readerJoined | superviseCancel =>
      simp only [State.move] at taken
      split at taken
      · obtain rfl := Option.some.inj taken
        first
        | exact ⟨_, moved_setStream rfl rfl .inl⟩
        | exact ⟨_, moved_setStream rfl rfl fun impossible => by cases impossible⟩
      · cases taken
  | takeItem =>
      simp only [State.move] at taken
      split at taken
      · obtain rfl := Option.some.inj taken
        exact ⟨_, moved_setStream rfl rfl .inl⟩
      · split at taken
        · cases taken
        · obtain rfl := Option.some.inj taken
          exact ⟨_, moved_setStream rfl rfl .inl⟩
      · cases taken
  | sent ok | writerIdle | writerAborted =>
      simp only [State.move] at taken
      split at taken
      all_goals first
        | obtain rfl := Option.some.inj taken
          exact ⟨_, moved_setStream rfl rfl .inl⟩
        | cases taken
  | join =>
      simp only [State.move] at taken
      split at taken
      · split at taken
        · obtain rfl := Option.some.inj taken
          exact ⟨_, moved_setStream rfl rfl fun impossible => by cases impossible⟩
        · cases taken
      · split at taken
        · obtain rfl := Option.some.inj taken
          exact ⟨_, moved_setStream rfl rfl fun impossible => by cases impossible⟩
        · cases taken
      · cases taken
  | checkSession =>
      simp only [State.move] at taken
      split at taken
      · obtain rfl := Option.some.inj taken
        refine ⟨_, moved_setStream rfl rfl fun removing => .inr ?_⟩
        by_contra unmatched
        rw [show (if state.sessionMatches stream.source stream.id then Supervisor.removing
          else Supervisor.done) = .done from if_neg unmatched] at removing
        cases removing
      · cases taken
  | removeSession =>
      simp only [State.move] at taken
      split at taken
      · obtain rfl := Option.some.inj taken
        exact ⟨_, rfl, rfl, rfl, rfl, .erase _, fun impossible => by cases impossible⟩
      · cases taken

theorem sessionMatches_eq_true {source : Source} {id : UInt64} {entry : UdpSessionEntry}
    (compared : state.sessionMatches source id = true)
    (found : state.sessions.lookup source = some entry) : entry.id = id := by
  rw [State.sessionMatches, found, Option.any_some] at compared
  exact beq_iff_eq.mp compared

/-- Where the pending removals after an action come from, and the entries they meet. -/
structure Follows (before after : Compared Source Datagram) : Prop where
  sessions : SameIds before.state.sessions after.state.sessions
  pending : ∀ removal source id, Pending after removal source id →
    Pending before removal source id ∨ before.state.sessionMatches source id = true

theorem Follows.guarded {before after : Compared Source Datagram} (follows : Follows before after)
    (guarded : Guarded before) : Guarded after := by
  intro removal source id entry pending found
  obtain ⟨old, listed, same⟩ := follows.sessions source entry found
  rw [← same]
  rcases follows.pending removal source id pending with before | compared
  · exact guarded removal source id old before listed
  · exact sessionMatches_eq_true compared listed

variable {compared : Compared Source Datagram}

/-- An action of one stream that inserts nothing. -/
theorem follows_move {moved : Stream Source Datagram}
    (here : compared.state.streams task = some stream)
    (moves : Moved compared.state task stream moved after) :
    Follows compared ⟨after, compared.state.loop.sessionId compared.sessionId⟩ where
  sessions := moves.sessions
  pending := by
    intro removal source id pending
    cases pending with
    | loop removing =>
        have before : compared.state.loop = _ := moves.loop.symm.trans removing
        left
        rw [before]
        exact .loop before
    | @supervisor other rival there removing =>
        dsimp only at there
        rw [moves.streams] at there
        rcases update_cases there with ⟨rfl, rfl⟩ | ⟨_, before⟩
        · rw [moves.source, moves.id]
          exact (moves.removing removing).imp_left fun earlier => .supervisor here earlier
        · exact .inl (.supervisor before removing)

/-- An action of the receive loop or of the cleanup: it starts no supervisor, and leaves
the loop about to remove only what it has compared. -/
theorem follows_idle (sessions : SameIds compared.state.sessions after.sessions)
    (streams : ∀ task stream, after.streams task = some stream → stream.supervisor = .removing →
      ∃ earlier, compared.state.streams task = some earlier ∧ earlier.supervisor = .removing ∧
        earlier.source = stream.source ∧ earlier.id = stream.id)
    (loop : ∀ source datagram, after.loop = .removing source datagram →
      compared.state.loop = .removing source datagram ∨
        compared.state.sessionMatches source
          (compared.state.loop.sessionId compared.sessionId) = true) :
    Follows compared ⟨after, compared.state.loop.sessionId compared.sessionId⟩ where
  sessions := sessions
  pending := by
    intro removal source id pending
    cases pending with
    | loop removing =>
        refine (loop _ _ removing).imp_left fun before => ?_
        dsimp only
        rw [before]
        exact .loop before
    | supervisor there removing =>
        obtain ⟨earlier, before, late, source, id⟩ := streams _ _ there removing
        left
        rw [← source, ← id]
        exact .supervisor before late

omit [DecidableEq Source] in
theorem same_streams (streams : after.streams = state.streams) (task : Nat)
    (stream : Stream Source Datagram) (there : after.streams task = some stream)
    (removing : stream.supervisor = .removing) :
    ∃ earlier, state.streams task = some earlier ∧ earlier.supervisor = .removing ∧
      earlier.source = stream.source ∧ earlier.id = stream.id :=
  ⟨stream, by rw [← streams]; exact there, removing, rfl, rfl⟩

theorem follows_receive {source : Source} {datagram : Datagram} {now : Nat} :
    Follows compared ⟨compared.state.receive source datagram now,
      compared.state.loop.sessionId compared.sessionId⟩ := by
  have idle : ∀ other payload, compared.state.loop = .removing other payload →
      compared.state.loop = .removing other payload ∨ compared.state.sessionMatches other
        (compared.state.loop.sessionId compared.sessionId) = true := fun _ _ => .inl
  unfold State.receive
  split
  · rename_i entry found
    split
    · exact follows_idle (.touch found) (same_streams rfl)
        fun _ _ impossible => by cases impossible
    · unfold State.trySend
      dsimp only
      split
      · rename_i stream here
        split
        · refine follows_idle (.touch found) ?_ idle
          intro task later there removing
          rcases update_cases there with ⟨rfl, rfl⟩ | ⟨_, before⟩
          · exact ⟨stream, here, removing, rfl, rfl⟩
          · exact ⟨later, before, removing, rfl, rfl⟩
        · exact follows_idle (.touch found) (same_streams rfl) idle
      · exact follows_idle (.touch found) (same_streams rfl) idle
  · exact follows_idle (.refl _) (same_streams rfl) fun _ _ impossible => by cases impossible

theorem follows_claim {source : Source} {datagram : Datagram} :
    Follows compared ⟨compared.state.claim source datagram,
      compared.state.loop.sessionId compared.sessionId⟩ := by
  by_cases marked : source ∈ compared.state.opening
  · rw [State.claim, if_pos marked]
    exact follows_idle (.refl _) (same_streams rfl) fun _ _ impossible => by cases impossible
  · refine follows_idle ?_ ?_ ?_
    · rw [State.claim, if_neg marked]
      exact .refl _
    · intro task stream there removing
      rcases streams_claim marked there with ⟨_, _, _, _, unspawned⟩ | ⟨_, before⟩
      · rw [unspawned] at removing
        cases removing
      · exact ⟨stream, before, removing, rfl, rfl⟩
    · rw [State.claim, if_neg marked]
      intro _ _ impossible
      cases impossible

/-- Every action but an insertion starts a removal only after it has compared. -/
theorem follows_of_step (inserts : ∀ task now, action ≠ .stream task (.insertSession now))
    (taken : step setting compared.state action = some after) :
    Follows compared ⟨after, compared.state.loop.sessionId compared.sessionId⟩ := by
  cases action with
  | receive source datagram now =>
      simp only [step] at taken
      split at taken
      · obtain rfl := Option.some.inj taken
        exact follows_receive
      · cases taken
  | checkClosed =>
      simp only [step] at taken
      split at taken
      · rename_i source datagram id checking
        obtain rfl := Option.some.inj taken
        refine follows_idle (.refl _) (same_streams rfl) fun other payload removing => .inr ?_
        dsimp only at removing
        split at removing
        · rename_i same
          obtain ⟨rfl, rfl⟩ := Loop.removing.inj removing
          rw [checking]
          exact same
        · cases removing
      · cases taken
  | removeClosed =>
      simp only [step] at taken
      split at taken
      · obtain rfl := Option.some.inj taken
        exact follows_idle (.erase _) (same_streams rfl) fun _ _ impossible => by cases impossible
      · cases taken
  | claim =>
      simp only [step] at taken
      split at taken
      · obtain rfl := Option.some.inj taken
        exact follows_claim
      · cases taken
  | receiveError | natTimeout | controlClosed | closeControl | startSweep now =>
      simp only [step] at taken
      split at taken
      · obtain rfl := Option.some.inj taken
        first
        | exact follows_idle (.refl _) (same_streams rfl) fun _ _ => .inl
        | exact follows_idle (.refl _) (same_streams rfl) fun _ _ impossible => by cases impossible
      · cases taken
  | clearShard =>
      simp only [step] at taken
      split at taken
      · split at taken
        · obtain rfl := Option.some.inj taken
          exact follows_idle .retainShard (same_streams rfl)
            fun _ _ impossible => by cases impossible
        · obtain rfl := Option.some.inj taken
          exact follows_idle (.refl _) (same_streams rfl) fun _ _ impossible => by cases impossible
      · cases taken
  | sweepShard =>
      simp only [step] at taken
      split at taken
      · split at taken
        · obtain rfl := Option.some.inj taken
          exact follows_idle .retainShard (same_streams rfl) fun _ _ => .inl
        · obtain rfl := Option.some.inj taken
          exact follows_idle (.refl _) (same_streams rfl) fun _ _ => .inl
      · cases taken
  | stream task move =>
      simp only [step] at taken
      split at taken
      · rename_i stream here
        obtain ⟨moved, moves⟩ :=
          moved_of_move (fun now same => inserts task now (by rw [same])) taken
        exact follows_move here moves
      · cases taken

/-- The removals that are pending after an insertion were pending before. -/
theorem pending_insertSession {now : Nat} {removal : Action Source Datagram} {source : Source}
    {id : UInt64} (here : compared.state.streams task = some stream)
    (pending : Pending ⟨compared.state.insertSession task stream now,
      compared.state.loop.sessionId compared.sessionId⟩ removal source id) :
    Pending compared removal source id := by
  cases pending with
  | loop removing =>
      have before : compared.state.loop = _ := removing
      dsimp only
      rw [before]
      exact .loop before
  | supervisor there removing =>
      rcases update_cases there with ⟨rfl, rfl⟩ | ⟨_, before⟩
      · exact .of_supervisor here removing rfl rfl
      · exact .supervisor before removing

/-- A removal that is pending is still pending after an insertion. -/
theorem Pending.insertSession (now : Nat) {removal : Action Source Datagram} {source : Source}
    {id : UInt64} (pending : Pending compared removal source id)
    (here : compared.state.streams task = some stream) :
    Pending ⟨compared.state.insertSession task stream now,
      compared.state.loop.sessionId compared.sessionId⟩ removal source id := by
  cases pending with
  | loop removing =>
      have later : Pending ⟨compared.state.insertSession task stream now, compared.sessionId⟩
          .removeClosed source compared.sessionId := .loop removing
      rw [removing]
      exact later
  | @supervisor other rival before removing =>
      by_cases same : other = task
      · subst same
        obtain rfl := Option.some.inj (here.symm.trans before)
        have there : (compared.state.insertSession other stream now).streams other =
            some { stream with opener := .inserted } := Function.update_self ..
        exact .of_supervisor there removing rfl rfl
      · have there : (compared.state.insertSession task stream now).streams other =
            some rival := (Function.update_of_ne same ..).trans before
        exact .supervisor there removing

/-- The removal is enabled, and takes out the entry of its source whatever it is. -/
theorem Pending.removes (setting : Setting Source) {removal : Action Source Datagram}
    {source : Source} {id : UInt64} (pending : Pending compared removal source id) :
    ∃ last, compareStep setting compared removal = some last ∧
      last.state.sessions.lookup source = none := by
  cases pending with
  | @loop source datagram removing =>
      have taken : step setting compared.state .removeClosed = some { compared.state with
          sessions := compared.state.sessions.erase source
          loop := .claiming source datagram } := by
        simp only [step, removing]
      exact ⟨_, by rw [compareStep, taken, Option.map_some], AList.lookup_erase _ _⟩
  | @supervisor task stream here removing =>
      have taken : step setting compared.state (.stream task .removeSession) =
          some { compared.state.setStream task { stream with supervisor := .done } with
            sessions := compared.state.sessions.erase stream.source } := by
        simp only [step, here, State.move, if_pos removing]
      exact ⟨_, by rw [compareStep, taken, Option.map_some], AList.lookup_erase _ _⟩

/-- A step that is an insertion. -/
theorem inserted_of_step {now : Nat}
    (taken : step setting state (.stream task (.insertSession now)) = some after) :
    ∃ stream, state.streams task = some stream ∧ stream.opener = .connected ∧
      after = state.insertSession task stream now := by
  simp only [step] at taken
  split at taken
  · rename_i stream here
    simp only [State.move] at taken
    split at taken
    · rename_i connected
      exact ⟨stream, here, connected, (Option.some.inj taken).symm⟩
    · cases taken
  · cases taken

theorem guarded_initial : Guarded (Compared.initial : Compared Source Datagram) := by
  intro action source id entry pending found
  cases found

theorem Guarded.preserved {later : Compared Source Datagram} (guarded : Guarded compared)
    (undisturbed : Undisturbed compared action)
    (taken : compareStep setting compared action = some later) : Guarded later := by
  obtain ⟨after, moves, rfl⟩ := Option.map_eq_some_iff.mp taken
  by_cases inserts : ∃ task now, action = .stream task (.insertSession now)
  · obtain ⟨task, now, rfl⟩ := inserts
    obtain ⟨stream, here, connected, rfl⟩ := inserted_of_step moves
    intro removal source id entry pending found
    have before := pending_insertSession here pending
    by_cases same : source = stream.source
    · subst same
      rw [lookup_insertSession_self] at found
      obtain rfl := Option.some.inj found
      exact undisturbed task now stream rfl here connected removal id before
    · rw [lookup_insertSession_of_ne same] at found
      exact guarded removal source id entry before found
  · refine (follows_of_step ?_ moves).guarded guarded
    intro task now same
    exact inserts ⟨task, now, same⟩

/-- An insertion while a removal is pending is lost to it if the removal comes next. -/
theorem removed_of_disturbed {later : Compared Source Datagram}
    (disturbed : ¬ Undisturbed compared action)
    (taken : compareStep setting compared action = some later) :
    ∃ removal source id entry last, Pending later removal source id ∧
      later.state.sessions.lookup source = some entry ∧ entry.id ≠ id ∧
      compareStep setting later removal = some last ∧
      last.state.sessions.lookup source = none := by
  obtain ⟨after, moves, rfl⟩ := Option.map_eq_some_iff.mp taken
  simp only [Undisturbed, not_forall] at disturbed
  obtain ⟨task, now, stream, rfl, here, connected, removal, id, pending, different⟩ := disturbed
  obtain ⟨inserted, there, _, rfl⟩ := inserted_of_step moves
  obtain rfl := Option.some.inj (here.symm.trans there)
  have still := pending.insertSession now here
  obtain ⟨last, enabled, gone⟩ := still.removes setting
  exact ⟨removal, stream.source, id, _, last, still, lookup_insertSession_self, different,
    enabled, gone⟩

end Preservation

/-- In every run in which no stream is inserted while somebody is about to remove the entry
of its source, every removal takes out the entry that was compared. After the first such
insertion the removal that is pending, taken next, takes out the entry just inserted. -/
theorem removesOwn_of_undisturbed (setting : Setting Source)
    {history : List (Compared Source Datagram × Action Source Datagram)}
    {final : Compared Source Datagram}
    (run : Run (compareStep setting) Compared.initial history final) :
    (Allowed Undisturbed history → Allowed RemovesOwn history) ∧
      ∀ action later, ¬ Undisturbed final action →
        compareStep setting final action = some later →
          ∃ removal source id entry last, Pending later removal source id ∧
            later.state.sessions.lookup source = some entry ∧ entry.id ≠ id ∧
            compareStep setting later removal = some last ∧
            last.state.sessions.lookup source = none := by
  constructor
  · intro undisturbed entry member
    have every : Everywhere Guarded history final :=
      run.invariant_of_allowed guarded_initial
        (fun _ _ _ guarded fine taken => guarded.preserved fine taken) undisturbed
    exact every.1 entry member entry.2
  · intro action later disturbed taken
    exact removed_of_disturbed disturbed taken

/-! ## A supervisor that is overtaken by the next stream of its source -/

/-- The first stream ends, and its supervisor finds its entry. -/
def endedSchedule (relay : Relay) : List (Action SocketAddr Bytes) :=
  [.receive exampleSource [1] 0, .claim, .stream 0 (.connect true),
    .stream 0 (.insertSession 1), .stream 0 .spawnTasks] ++
  (if relay = .associate then [.stream 0 .launch] else []) ++
  [.stream 0 .dropGuard, .stream 0 .writerIdle, .stream 0 .writerJoined,
    .stream 0 .readerAborted, .stream 0 .join, .stream 0 .checkSession]

/-- Before the supervisor removes the entry, the receive loop has removed it and the next
stream of the source is inserted. -/
def overtakenSchedule (relay : Relay) : List (Action SocketAddr Bytes) :=
  endedSchedule relay ++
  [.receive exampleSource [2] 2, .checkClosed, .removeClosed, .claim,
    .stream 1 (.connect true), .stream 1 (.insertSession 3)]

theorem not_removesOwn_of_overtaken (relay : Relay) :
    ¬ ∀ (history : List (Compared SocketAddr Bytes × Action SocketAddr Bytes))
        (final : Compared SocketAddr Bytes),
        Run (compareStep (exampleSetting relay)) Compared.initial history final →
          Allowed RemovesOwn history := by
  have executed : (exec (compareStep (exampleSetting relay)) Compared.initial
      (overtakenSchedule relay)).any (fun compared =>
        (compared.state.streams 0).any (fun stream => stream.supervisor == .removing &&
          stream.source == exampleSource && stream.id == 1) &&
        (compared.state.sessions.lookup exampleSource).any fun entry => entry.id == 2) =
          true := by
    cases relay with
    | associate => decide +kernel
    | forward => decide +kernel
  obtain ⟨compared, ended, facts⟩ := (Option.any_eq_true _ _).mp executed
  simp only [Bool.and_eq_true, Option.any_eq_true, beq_iff_eq] at facts
  obtain ⟨⟨stream, here, ⟨removing, sourced⟩, first⟩, entry, found, second⟩ := facts
  have pending : Pending compared (.stream 0 .removeSession) stream.source stream.id :=
    .supervisor here removing
  obtain ⟨last, enabled, _⟩ := pending.removes (exampleSetting relay)
  intro always
  have own := (allowed_snoc.mp (always _ last ((run_trace ended).next enabled))).2
  have same := own _ _ entry pending (by rw [sourced]; exact found)
  rw [first, second] at same
  exact absurd same (by decide)

/-- In both relays a supervisor tears down the session that replaced its own. -/
theorem replacement_removed :
    (¬ ∀ (history : List (Compared SocketAddr Bytes × Action SocketAddr Bytes))
        (final : Compared SocketAddr Bytes),
        Run (compareStep (exampleSetting .associate)) Compared.initial history final →
          Allowed RemovesOwn history) ∧
      ¬ ∀ (history : List (Compared SocketAddr Bytes × Action SocketAddr Bytes))
        (final : Compared SocketAddr Bytes),
        Run (compareStep (exampleSetting .forward)) Compared.initial history final →
          Allowed RemovesOwn history :=
  ⟨not_removesOwn_of_overtaken .associate, not_removesOwn_of_overtaken .forward⟩

/-- A stream that is inserted while it is the only one, and while the receive loop removes
nothing. -/
theorem undisturbed_of_alone {Source : Type u} {Datagram : Type v} [DecidableEq Source]
    {compared : Compared Source Datagram} {action : Action Source Datagram}
    (core : Core compared.state) (alone : compared.state.spawned ≤ 1)
    (idle : ∀ source datagram, compared.state.loop ≠ .removing source datagram) :
    Undisturbed compared action := by
  intro task now stream _ here connected removal id pending
  have first := core.fresh task stream here
  have sound := core.sound task stream here
  have unspawned : stream.supervisor = .unspawned := sound.supervisor (by rw [connected]; rfl)
  rcases pending.loop_or_supervisor with ⟨datagram, removing⟩ | ⟨other, rival, there, removing⟩
  · exact absurd removing (idle _ _)
  · have otherFirst := core.fresh other rival there
    obtain rfl : task = other := by omega
    obtain rfl := Option.some.inj (here.symm.trans there)
    rw [unspawned] at removing
    cases removing

theorem core_everywhere {Source : Type u} {Datagram : Type v} [DecidableEq Source]
    {setting : Setting Source}
    {history : List (Compared Source Datagram × Action Source Datagram)}
    {final : Compared Source Datagram}
    (run : Run (compareStep setting) Compared.initial history final) :
    Everywhere (fun compared => Core compared.state) history final := by
  have free : Allowed (fun (_ : Compared Source Datagram) (_ : Action Source Datagram) => True)
      history := fun _ _ => trivial
  apply Run.invariant_of_allowed ?_ ?_ run free
  · exact core_initial
  · intro compared action later core _ taken
    obtain ⟨after, moves, rfl⟩ := Option.map_eq_some_iff.mp taken
    exact core.preserved moves

/-- The stream ends, and its supervisor removes its entry. -/
theorem removesOwn_of_undisturbed_ended :
    Allowed RemovesOwn (trace (compareStep (exampleSetting .associate)) Compared.initial
      (endedSchedule .associate ++ [.stream 0 .removeSession])) := by
  have executed : (exec (compareStep (exampleSetting .associate)) Compared.initial
      (endedSchedule .associate ++ [.stream 0 .removeSession])).isSome = true := by
    decide +kernel
  obtain ⟨final, ended⟩ := Option.isSome_iff_exists.mp executed
  have run := run_trace ended
  have core := core_everywhere run
  have quiet : ((trace (compareStep (exampleSetting .associate)) Compared.initial
      (endedSchedule .associate ++ [.stream 0 .removeSession])).all fun entry =>
        decide (entry.1.state.spawned ≤ 1) && (entry.1.state.loop == .receiving ||
          entry.1.state.loop == .claiming exampleSource [1])) = true := by
    decide +kernel
  refine (removesOwn_of_undisturbed (exampleSetting .associate) run).1 fun entry member => ?_
  have here := List.all_eq_true.mp quiet entry member
  simp only [Bool.and_eq_true, Bool.or_eq_true, beq_iff_eq, decide_eq_true_eq] at here
  refine undisturbed_of_alone (core.1 entry member) here.1 fun source datagram removing => ?_
  rw [removing] at here
  rcases here.2 with impossible | impossible
  · cases impossible
  · cases impossible

end Juicity.Client.UdpSessions
