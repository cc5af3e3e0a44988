import Juicity.Client.UdpSessions.Markers
import Juicity.Machine.Routing

/-!
Owns what becomes of the datagrams of a source. The receive loop deals each of
them to one of the source's streams or drops it, and a stream sends what it was
dealt in order: the datagram it was opened with, then its channel. No datagram
goes to two streams, and none of another source to a stream.
-/

namespace Juicity.Client.UdpSessions

open Juicity.Common
open Juicity.Machine

universe u v

variable {Source : Type u} {Datagram : Type v} [DecidableEq Source]

/-- The datagram the loop took from the socket in this action. -/
def Action.receives (source : Source) : Action Source Datagram → Option Datagram
  | .receive origin datagram _ => if origin = source then some datagram else none
  | _ => none

/-- The datagrams of a source the loop took from the socket. -/
def received (source : Source) (history : List (State Source Datagram × Action Source Datagram)) :
    List Datagram :=
  history.filterMap fun entry => entry.2.receives source

/-- The datagram a writer takes from its channel in this move. -/
def Stream.takes (stream : Stream Source Datagram) : Move → Option Datagram
  | .takeItem =>
      match stream.writer with
      | .receiving => stream.queue.head?
      | _ => none
  | _ => none

/-- The datagram that a stream starts to send in this action: the one it is
opened with, or the next one of its channel. -/
def begins (task : Nat) (state : State Source Datagram) :
    Action Source Datagram → Option Datagram
  | .claim =>
      match state.loop with
      | .claiming source datagram =>
          if source ∉ state.opening ∧ state.spawned = task then some datagram else none
      | _ => none
  | .stream mover move =>
      if mover = task then (state.streams task).bind fun stream => stream.takes move else none
  | _ => none

/-- The datagrams a stream started to send. -/
def begun (task : Nat) (history : List (State Source Datagram × Action Source Datagram)) :
    List Datagram :=
  history.filterMap fun entry => begins task entry.1 entry.2

/-- The datagram of the source that the loop holds between two of its steps. -/
def Loop.holding (source : Source) : Loop Source Datagram → List Datagram
  | .checking origin datagram _ | .removing origin datagram | .claiming origin datagram =>
      if origin = source then [datagram] else []
  | _ => []

/-- The dealing of the datagrams of a source: to its own streams only, each of
which has sent or still has what it was dealt. -/
structure Deals (source : Source)
    (history : List (State Source Datagram × Action Source Datagram))
    (state : State Source Datagram) (dealt : List (Option Nat × Datagram)) : Prop where
  whole : dealt.map Prod.snd ++ state.loop.holding source = received source history
  own : ∀ task datagram, (some task, datagram) ∈ dealt →
    ∃ stream, state.streams task = some stream ∧ stream.source = source
  kept : ∀ task stream, state.streams task = some stream → stream.source = source →
    begun task history ++ stream.queue = share task dealt
  unstarted : ∀ task, state.streams task = none → begun task history = []

section Steps

variable {setting : Setting Source} {state after : State Source Datagram} {task : Nat}
  {stream : Stream Source Datagram}
  {history : List (State Source Datagram × Action Source Datagram)}

theorem received_snoc (source : Source) (action : Action Source Datagram) :
    received source (history ++ [(state, action)]) =
      received source history ++ (action.receives source).toList := by
  unfold received
  rw [List.filterMap_append]
  cases given : action.receives source with
  | none => simp [given]
  | some datagram => simp [given]

theorem begun_snoc (task : Nat) (action : Action Source Datagram) :
    begun task (history ++ [(state, action)]) =
      begun task history ++ (begins task state action).toList := by
  unfold begun
  rw [List.filterMap_append]
  cases started : begins task state action with
  | none => simp [started]
  | some datagram => simp [started]

/-- One move of a stream changes no other stream, and takes at most the oldest
datagram of the channel. -/
theorem streams_move {move : Move} (taken : state.move setting task stream move = some after) :
    ∃ moved, after.streams = Function.update state.streams task (some moved) ∧
      moved.source = stream.source ∧ (stream.takes move).toList ++ moved.queue = stream.queue ∧
      after.loop = state.loop := by
  cases move with
  | takeItem =>
      simp only [State.move] at taken
      split at taken
      · rename_i datagram rest receiving queued
        obtain rfl := Option.some.inj taken
        exact ⟨_, rfl, rfl, by simp [Stream.takes, receiving, queued], rfl⟩
      · rename_i receiving queued
        split at taken
        · cases taken
        · obtain rfl := Option.some.inj taken
          exact ⟨_, rfl, rfl, by simp [Stream.takes, receiving, queued], rfl⟩
      · cases taken
  | connect | insertSession | dropGuard | launch | readerEnded | readerAborted | writerJoined
  | readerJoined | superviseCancel | checkSession | removeSession =>
      simp only [State.move] at taken
      split at taken
      · obtain rfl := Option.some.inj taken
        refine ⟨_, rfl, ?_, ?_, rfl⟩
        · first | rfl | (split <;> rfl)
        · first | rfl | (split <;> rfl)
      · cases taken
  | spawnTasks =>
      simp only [State.move] at taken
      split at taken
      · split at taken
        · obtain rfl := Option.some.inj taken
          exact ⟨_, rfl, rfl, rfl, rfl⟩
        · obtain rfl := Option.some.inj taken
          exact ⟨_, rfl, rfl, rfl, rfl⟩
      · cases taken
  | sent | writerIdle | writerAborted =>
      simp only [State.move] at taken
      split at taken
      all_goals first
        | (obtain rfl := Option.some.inj taken; exact ⟨_, rfl, rfl, rfl, rfl⟩)
        | cases taken
  | join =>
      simp only [State.move] at taken
      split at taken
      · split at taken
        · obtain rfl := Option.some.inj taken
          exact ⟨_, rfl, rfl, rfl, rfl⟩
        · cases taken
      · split at taken
        · obtain rfl := Option.some.inj taken
          exact ⟨_, rfl, rfl, rfl, rfl⟩
        · cases taken
      · cases taken

/-- What the loop does with a datagram from the socket: it holds it, drops it, or
puts it into the channel of a stream of its source. -/
theorem receive_cases (core : Core state) (waiting : state.loop = .receiving) (origin : Source)
    (datagram : Datagram) (now : Nat) :
    ((state.receive origin datagram now).streams = state.streams ∧
      ∀ source, (state.receive origin datagram now).loop.holding source =
        if origin = source then [datagram] else []) ∨
    ((state.receive origin datagram now).streams = state.streams ∧
      (state.receive origin datagram now).loop = .receiving) ∨
    (∃ task stream, state.streams task = some stream ∧ stream.source = origin ∧
      (state.receive origin datagram now).streams = Function.update state.streams task
        (some { stream with queue := stream.queue ++ [datagram] }) ∧
      (state.receive origin datagram now).loop = .receiving) := by
  unfold State.receive
  split
  · rename_i entry found
    obtain ⟨stream, here, sourced, _⟩ := core.listed origin entry found
    dsimp only
    split
    · exact .inl ⟨rfl, fun _ => rfl⟩
    · unfold State.trySend
      dsimp only
      rw [here]
      dsimp only
      split
      · exact .inr (.inr ⟨entry.tx, stream, here, sourced, rfl, waiting⟩)
      · exact .inr (.inl ⟨rfl, waiting⟩)
  · exact .inl ⟨rfl, fun _ => rfl⟩

theorem claim_started {origin : Source} (datagram : Datagram) (free : origin ∉ state.opening) :
    ∃ started, (state.claim origin datagram).streams =
        Function.update state.streams state.spawned (some started) ∧
      started.source = origin ∧ started.queue = [] ∧
      (state.claim origin datagram).loop = .receiving := by
  rw [State.claim, if_neg free]
  exact ⟨_, rfl, rfl, rfl, rfl⟩

end Steps

section Dealing

variable {setting : Setting Source} {state after : State Source Datagram} {task : Nat}
  {stream : Stream Source Datagram} {source : Source} {action : Action Source Datagram}
  {history : List (State Source Datagram × Action Source Datagram)}
  {dealt extra : List (Option Nat × Datagram)}

omit [DecidableEq Source] in
theorem persists_of_update {moved : Stream Source Datagram} (here : state.streams task = some stream)
    (streams : after.streams = Function.update state.streams task (some moved))
    (same : moved.source = stream.source) (other : Nat) (rival : Stream Source Datagram)
    (there : state.streams other = some rival) :
    ∃ later, after.streams other = some later ∧ later.source = rival.source := by
  rw [streams]
  by_cases mine : other = task
  · subst mine
    obtain rfl := Option.some.inj (here.symm.trans there)
    exact ⟨moved, Function.update_self .., same⟩
  · exact ⟨rival, (Function.update_of_ne mine ..).trans there, rfl⟩

/-- One action deals out some more datagrams. -/
theorem Deals.next (deals : Deals source history state dealt)
    (whole : extra.map Prod.snd ++ after.loop.holding source =
      state.loop.holding source ++ (action.receives source).toList)
    (persists : ∀ task stream, state.streams task = some stream →
      ∃ later, after.streams task = some later ∧ later.source = stream.source)
    (own : ∀ task datagram, (some task, datagram) ∈ extra →
      ∃ stream, after.streams task = some stream ∧ stream.source = source)
    (kept : ∀ task stream, after.streams task = some stream → stream.source = source →
      begun task history ++ ((begins task state action).toList ++ stream.queue) =
        share task (dealt ++ extra))
    (quiet : ∀ task, after.streams task = none → begins task state action = none) :
    Deals source (history ++ [(state, action)]) after (dealt ++ extra) where
  whole := by
    rw [List.map_append, List.append_assoc, whole, ← List.append_assoc, deals.whole,
      received_snoc]
  own := by
    intro task datagram member
    rcases List.mem_append.mp member with earlier | new
    · obtain ⟨stream, here, sourced⟩ := deals.own task datagram earlier
      obtain ⟨later, there, same⟩ := persists task stream here
      exact ⟨later, there, same.trans sourced⟩
    · exact own task datagram new
  kept := by
    intro task stream here sourced
    rw [begun_snoc, List.append_assoc]
    exact kept task stream here sourced
  unstarted := by
    intro task missing
    have was : state.streams task = none := by
      cases here : state.streams task with
      | none => rfl
      | some stream =>
          obtain ⟨later, there, _⟩ := persists task stream here
          rw [missing] at there
          cases there
    rw [begun_snoc, deals.unstarted task was, quiet task missing]
    rfl

/-- An action that starts no stream and touches no channel. -/
theorem Deals.unchanged (deals : Deals source history state dealt)
    (streams : after.streams = state.streams)
    (whole : extra.map Prod.snd ++ after.loop.holding source =
      state.loop.holding source ++ (action.receives source).toList)
    (dropped : ∀ entry ∈ extra, entry.1 = none)
    (silent : ∀ task, begins task state action = none) :
    Deals source (history ++ [(state, action)]) after (dealt ++ extra) := by
  refine deals.next whole (fun task stream here => ⟨stream, streams ▸ here, rfl⟩) ?_ ?_
    (fun task _ => silent task)
  · intro task datagram member
    cases dropped _ member
  · intro task stream here sourced
    rw [streams] at here
    rw [silent, share_append, share_eq_nil (fun item member => nomatch dropped _ member),
      List.append_nil]
    exact deals.kept task stream here sourced

theorem Deals.received (deals : Deals source history state dealt) (core : Core state)
    (waiting : state.loop = .receiving) (origin : Source) (datagram : Datagram) (now : Nat) :
    ∃ extra, Deals source (history ++ [(state, .receive origin datagram now)])
      (state.receive origin datagram now) (dealt ++ extra) := by
  have empty : state.loop.holding source = [] := by rw [waiting]; rfl
  rcases receive_cases core waiting origin datagram now with
    ⟨streams, holding⟩ | ⟨streams, loop⟩ | ⟨task, stream, here, sourced, streams, loop⟩
  · refine ⟨[], deals.unchanged streams ?_ (fun _ member => nomatch member) fun _ => rfl⟩
    rw [holding source, empty]
    by_cases same : origin = source
    · simp [Action.receives, same]
    · simp [Action.receives, same]
  · refine ⟨if origin = source then [(none, datagram)] else [],
      deals.unchanged streams ?_ ?_ fun _ => rfl⟩
    · rw [loop, empty]
      by_cases same : origin = source
      · simp [Action.receives, Loop.holding, same]
      · simp [Action.receives, Loop.holding, same]
    · intro entry member
      by_cases same : origin = source
      · rw [if_pos same, List.mem_singleton] at member
        rw [member]
      · rw [if_neg same] at member
        cases member
  · by_cases same : origin = source
    · refine ⟨[(some task, datagram)], deals.next ?_ (persists_of_update here streams rfl) ?_ ?_
        fun _ _ => rfl⟩
      · rw [loop, empty]
        simp [Action.receives, Loop.holding, same]
      · intro other item member
        obtain ⟨rfl, rfl⟩ : other = task ∧ item = datagram := by simpa using member
        rw [streams]
        exact ⟨_, Function.update_self .., sourced.trans same⟩
      · intro other rival there rivalSourced
        rw [streams] at there
        rcases update_cases there with ⟨rfl, rfl⟩ | ⟨different, before⟩
        · rw [share_self, ← deals.kept other stream here rivalSourced]
          simp [begins]
        · rw [share_of_ne (Ne.symm different)]
          exact deals.kept other rival before rivalSourced
    · refine ⟨[], deals.next ?_ (persists_of_update here streams rfl)
        (fun _ _ member => nomatch member) ?_ fun _ _ => rfl⟩
      · rw [loop, empty]
        simp [Action.receives, Loop.holding, same]
      · intro other rival there rivalSourced
        rw [streams] at there
        rcases update_cases there with ⟨rfl, rfl⟩ | ⟨different, before⟩
        · exact absurd (sourced.symm.trans rivalSourced) same
        · rw [List.append_nil]
          exact deals.kept other rival before rivalSourced

theorem Deals.moved (deals : Deals source history state dealt) {move : Move}
    (here : state.streams task = some stream)
    (taken : state.move setting task stream move = some after) :
    Deals source (history ++ [(state, .stream task move)]) after dealt := by
  obtain ⟨moved, streams, sameSource, passed, loop⟩ := streams_move taken
  have next : Deals source (history ++ [(state, .stream task move)]) after (dealt ++ []) := by
    refine deals.next ?_ (persists_of_update here streams sameSource)
      (fun _ _ member => nomatch member) ?_ ?_
    · rw [loop]
      simp [Action.receives]
    · intro other rival there sourced
      rw [List.append_nil]
      rw [streams] at there
      rcases update_cases there with ⟨rfl, rfl⟩ | ⟨different, before⟩
      · have begins : begins other state (.stream other move) = stream.takes move := by
          simp [begins, here]
        rw [begins, passed]
        exact deals.kept other stream here (sameSource.symm.trans sourced)
      · have silent : begins other state (.stream task move) = none :=
          if_neg (Ne.symm different)
        rw [silent]
        exact deals.kept other rival before sourced
    · intro other missing
      apply if_neg
      rintro rfl
      rw [streams, Function.update_self] at missing
      cases missing
  rwa [List.append_nil] at next

/-- A claim of a taken marker drops the datagram, one of a free marker opens a
stream with it. -/
theorem Deals.claimed (deals : Deals source history state dealt) (core : Core state)
    {origin : Source} {datagram : Datagram} (claiming : state.loop = .claiming origin datagram) :
    ∃ extra, Deals source (history ++ [(state, .claim)]) (state.claim origin datagram)
      (dealt ++ extra) := by
  by_cases marked : origin ∈ state.opening
  · have dropped : state.claim origin datagram = { state with loop := .receiving } := if_pos marked
    rw [dropped]
    refine ⟨if origin = source then [(none, datagram)] else [],
      deals.unchanged rfl ?_ ?_ fun task => ?_⟩
    · rw [claiming]
      by_cases same : origin = source
      · simp [Action.receives, Loop.holding, same]
      · simp [Action.receives, Loop.holding, same]
    · intro entry member
      by_cases same : origin = source
      · rw [if_pos same, List.mem_singleton] at member
        rw [member]
      · rw [if_neg same] at member
        cases member
    · simp [begins, claiming, marked]
  · have fresh : state.streams state.spawned = none := by
      cases here : state.streams state.spawned with
      | none => rfl
      | some stream => exact absurd (core.fresh _ stream here) (Nat.lt_irrefl _)
    obtain ⟨started, streams, startedSource, queue, loop⟩ := claim_started datagram marked
    have starts : ∀ other, begins other state .claim =
        if state.spawned = other then some datagram else none := by
      intro other
      simp [begins, claiming, marked]
    have kept : ∀ task stream, state.streams task = some stream →
        ∃ later, (state.claim origin datagram).streams task = some later ∧
          later.source = stream.source := fun task stream here =>
      ⟨stream, streams_claim_of_before core marked here, rfl⟩
    have quiet : ∀ task, (state.claim origin datagram).streams task = none →
        begins task state .claim = none := by
      intro task missing
      rw [starts]
      apply if_neg
      rintro rfl
      rw [streams, Function.update_self] at missing
      cases missing
    by_cases same : origin = source
    · refine ⟨[(some state.spawned, datagram)], deals.next ?_ kept ?_ ?_ quiet⟩
      · rw [loop, claiming]
        simp [Action.receives, Loop.holding, same]
      · intro task item member
        obtain ⟨rfl, rfl⟩ : task = state.spawned ∧ item = datagram := by simpa using member
        rw [streams]
        exact ⟨started, Function.update_self .., startedSource.trans same⟩
      · intro task stream here sourced
        rw [streams] at here
        rw [starts]
        rcases update_cases here with ⟨rfl, rfl⟩ | ⟨different, before⟩
        · have undealt : share state.spawned dealt = [] := by
            apply share_eq_nil
            intro item member
            obtain ⟨stream, there, _⟩ := deals.own _ item member
            rw [fresh] at there
            cases there
          rw [if_pos rfl, share_self, undealt, deals.unstarted _ fresh, queue]
          rfl
        · rw [if_neg (Ne.symm different), share_of_ne (Ne.symm different)]
          exact deals.kept task stream before sourced
    · refine ⟨[], deals.next ?_ kept (fun _ _ member => nomatch member) ?_ quiet⟩
      · rw [loop, claiming]
        simp [Action.receives, Loop.holding, same]
      · intro task stream here sourced
        rw [streams] at here
        rw [starts, List.append_nil]
        rcases update_cases here with ⟨rfl, rfl⟩ | ⟨different, before⟩
        · exact absurd (startedSource.symm.trans sourced) same
        · rw [if_neg (Ne.symm different)]
          exact deals.kept task stream before sourced

/-- The other actions of the loop and of the cleanup keep the held datagram and
every stream. -/
theorem Deals.idle (deals : Deals source history state dealt)
    (streams : after.streams = state.streams)
    (holding : after.loop.holding source = state.loop.holding source)
    (takesNone : action.receives source = none)
    (silent : ∀ task, begins task state action = none) :
    Deals source (history ++ [(state, action)]) after dealt := by
  have next : Deals source (history ++ [(state, action)]) after (dealt ++ []) :=
    deals.unchanged streams (by rw [holding, takesNone]; simp) (fun _ member => nomatch member) silent
  rwa [List.append_nil] at next

theorem Deals.step (deals : Deals source history state dealt) (core : Core state)
    (taken : step setting state action = some after) :
    ∃ more, Deals source (history ++ [(state, action)]) after more := by
  cases action with
  | receive origin datagram now =>
      simp only [UdpSessions.step] at taken
      split at taken
      · rename_i waiting
        obtain rfl := Option.some.inj taken
        obtain ⟨extra, next⟩ := deals.received core waiting origin datagram now
        exact ⟨_, next⟩
      · cases taken
  | claim =>
      simp only [UdpSessions.step] at taken
      split at taken
      · rename_i origin datagram claiming
        obtain rfl := Option.some.inj taken
        obtain ⟨extra, next⟩ := deals.claimed core claiming
        exact ⟨_, next⟩
      · cases taken
  | checkClosed =>
      simp only [UdpSessions.step] at taken
      split at taken
      · rename_i origin datagram id checking
        obtain rfl := Option.some.inj taken
        refine ⟨dealt, deals.idle rfl ?_ rfl fun _ => rfl⟩
        rw [checking]
        dsimp only
        split
        · rfl
        · rfl
      · cases taken
  | removeClosed =>
      simp only [UdpSessions.step] at taken
      split at taken
      · rename_i origin datagram removing
        obtain rfl := Option.some.inj taken
        exact ⟨dealt, deals.idle rfl (by rw [removing]; rfl) rfl fun _ => rfl⟩
      · cases taken
  | receiveError | natTimeout | closeControl | controlClosed | startSweep now =>
      simp only [UdpSessions.step] at taken
      split at taken
      · obtain rfl := Option.some.inj taken
        refine ⟨dealt, deals.idle rfl ?_ rfl fun _ => rfl⟩
        first
        | rfl
        | (rename_i waiting; rw [waiting]; rfl)
      · cases taken
  | clearShard =>
      simp only [UdpSessions.step] at taken
      split at taken
      · rename_i shard clearing
        split at taken
        · obtain rfl := Option.some.inj taken
          exact ⟨dealt, deals.idle rfl (by rw [clearing]; rfl) rfl fun _ => rfl⟩
        · obtain rfl := Option.some.inj taken
          exact ⟨dealt, deals.idle rfl (by rw [clearing]; rfl) rfl fun _ => rfl⟩
      · cases taken
  | sweepShard =>
      simp only [UdpSessions.step] at taken
      split at taken
      · split at taken
        · obtain rfl := Option.some.inj taken
          exact ⟨dealt, deals.idle rfl rfl rfl fun _ => rfl⟩
        · obtain rfl := Option.some.inj taken
          exact ⟨dealt, deals.idle rfl rfl rfl fun _ => rfl⟩
      · cases taken
  | stream task move =>
      simp only [UdpSessions.step] at taken
      split at taken
      · rename_i stream here
        exact ⟨dealt, deals.moved here taken⟩
      · cases taken

end Dealing

section Runs

variable {setting : Setting Source} {state final : State Source Datagram}
  {history : List (State Source Datagram × Action Source Datagram)}

theorem core_of_run (run : Run (step setting) initial history final) : Core final :=
  Reachable.invariant core_initial (fun _ _ _ core taken => core.preserved taken) ⟨history, run⟩

theorem dealt_of_run (run : Run (step setting) initial history final) (source : Source) :
    ∃ dealt, Deals source history final dealt := by
  induction run with
  | start =>
      exact ⟨[], rfl, fun _ _ member => (nomatch member), fun _ _ here => (nomatch here),
        fun _ _ => rfl⟩
  | @next history state after action before taken inductionHypothesis =>
      obtain ⟨dealt, deals⟩ := inductionHypothesis
      exact deals.step (core_of_run before) taken

/-- What was dealt is what came, without the datagram the loop still holds. -/
theorem Deals.sublist {state : State Source Datagram} {source : Source}
    {dealt : List (Option Nat × Datagram)} (deals : Deals source history state dealt) :
    (dealt.map Prod.snd).Sublist (UdpSessions.received source history) :=
  deals.whole ▸ List.sublist_append_left ..

/-- A stream starts to send datagrams of its source only, in the order they came. -/
theorem begun_sublist (run : Run (step setting) initial history final) {task : Nat}
    {stream : Stream Source Datagram} (here : final.streams task = some stream) :
    (begun task history).Sublist (received stream.source history) := by
  obtain ⟨dealt, deals⟩ := dealt_of_run run stream.source
  have whole : (begun task history ++ stream.queue).Sublist (dealt.map Prod.snd) :=
    deals.kept task stream here rfl ▸ share_sublist task dealt
  exact ((List.sublist_append_left ..).trans whole).trans deals.sublist

/-- In every run each datagram of a source is dealt to at most one stream, which is
one of the source's own, and a stream sends what it was dealt in order: so it sends
datagrams of its source in the order they came, and all streams of the source
together send no datagram more often than it came. -/
theorem datagrams_of_run (setting : Setting Source)
    (history : List (State Source Datagram × Action Source Datagram))
    (final : State Source Datagram) (run : Run (step setting) initial history final) :
    ∀ source, (∃ dealt, Deals source history final dealt) ∧
      (∀ task stream, final.streams task = some stream → stream.source = source →
        (begun task history).Sublist (received source history)) ∧
      ∀ tasks : List Nat, tasks.Nodup →
        (∀ task ∈ tasks, ∃ stream, final.streams task = some stream ∧ stream.source = source) →
        List.Subperm (tasks.map fun task => begun task history).flatten
          (received source history) := by
  intro source
  obtain ⟨dealt, deals⟩ := dealt_of_run run source
  refine ⟨⟨dealt, deals⟩, ?_, ?_⟩
  · rintro task stream here rfl
    exact begun_sublist run here
  · intro tasks different own
    have begunOf : List.Sublist (tasks.map fun task => begun task history).flatten
        (tasks.map fun task => share task dealt).flatten := by
      clear different
      induction tasks with
      | nil => exact .slnil
      | cons task tasks inductionHypothesis =>
          obtain ⟨stream, here, sourced⟩ := own task List.mem_cons_self
          have first : (begun task history).Sublist (share task dealt) :=
            deals.kept task stream here sourced ▸ List.sublist_append_left ..
          rw [List.map_cons, List.map_cons, List.flatten_cons, List.flatten_cons]
          exact first.append (inductionHypothesis fun other member =>
            own other (List.mem_cons_of_mem task member))
    exact (begunOf.subperm.trans (shares_subperm different dealt)).trans
      deals.sublist.subperm

end Runs

/-- Two sources; the second datagram of the first one goes into the channel of its
stream. -/
def twoSourcesSchedule : List (Action Nat Nat) :=
  [.receive 7 70 0, .claim, .receive 8 80 0, .claim, .stream 0 (.connect true),
    .stream 0 (.insertSession 1), .stream 0 .spawnTasks, .stream 0 .launch, .receive 7 71 2,
    .stream 0 .takeItem]

theorem datagrams_of_run_twoSources :
    ∃ final, exec (step ⟨.associate, 1, fun _ => 0⟩) initial twoSourcesSchedule = some final ∧
      (begun 0 (trace (step ⟨.associate, 1, fun _ => 0⟩) initial twoSourcesSchedule)).Sublist
        [70, 71] := by
  have executed : (exec (step ⟨.associate, 1, fun _ => 0⟩) initial twoSourcesSchedule).any
      (fun state => (state.streams 0).any fun stream => stream.source == 7) = true := by
    decide +kernel
  obtain ⟨final, ended, facts⟩ := (Option.any_eq_true _ _).mp executed
  obtain ⟨stream, here, sourced⟩ := (Option.any_eq_true _ _).mp facts
  obtain ⟨-, ordered, -⟩ :=
    datagrams_of_run ⟨.associate, 1, fun _ => 0⟩ _ final (run_trace ended) 7
  have came : received 7 (trace (step ⟨.associate, 1, fun _ => 0⟩) initial twoSourcesSchedule) =
      [70, 71] := by
    decide +kernel
  rw [came] at ordered
  exact ⟨final, ended, ordered 0 stream here (beq_iff_eq.mp sourced)⟩

end Juicity.Client.UdpSessions
