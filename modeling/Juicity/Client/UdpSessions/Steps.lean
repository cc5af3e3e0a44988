import Juicity.Client.UdpSessions.Model

/-!
Contract: what one action does to the streams, the sessions and the markers. A
claim of a free marker starts a stream, an insertion lists it, a dropped guard
frees the marker; every other action lets streams go on and sessions go away.
-/

namespace Juicity.Client.UdpSessions

open Juicity.Common
open Juicity.Machine

universe u v

variable {Source : Type u} {Datagram : Type v}

/-- The writer is spawned after the supervisor or by the task that spawns it. -/
structure Stream.Sound (stream : Stream Source Datagram) : Prop where
  supervisor : stream.opener.opens = true → stream.supervisor = .unspawned
  opening : stream.opener.opens = true → stream.writer = .unspawned
  starting : stream.supervisor = .starting → stream.writer = .unspawned

/-- How a stream goes on: it never comes back to life, takes a marker or loses
its session. -/
structure Continues (before after : Stream Source Datagram) : Prop where
  source : after.source = before.source
  holds : after.opener.holds = true → before.opener.holds = true
  early : after.opener.early = true → before.opener.early = true
  live : before.Sound → after.live = true → before.live = true
  sound : before.Sound → after.Sound

/-- How a stream goes on while its marker is kept and no session is inserted. -/
structure Evolves (before after : Stream Source Datagram) : Prop
    extends Continues before after where
  kept : before.opener.holds = true → after.opener.holds = true
  settled : after.live = true → before.opener.early = true → after.opener.early = true

theorem Continues.refl (stream : Stream Source Datagram) : Continues stream stream :=
  ⟨rfl, id, id, fun _ => id, id⟩

theorem Evolves.refl (stream : Stream Source Datagram) : Evolves stream stream :=
  ⟨.refl stream, id, fun _ => id⟩

/-- The tasks before and after are the same, and each stream is related to what
it became. -/
def Evolved (related : Stream Source Datagram → Stream Source Datagram → Prop)
    (before after : State Source Datagram) : Prop :=
  ∀ task, Option.Rel related (before.streams task) (after.streams task)

/-- A stream found after one of them was replaced. -/
theorem update_cases {streams : Nat → Option (Stream Source Datagram)} {task other : Nat}
    {moved later : Stream Source Datagram}
    (there : Function.update streams task (some moved) other = some later) :
    other = task ∧ later = moved ∨ other ≠ task ∧ streams other = some later := by
  by_cases same : other = task
  · left
    rw [same, Function.update_self] at there
    exact ⟨same, (Option.some.inj there).symm⟩
  · right
    rw [Function.update_of_ne same] at there
    exact ⟨same, there⟩

namespace Evolved

variable {related weaker : Stream Source Datagram → Stream Source Datagram → Prop}
  {before after : State Source Datagram} {task : Nat} {stream : Stream Source Datagram}

theorem of_streams_eq (reflexive : ∀ stream, related stream stream)
    (same : after.streams = before.streams) : Evolved related before after := by
  intro task
  rw [same]
  cases before.streams task with
  | none => exact .none
  | some stream => exact .some (reflexive stream)

theorem of_move (reflexive : ∀ stream, related stream stream) {moved : Stream Source Datagram}
    (here : before.streams task = some stream) (moves : related stream moved)
    (streams : after.streams = Function.update before.streams task (some moved)) :
    Evolved related before after := by
  intro other
  rw [streams]
  by_cases same : other = task
  · rw [same, Function.update_self, here]
    exact .some moves
  · rw [Function.update_of_ne same]
    exact of_streams_eq reflexive rfl other

theorem forward (evolved : Evolved related before after)
    (here : before.streams task = some stream) :
    ∃ later, after.streams task = some later ∧ related stream later := by
  have pair := evolved task
  rw [here] at pair
  generalize after.streams task = found at pair ⊢
  cases pair with
  | some moves => exact ⟨_, rfl, moves⟩

theorem backward (evolved : Evolved related before after)
    (here : after.streams task = some stream) :
    ∃ earlier, before.streams task = some earlier ∧ related earlier stream := by
  have pair := evolved task
  rw [here] at pair
  generalize before.streams task = found at pair ⊢
  cases pair with
  | some moves => exact ⟨_, rfl, moves⟩

theorem mono (evolved : Evolved related before after)
    (implies : ∀ stream moved, related stream moved → weaker stream moved) :
    Evolved weaker before after := by
  intro task
  have pair := evolved task
  generalize before.streams task = found at pair ⊢
  generalize after.streams task = later at pair ⊢
  cases pair with
  | none => exact .none
  | some moves => exact .some (implies _ _ moves)

end Evolved

section Evolving

variable {stream moved : Stream Source Datagram}

theorem isClosed_of_live {state : State Source Datagram} {task : Nat}
    {stream : Stream Source Datagram} (here : state.streams task = some stream) :
    state.isClosed task = !stream.live := by
  rw [State.isClosed, here, Option.all_some]

theorem holds_of_early {opener : Opener} (early : opener.early = true) : opener.holds = true := by
  cases opener with
  | connecting | connected => rfl
  | inserted | releasing | done => cases early

theorem Continues.late {moved : Stream Source Datagram} (continued : Continues stream moved)
    (late : stream.opener.early = false) : moved.opener.early = false := by
  cases early : moved.opener.early with
  | false => rfl
  | true =>
      rw [continued.early early] at late
      cases late

theorem live_of_unspawned (unspawned : stream.writer = .unspawned) : stream.live = true := by
  rw [Stream.live, unspawned]

theorem Stream.Sound.live_of_early (sound : stream.Sound) (early : stream.opener.early = true) :
    stream.live = true := by
  apply live_of_unspawned (sound.opening _)
  cases opener : stream.opener with
  | connecting | connected => rfl
  | inserted | releasing | done =>
      rw [opener] at early
      cases early

theorem evolves_connected (connecting : stream.opener = .connecting) :
    Evolves stream { stream with opener := .connected } := by
  have opens : stream.opener.opens = true := by rw [connecting]; rfl
  refine ⟨⟨?source, ?holds, ?early, ?live, ?sound⟩, ?kept, ?settled⟩
  case source => rfl
  case holds => rw [connecting]; exact fun _ => rfl
  case kept => exact fun _ => rfl
  case early => rw [connecting]; exact fun _ => rfl
  case settled => exact fun _ _ => rfl
  case live => exact fun _ => id
  case sound =>
    intro sound
    exact ⟨fun _ => sound.supervisor opens, fun _ => sound.opening opens, sound.starting⟩

theorem evolves_failed (connecting : stream.opener = .connecting) :
    Evolves stream { stream with opener := .releasing, writer := .ended } := by
  have opens : stream.opener.opens = true := by rw [connecting]; rfl
  refine ⟨⟨?source, ?holds, ?early, ?live, ?sound⟩, ?kept, ?settled⟩
  case source => rfl
  case holds => rw [connecting]; exact fun _ => rfl
  case kept => exact fun _ => rfl
  case early => intro impossible; cases impossible
  case settled => intro impossible; cases impossible
  case live => intro _ impossible; cases impossible
  case sound =>
    intro sound
    have unspawned := sound.supervisor opens
    constructor
    case supervisor => exact fun _ => unspawned
    case opening => intro impossible; cases impossible
    case starting =>
      intro starting
      rw [show stream.supervisor = .starting from starting] at unspawned
      cases unspawned

/-- The opening task spawns the other tasks or their supervisor. -/
theorem evolves_spawned (inserted : stream.opener = .inserted)
    (source : moved.source = stream.source) (releasing : moved.opener = .releasing)
    (starting : moved.supervisor = .starting → moved.writer = stream.writer) :
    Evolves stream moved := by
  have opens : stream.opener.opens = true := by rw [inserted]; rfl
  refine ⟨⟨?source, ?holds, ?early, ?live, ?sound⟩, ?kept, ?settled⟩
  case source => exact source
  case holds => rw [inserted]; exact fun _ => rfl
  case kept => rw [releasing]; exact fun _ => rfl
  case early => rw [releasing]; intro impossible; cases impossible
  case settled => rw [inserted]; intro _ impossible; cases impossible
  case live => exact fun sound _ => live_of_unspawned (sound.opening opens)
  case sound =>
    intro sound
    constructor
    case supervisor => rw [releasing]; intro impossible; cases impossible
    case opening => rw [releasing]; intro impossible; cases impossible
    case starting => exact fun here => (starting here).trans (sound.opening opens)

/-- Another task than the opening one moves. -/
theorem evolves_of_opener (source : moved.source = stream.source)
    (opener : moved.opener = stream.opener)
    (live : stream.Sound → moved.live = true → stream.live = true)
    (sound : stream.Sound → moved.Sound) : Evolves stream moved := by
  refine ⟨⟨?source, ?holds, ?early, ?live, ?sound⟩, ?kept, ?settled⟩
  case source => exact source
  case holds => rw [opener]; exact id
  case kept => rw [opener]; exact id
  case early => rw [opener]; exact id
  case settled => rw [opener]; exact fun _ => id
  case live => exact live
  case sound => exact sound

/-- A spawned writer moves. -/
theorem evolves_writer {writer : Writer Datagram} {queue : List Datagram}
    (spawned : stream.writer ≠ .unspawned) (alive : stream.live = true) :
    Evolves stream { stream with writer := writer, queue := queue } := by
  refine evolves_of_opener rfl rfl (fun _ _ => alive) ?_
  intro sound
  constructor
  case supervisor => exact sound.supervisor
  case opening => exact fun opens => absurd (sound.opening opens) spawned
  case starting => exact fun starting => absurd (sound.starting starting) spawned

theorem evolves_receiving {writer : Writer Datagram} {queue : List Datagram}
    (receiving : stream.writer = .receiving) :
    Evolves stream { stream with writer := writer, queue := queue } :=
  evolves_writer (by rw [receiving]; intro impossible; cases impossible)
    (by rw [Stream.live, receiving])

theorem evolves_sending {writer : Writer Datagram} {datagram : Datagram}
    (sending : stream.writer = .sending datagram) :
    Evolves stream { stream with writer := writer } :=
  evolves_writer (by rw [sending]; intro impossible; cases impossible)
    (by rw [Stream.live, sending])

/-- A datagram enters the channel. -/
theorem evolves_queue {queue : List Datagram} :
    Evolves stream { stream with queue := queue } :=
  evolves_of_opener rfl rfl (fun _ => id)
    fun sound => ⟨sound.supervisor, sound.opening, sound.starting⟩

/-- The reader moves. -/
theorem evolves_reader {reader : Reader} : Evolves stream { stream with reader := reader } :=
  evolves_of_opener rfl rfl (fun _ => id)
    fun sound => ⟨sound.supervisor, sound.opening, sound.starting⟩

/-- A started supervisor moves. -/
theorem evolves_supervisor {supervisor : Supervisor} {writerAborted readerAborted : Bool}
    (spawned : stream.supervisor ≠ .unspawned) (later : supervisor ≠ .starting) :
    Evolves stream { stream with
      writerAborted := writerAborted
      readerAborted := readerAborted
      supervisor := supervisor } := by
  refine evolves_of_opener rfl rfl (fun _ => id) ?_
  intro sound
  constructor
  case supervisor => exact fun opens => absurd (sound.supervisor opens) spawned
  case opening => exact sound.opening
  case starting => exact fun starting => absurd starting later

theorem evolves_launched (starting : stream.supervisor = .starting) :
    Evolves stream { stream with
      writer := .receiving
      reader := .running
      supervisor := .watching } := by
  refine evolves_of_opener rfl rfl ?_ ?_
  · exact fun sound _ => live_of_unspawned (sound.starting starting)
  · intro sound
    have late : stream.opener.opens ≠ true := by
      intro opens
      rw [sound.supervisor opens] at starting
      cases starting
    constructor
    case supervisor => exact fun opens => absurd opens late
    case opening => exact fun opens => absurd opens late
    case starting => intro impossible; cases impossible

theorem continues_inserted (connected : stream.opener = .connected) :
    Continues stream { stream with opener := .inserted } := by
  have opens : stream.opener.opens = true := by rw [connected]; rfl
  constructor
  case source => rfl
  case holds => rw [connected]; exact fun _ => rfl
  case early => intro impossible; cases impossible
  case live => exact fun _ => id
  case sound =>
    intro sound
    exact ⟨fun _ => sound.supervisor opens, fun _ => sound.opening opens, sound.starting⟩

theorem continues_released (releasing : stream.opener = .releasing) :
    Continues stream { stream with opener := .done } := by
  constructor
  case source => rfl
  case holds => rw [releasing]; exact fun _ => rfl
  case early => intro impossible; cases impossible
  case live => exact fun _ => id
  case sound =>
    intro sound
    constructor
    case supervisor => intro impossible; cases impossible
    case opening => intro impossible; cases impossible
    case starting => exact sound.starting

end Evolving

variable [DecidableEq Source]

/-- The loop can still claim a marker. -/
def Loop.running : Loop Source Datagram → Bool
  | .clearing _ | .stopped => false
  | _ => true

/-- This action takes the entry of the source out of the session map. -/
inductive Removes (setting : Setting Source) (state : State Source Datagram) :
    Action Source Datagram → Source → UdpSessionEntry → Prop where
  | loop {source : Source} {datagram : Datagram} {entry : UdpSessionEntry}
      (removing : state.loop = .removing source datagram) :
      Removes setting state .removeClosed source entry
  | supervisor {task : Nat} {stream : Stream Source Datagram} {entry : UdpSessionEntry}
      (here : state.streams task = some stream) (removing : stream.supervisor = .removing) :
      Removes setting state (.stream task .removeSession) stream.source entry
  | swept {now shard : Nat} {source : Source} {entry : UdpSessionEntry}
      (sweeping : state.sweep = some (now, shard)) (unkept : state.keeps now entry = false) :
      Removes setting state .sweepShard source entry
  | cleared {shard : Nat} {source : Source} {entry : UdpSessionEntry}
      (clearing : state.loop = .clearing shard) :
      Removes setting state .clearShard source entry

/-- The session map after an action that inserts nothing: every entry was there
before, and an entry is still there unless the action removes it. -/
structure Shrinks (setting : Setting Source) (state : State Source Datagram)
    (action : Action Source Datagram) (sessions : Table Source UdpSessionEntry) : Prop where
  before : ∀ source entry, sessions.lookup source = some entry →
    ∃ old, state.sessions.lookup source = some old ∧ old.tx = entry.tx
  after : ∀ source entry, state.sessions.lookup source = some entry →
    (∃ new, sessions.lookup source = some new ∧ new.tx = entry.tx) ∨
      Removes setting state action source entry

/-- What each action does. -/
inductive Took (setting : Setting Source) (state : State Source Datagram) :
    Action Source Datagram → State Source Datagram → Prop where
  | evolved {action : Action Source Datagram} {after : State Source Datagram}
      (streams : Evolved Evolves state after)
      (sessions : Shrinks setting state action after.sessions)
      (opening : after.opening = state.opening) (spawned : after.spawned = state.spawned)
      (running : after.loop.running = true → state.loop.running = true) :
      Took setting state action after
  | claimed {source : Source} {datagram : Datagram}
      (claiming : state.loop = .claiming source datagram) (free : source ∉ state.opening) :
      Took setting state .claim (state.claim source datagram)
  | inserted {task now : Nat} {stream : Stream Source Datagram}
      (here : state.streams task = some stream) (connected : stream.opener = .connected) :
      Took setting state (.stream task (.insertSession now))
        (state.insertSession task stream now)
  | released {task : Nat} {stream : Stream Source Datagram}
      (here : state.streams task = some stream) (releasing : stream.opener = .releasing) :
      Took setting state (.stream task .dropGuard) (state.dropGuard task stream)

section Sessions

variable {setting : Setting Source} {state : State Source Datagram}
  {action : Action Source Datagram} {source : Source} {entry : UdpSessionEntry}

@[simp] theorem lookup_insertSession_self {task now : Nat} {stream : Stream Source Datagram} :
    (state.insertSession task stream now).sessions.lookup stream.source =
      some ⟨stream.id, now, task⟩ :=
  AList.lookup_insert _

theorem lookup_insertSession_of_ne {task now : Nat} {stream : Stream Source Datagram}
    (different : source ≠ stream.source) :
    (state.insertSession task stream now).sessions.lookup source =
      state.sessions.lookup source :=
  AList.lookup_insert_ne different

theorem shrinks_refl : Shrinks setting state action state.sessions :=
  ⟨fun _ entry found => ⟨entry, found, rfl⟩, fun _ entry found => .inl ⟨entry, found, rfl⟩⟩

/-- `touch` changes nothing but the time. -/
theorem lookup_touch {sessions : Table Source UdpSessionEntry} {other : Source} {now : Nat}
    {new : UdpSessionEntry} (found : sessions.lookup source = some entry)
    (listed : (sessions.insert source { entry with lastUsedMs := now }).lookup other = some new) :
    ∃ old, sessions.lookup other = some old ∧
      new = { old with lastUsedMs := new.lastUsedMs } := by
  by_cases same : other = source
  · subst same
    rw [AList.lookup_insert] at listed
    obtain rfl := Option.some.inj listed
    exact ⟨entry, found, rfl⟩
  · rw [AList.lookup_insert_ne same] at listed
    exact ⟨new, listed, rfl⟩

/-- `touch` keeps the sender. -/
theorem shrinks_touch {now : Nat} (found : state.sessions.lookup source = some entry) :
    Shrinks setting state action
      (state.sessions.insert source { entry with lastUsedMs := now }) := by
  constructor
  · intro other new listed
    obtain ⟨old, before, same⟩ := lookup_touch found listed
    exact ⟨old, before, by rw [same]⟩
  · intro other old listed
    left
    by_cases same : other = source
    · subst same
      obtain rfl := Option.some.inj (found.symm.trans listed)
      exact ⟨_, AList.lookup_insert _, rfl⟩
    · exact ⟨old, by rw [AList.lookup_insert_ne same]; exact listed, rfl⟩

theorem shrinks_erase
    (removes : ∀ entry, Removes setting state action source entry) :
    Shrinks setting state action (state.sessions.erase source) := by
  constructor
  · intro other new listed
    by_cases same : other = source
    · subst same
      rw [AList.lookup_erase] at listed
      cases listed
    · rw [AList.lookup_erase_ne same] at listed
      exact ⟨new, listed, rfl⟩
  · intro other old listed
    by_cases same : other = source
    · subst same
      exact .inr (removes old)
    · exact .inl ⟨old, by rw [AList.lookup_erase_ne same]; exact listed, rfl⟩

theorem shrinks_retain {shard : Nat} {keep : UdpSessionEntry → Bool}
    (removes : ∀ source entry, keep entry = false → Removes setting state action source entry) :
    Shrinks setting state action (state.retainShard setting shard keep) := by
  constructor
  · intro other new listed
    exact ⟨new, Table.lookup_of_lookup_retain listed, rfl⟩
  · intro other old listed
    cases kept : keep old with
    | true =>
        left
        refine ⟨old, ?_, rfl⟩
        rw [State.retainShard, Table.lookup_retain, listed]
        simp [Option.filter, kept]
    | false => exact .inr (removes other old kept)

end Sessions

section Moves

variable {setting : Setting Source} {state after : State Source Datagram}
  {action : Action Source Datagram} {task : Nat} {stream : Stream Source Datagram}

/-- An action that changes no stream. -/
theorem took_idle (streams : after.streams = state.streams)
    (sessions : Shrinks setting state action after.sessions)
    (opening : after.opening = state.opening) (spawned : after.spawned = state.spawned)
    (running : after.loop.running = true → state.loop.running = true) :
    Took setting state action after :=
  .evolved (.of_streams_eq Evolves.refl streams) sessions opening spawned running

/-- One stream goes on. -/
theorem took_setStream {moved : Stream Source Datagram} (here : state.streams task = some stream)
    (evolves : Evolves stream moved) : Took setting state action (state.setStream task moved) :=
  .evolved (.of_move Evolves.refl here evolves rfl) shrinks_refl rfl rfl id

theorem took_move {move : Move} (here : state.streams task = some stream)
    (taken : state.move setting task stream move = some after) :
    Took setting state (.stream task move) after := by
  cases move with
  | connect ok =>
      simp only [State.move] at taken
      split at taken
      · rename_i connecting
        obtain rfl := Option.some.inj taken
        apply took_setStream here
        cases ok with
        | true => exact evolves_connected connecting
        | false => exact evolves_failed connecting
      · cases taken
  | insertSession now =>
      simp only [State.move] at taken
      split at taken
      · rename_i connected
        obtain rfl := Option.some.inj taken
        exact .inserted here connected
      · cases taken
  | spawnTasks =>
      simp only [State.move] at taken
      split at taken
      · rename_i inserted
        split at taken
        · obtain rfl := Option.some.inj taken
          exact took_setStream here (evolves_spawned inserted rfl rfl fun _ => rfl)
        · obtain rfl := Option.some.inj taken
          refine took_setStream here (evolves_spawned inserted rfl rfl ?_)
          intro impossible
          cases impossible
      · cases taken
  | dropGuard =>
      simp only [State.move] at taken
      split at taken
      · rename_i releasing
        obtain rfl := Option.some.inj taken
        exact .released here releasing
      · cases taken
  | launch =>
      simp only [State.move] at taken
      split at taken
      · rename_i starting
        obtain rfl := Option.some.inj taken
        exact took_setStream here (evolves_launched starting)
      · cases taken
  | takeItem =>
      simp only [State.move] at taken
      split at taken
      · rename_i receiving _
        obtain rfl := Option.some.inj taken
        exact took_setStream here (evolves_receiving receiving)
      · rename_i receiving _
        split at taken
        · cases taken
        · obtain rfl := Option.some.inj taken
          exact took_setStream here (evolves_receiving receiving)
      · cases taken
  | sent ok =>
      simp only [State.move] at taken
      split at taken
      · rename_i datagram sending
        obtain rfl := Option.some.inj taken
        exact took_setStream here (evolves_sending sending)
      · cases taken
  | writerIdle =>
      simp only [State.move] at taken
      split at taken
      · rename_i receiving
        obtain rfl := Option.some.inj taken
        exact took_setStream here (evolves_receiving receiving)
      · cases taken
  | writerAborted =>
      simp only [State.move] at taken
      split at taken
      · rename_i receiving _
        obtain rfl := Option.some.inj taken
        exact took_setStream here (evolves_receiving receiving)
      · rename_i sending _
        obtain rfl := Option.some.inj taken
        exact took_setStream here (evolves_sending sending)
      · cases taken
  | readerEnded | readerAborted =>
      simp only [State.move] at taken
      split at taken
      · obtain rfl := Option.some.inj taken
        exact took_setStream here evolves_reader
      · cases taken
  | writerJoined | readerJoined | superviseCancel =>
      simp only [State.move] at taken
      split at taken
      · rename_i watching
        obtain rfl := Option.some.inj taken
        exact took_setStream here (evolves_supervisor (by simp [watching.1]) (by decide))
      · cases taken
  | join =>
      simp only [State.move] at taken
      split at taken
      · rename_i joining
        split at taken
        · obtain rfl := Option.some.inj taken
          exact took_setStream here (evolves_supervisor (by simp [joining]) (by decide))
        · cases taken
      · rename_i joining
        split at taken
        · obtain rfl := Option.some.inj taken
          exact took_setStream here (evolves_supervisor (by simp [joining]) (by decide))
        · cases taken
      · cases taken
  | checkSession =>
      simp only [State.move] at taken
      split at taken
      · rename_i checking
        obtain rfl := Option.some.inj taken
        refine took_setStream here (evolves_supervisor (by simp [checking]) ?_)
        split
        · decide
        · decide
      · cases taken
  | removeSession =>
      simp only [State.move] at taken
      split at taken
      · rename_i removing
        obtain rfl := Option.some.inj taken
        have evolves : Evolves stream { stream with supervisor := .done } :=
          evolves_supervisor (by simp [removing]) (by decide)
        exact .evolved (.of_move Evolves.refl here evolves rfl)
          (shrinks_erase fun _ => .supervisor here removing) rfl rfl id
      · cases taken

theorem took_receive {source : Source} {datagram : Datagram} {now : Nat}
    (receiving : state.loop = .receiving) :
    Took setting state (.receive source datagram now) (state.receive source datagram now) := by
  unfold State.receive
  split
  · rename_i entry found
    split
    · exact took_idle rfl (shrinks_touch found) rfl rfl fun _ => by rw [receiving]; rfl
    · unfold State.trySend
      dsimp only
      split
      · rename_i stream here
        split
        · exact .evolved (.of_move Evolves.refl here evolves_queue rfl) (shrinks_touch found)
            rfl rfl id
        · exact took_idle rfl (shrinks_touch found) rfl rfl id
      · exact took_idle rfl (shrinks_touch found) rfl rfl id
  · exact took_idle rfl shrinks_refl rfl rfl fun _ => by rw [receiving]; rfl

theorem took_of_step {action : Action Source Datagram}
    (taken : step setting state action = some after) : Took setting state action after := by
  cases action with
  | receive source datagram now =>
      simp only [step] at taken
      split at taken
      · obtain rfl := Option.some.inj taken
        exact took_receive ‹_›
      · cases taken
  | checkClosed =>
      simp only [step] at taken
      split at taken
      · rename_i checking
        obtain rfl := Option.some.inj taken
        exact took_idle rfl shrinks_refl rfl rfl fun _ => by rw [checking]; rfl
      · cases taken
  | removeClosed =>
      simp only [step] at taken
      split at taken
      · rename_i removing
        obtain rfl := Option.some.inj taken
        exact took_idle rfl (shrinks_erase fun _ => .loop removing) rfl rfl
          fun _ => by rw [removing]; rfl
      · cases taken
  | claim =>
      simp only [step] at taken
      split at taken
      · rename_i source datagram claiming
        obtain rfl := Option.some.inj taken
        by_cases marked : source ∈ state.opening
        · rw [State.claim, if_pos marked]
          exact took_idle rfl shrinks_refl rfl rfl fun _ => by rw [claiming]; rfl
        · exact .claimed claiming marked
      · cases taken
  | receiveError | natTimeout | closeControl | controlClosed | startSweep now =>
      simp only [step] at taken
      split at taken
      · obtain rfl := Option.some.inj taken
        first
        | exact took_idle rfl shrinks_refl rfl rfl id
        | exact took_idle rfl shrinks_refl rfl rfl fun impossible => nomatch impossible
      · cases taken
  | clearShard =>
      simp only [step] at taken
      split at taken
      · rename_i shard clearing
        split at taken
        · obtain rfl := Option.some.inj taken
          have shrinks : Shrinks setting state .clearShard
              (state.retainShard setting shard fun _ => false) :=
            shrinks_retain fun _ _ _ => .cleared clearing
          exact took_idle rfl shrinks rfl rfl fun impossible => nomatch impossible
        · obtain rfl := Option.some.inj taken
          exact took_idle rfl shrinks_refl rfl rfl fun impossible => nomatch impossible
      · cases taken
  | sweepShard =>
      simp only [step] at taken
      split at taken
      · rename_i sweeping
        split at taken
        · obtain rfl := Option.some.inj taken
          exact took_idle rfl (shrinks_retain fun _ _ unkept => .swept sweeping unkept) rfl rfl id
        · obtain rfl := Option.some.inj taken
          exact took_idle rfl shrinks_refl rfl rfl id
      · cases taken
  | stream task move =>
      simp only [step] at taken
      split at taken
      · exact took_move ‹_› taken
      · cases taken

end Moves

end Juicity.Client.UdpSessions
