import Juicity.Client.AuthStream.Model
import Juicity.Client.Reconnect.Invariant
import Juicity.Common.IpText

/-!
Contract: a live connection keeps its auth stream through every run in which no
message fails on a stream whose connection is open. The leader clears the
connection before the stream and stores the stream before the connection, and
it is alone, so between these statements no connection is visible; a writer
holds the lock of the cell, so the leader cannot replace the stream under it.
What breaks the property is `send_underlay_auth` itself: it empties the cell on
any error, one of its own argument included, and nothing refills the cell while
the connection lives.
-/

namespace Juicity.Client.AuthStream

open Juicity.Common
open Juicity.Machine

/-- A visible live connection has its auth stream in the cell, or a call is
writing on that stream. -/
def AuthReady (state : State) : Prop :=
  ∀ conn, state.shared.liveConnection = some conn →
    state.shared.authUniStream = some conn ∨
      ∃ sender auth, state.senders sender = .writing auth conn

/-- The writer accepts the message: a PSK of 32 bytes, and a hostname that is an
address or has at most 255 bytes. -/
def Acceptable (text : AddrText) (auth : UnderlayAuth) : Prop :=
  auth.psk.length = Protocol.underlayPskLen ∧
    ((text.parseIp auth.metadata.hostname).isSome = true ∨
      (utf8 auth.metadata.hostname).length ≤ 255)

/-- A write on a stream whose connection is open gets an acceptable message and
a stream that takes it. -/
def Spared (text : AddrText) (state : State) : Action → Prop
  | .write sender stream =>
      ∀ auth conn, state.senders sender = .writing auth conn →
        state.shared.closed conn = true ∨ (stream = .ok () ∧ Acceptable text auth)
  | _ => True

/-- A call that locks the cell while a connection is live finds the stream of
this connection and goes on to write. -/
def LockFindsStream (text : AddrText) (state : State) (action : Action) : Prop :=
  ∀ sender auth conn, action = .lock sender → state.senders sender = .locking auth →
    state.authLock = none → state.shared.liveConnection = some conn →
      ∃ after, step text state action = some after ∧ after.senders sender = .writing auth conn

/-! ## The leader's two cells -/

/-- The leader has hidden the connection and not yet published the new one. -/
def offline : Reconnect.Pc → Bool
  | .clearingAuth _ | .dialing _ | .storingAuth _ _
  | .asking (.connected _ _) | .locking (.connected _ _) => true
  | _ => false

/-- The connection whose stream the leader has stored and is about to publish. -/
def stored : Reconnect.Pc → Option Nat
  | .asking (.connected _ conn) | .locking (.connected _ conn) => some conn
  | _ => none

theorem leads_of_offline {pc : Reconnect.Pc} (hidden : offline pc = true) :
    ∃ done, pc.leads = some done := by
  cases pc with
  | clearingAuth done | dialing done | storingAuth done conn => exact ⟨done, rfl⟩
  | asking site | locking site =>
      cases site with
      | connected done conn => exact ⟨done, rfl⟩
      | _ => cases hidden
  | _ => cases hidden

theorem offline_of_stored {pc : Reconnect.Pc} {conn : Nat} (ready : stored pc = some conn) :
    offline pc = true := by
  cases pc with
  | asking site | locking site =>
      cases site with
      | connected done conn => rfl
      | _ => cases ready
  | _ => cases ready

/-- The two cells and the callers, as far as the cells concern them. -/
structure Kept (state after : Reconnect.State) : Prop where
  connection : after.connection = state.connection
  auth : after.authUniStream = state.authUniStream
  closed : ∀ conn, state.closed conn = true → after.closed conn = true
  offline : ∀ caller, offline (after.callers caller).pc = true →
    offline (state.callers caller).pc = true
  stored : ∀ caller conn, stored (after.callers caller).pc = some conn →
    stored (state.callers caller).pc = some conn

/-- What a step of the reconnect protocol does to the two cells. -/
inductive Touched (state : Reconnect.State) : Reconnect.Action → Reconnect.State → Prop where
  | kept {action : Reconnect.Action} {after : Reconnect.State} (keeps : Kept state after) :
      Touched state action after
  | hidden (caller done : Nat) (here : (state.callers caller).pc = .clearing done) :
      Touched state (.run caller) { state.setPc caller (.clearingAuth done) with connection := none }
  | emptied (caller done : Nat) (here : (state.callers caller).pc = .clearingAuth done) :
      Touched state (.run caller) { state.setPc caller (.dialing done) with authUniStream := none }
  | filled (caller done conn : Nat) (here : (state.callers caller).pc = .storingAuth done conn) :
      Touched state (.run caller) { state.setPc caller (.asking (.connected done conn)) with
        authUniStream := some conn }
  | published (caller done conn : Nat)
      (here : (state.callers caller).pc = .locking (.connected done conn)) :
      Touched state (.run caller) { state.setPc caller (.publishing done conn) with connection := some conn }

section Inversion

variable {state after : Reconnect.State} {action : Reconnect.Action} {caller : Nat}
  {pc : Reconnect.Pc}

/-- A call moves and leaves the cells alone. -/
theorem kept_of_moved (caller : Nat) (pc : Reconnect.Pc)
    (moved : Reconnect.Moved state after caller pc)
    (connection : after.connection = state.connection)
    (auth : after.authUniStream = state.authUniStream) (closed : after.closed = state.closed)
    (hides : offline pc = true → offline (state.callers caller).pc = true)
    (stores : stored pc = none ∨ stored pc = stored (state.callers caller).pc) :
    Touched state action after := by
  refine .kept ⟨connection, auth, fun conn => by rw [closed]; exact id, ?_, ?_⟩
  · apply moved.forall_pc
      (motive := fun other pc => offline pc = true → offline (state.callers other).pc = true)
    · exact hides
    · exact fun _ _ => id
  · intro other conn
    apply moved.forall_pc (motive := fun other pc =>
      stored pc = some conn → stored (state.callers other).pc = some conn)
    · intro ready
      rcases stores with nothing | same
      · rw [nothing] at ready
        cases ready
      · rw [← same]
        exact ready
    · exact fun _ _ => id

theorem stored_of_online (outside : offline pc = false) : stored pc = none := by
  cases ready : stored pc with
  | none => rfl
  | some conn =>
      rw [offline_of_stored ready] at outside
      cases outside

/-- Leaving the critical section for a place outside `lead_reconnect`. -/
theorem kept_unlock (outside : offline pc = false) :
    Touched state action (state.unlock caller pc) := by
  refine kept_of_moved caller pc rfl rfl rfl rfl ?_ (.inl (stored_of_online outside))
  rw [outside]
  exact fun impossible => absurd impossible (by decide)

theorem kept_setPc (outside : offline pc = false) :
    Touched state action (state.setPc caller pc) := by
  refine kept_of_moved caller pc rfl rfl rfl rfl ?_ (.inl (stored_of_online outside))
  rw [outside]
  exact fun impossible => absurd impossible (by decide)

theorem kept_failOrRetry : Touched state action (state.failOrRetry caller) := by
  unfold Reconnect.State.failOrRetry
  split
  · exact kept_unlock rfl
  · exact kept_unlock rfl

theorem kept_decide : Touched state action (state.decide caller) := by
  unfold Reconnect.State.decide
  split
  · exact kept_unlock rfl
  · split
    · split
      · rename_i done registered
        exact kept_of_moved caller (.joined (state.notify.notified done))
          rfl rfl rfl rfl (by simp [offline]) (.inl rfl)
      · exact kept_unlock rfl
    · exact kept_of_moved caller (.clearing state.notify.fresh)
        rfl rfl rfl rfl (by simp [offline]) (.inl rfl)

theorem touched_enter {site : Reconnect.Site}
    (here : (state.callers caller).pc = .locking site) :
    Touched state (.run caller) (state.enter caller site) := by
  cases site with
  | loopTop =>
      unfold Reconnect.State.enter
      cases state.liveConnection with
      | some conn => exact kept_unlock rfl
      | none => exact kept_setPc rfl
  | preWait wait =>
      unfold Reconnect.State.enter
      simp only
      split
      · exact kept_unlock rfl
      · exact kept_setPc rfl
  | postWake => exact kept_failOrRetry
  | failed done error =>
      exact kept_of_moved caller (.signalling done (.error ⟨error, state.failures⟩ false))
        rfl rfl rfl rfl (by simp [offline]) (.inl rfl)
  | connected done conn => exact .published caller done conn here

theorem kept_dropGuard : Touched state action (state.dropGuard caller) := by
  unfold Reconnect.State.dropGuard
  split
  · exact kept_of_moved caller (.dropped) rfl rfl rfl rfl (by simp [offline])
      (.inl rfl)
  · exact kept_setPc rfl

theorem touched_advance (taken : state.advance caller = some after) :
    Touched state (.run caller) after := by
  unfold Reconnect.State.advance at taken
  cases here : (state.callers caller).pc with
  | idle | dialing | returned | dropped => simp [here] at taken
  | entering | joined | woken =>
      simp only [here] at taken
      split at taken
      · obtain rfl := Option.some.inj taken
        exact kept_setPc rfl
      · obtain rfl := Option.some.inj taken
        exact kept_setPc rfl
  | asking site =>
      simp only [here, Option.some.injEq] at taken
      subst taken
      have hides : offline (.locking site) = offline (.asking site) := by cases site <;> rfl
      have stores : stored (.locking site) = stored (.asking site) := by cases site <;> rfl
      refine kept_of_moved caller (.locking site) rfl rfl rfl rfl ?_ (.inr ?_)
      · rw [here, hides]
        exact id
      · rw [here, stores]
  | locking site =>
      simp only [here] at taken
      split at taken
      · obtain rfl := Option.some.inj taken
        exact touched_enter here
      · cases taken
  | deciding =>
      simp only [here, Option.some.injEq] at taken
      subst taken
      exact kept_decide
  | preWaitLive wait =>
      simp only [here] at taken
      split at taken
      · obtain rfl := Option.some.inj taken
        exact kept_unlock rfl
      · obtain rfl := Option.some.inj taken
        exact kept_failOrRetry
  | waiting wait =>
      simp only [here] at taken
      split at taken
      · obtain rfl := Option.some.inj taken
        exact kept_setPc rfl
      · cases taken
  | clearing done =>
      simp only [here, Option.some.injEq] at taken
      subst taken
      exact .hidden caller done here
  | clearingAuth done =>
      simp only [here, Option.some.injEq] at taken
      subst taken
      exact .emptied caller done here
  | storingAuth done conn =>
      simp only [here, Option.some.injEq] at taken
      subst taken
      exact .filled caller done conn here
  | publishing done conn =>
      simp only [here, Option.some.injEq] at taken
      subst taken
      exact kept_of_moved caller (.signalling done (.ok conn)) rfl rfl rfl rfl
        (by simp [offline]) (.inl rfl)
  | signalling done result =>
      simp only [here, Option.some.injEq] at taken
      subst taken
      exact kept_of_moved caller (.returned result) rfl rfl rfl rfl
        (by simp [offline]) (.inl rfl)
  | dropping done =>
      simp only [here, Option.some.injEq] at taken
      subst taken
      exact kept_dropGuard

theorem touched_of_step (taken : Reconnect.step state action = some after) :
    Touched state action after := by
  cases action with
  | tick elapsed =>
      obtain rfl := Option.some.inj taken
      exact .kept ⟨rfl, rfl, fun _ => id, fun _ => id, fun _ _ => id⟩
  | close conn =>
      obtain rfl := Option.some.inj taken
      refine .kept ⟨rfl, rfl, fun other closed => ?_, fun _ => id, fun _ _ => id⟩
      by_cases same : other = conn
      · simp [same]
      · simp [same, closed]
  | begin caller record =>
      simp only [Reconnect.step] at taken
      split at taken
      · rename_i idle
        obtain rfl := Option.some.inj taken
        refine .kept ⟨rfl, rfl, fun _ => id, fun other => ?_, fun other conn => ?_⟩
        · by_cases same : other = caller
          · simp [same, offline]
          · simp [same]
        · by_cases same : other = caller
          · simp [same, stored]
          · simp [same]
      · cases taken
  | run caller => exact touched_advance taken
  | dial caller result =>
      simp only [Reconnect.step] at taken
      split at taken
      · rename_i done conn here
        obtain rfl := Option.some.inj taken
        exact kept_of_moved caller (.storingAuth done conn) rfl rfl rfl rfl
          (by rw [here]; exact fun _ => rfl) (.inl rfl)
      · obtain rfl := Option.some.inj taken
        exact kept_setPc rfl
      · cases taken
  | cancel caller =>
      simp only [Reconnect.step] at taken
      split at taken
      · obtain rfl := Option.some.inj taken
        cases (state.callers caller).pc.leads with
        | some done =>
            exact kept_of_moved caller (.dropping done) rfl rfl rfl rfl
              (by simp [offline]) (.inl rfl)
        | none =>
            exact kept_of_moved caller (.dropped) rfl rfl rfl rfl
              (by simp [offline]) (.inl rfl)
      · cases taken

end Inversion

/-! ## The invariant -/

/-- The connection is closed or its stream is in the cell. -/
def StreamOf (shared : Reconnect.State) (conn : Nat) : Prop :=
  shared.closed conn = true ∨ shared.authUniStream = some conn

/-- What holds while every write is spared. -/
structure Paired (state : State) : Prop where
  core : Reconnect.Core state.shared
  visible : ∀ conn, state.shared.connection = some conn → StreamOf state.shared conn
  offline : ∀ caller, offline (state.shared.callers caller).pc = true →
    state.shared.connection = none
  ready : ∀ caller conn, stored (state.shared.callers caller).pc = some conn →
    StreamOf state.shared conn
  writer : ∀ sender auth stream, state.senders sender = .writing auth stream →
    state.shared.authUniStream = some stream ∧ state.authLock = some sender

theorem paired_initial : Paired initial where
  core := Reconnect.core_initial
  visible := by simp [initial, Reconnect.initial]
  offline := by simp [initial, Reconnect.initial, AuthStream.offline]
  ready := by simp [initial, Reconnect.initial, stored]
  writer := by simp [initial]

theorem liveConnection_eq_some {shared : Reconnect.State} {conn : Nat} :
    shared.liveConnection = some conn ↔
      shared.connection = some conn ∧ shared.closed conn = false := by
  simp only [Reconnect.State.liveConnection, Option.filter_eq_some_iff, Bool.not_eq_true']

/-- A live connection finds its stream in the cell. -/
theorem Paired.live {state : State} (paired : Paired state) {conn : Nat}
    (live : state.shared.liveConnection = some conn) :
    state.shared.authUniStream = some conn := by
  obtain ⟨visible, opened⟩ := liveConnection_eq_some.mp live
  rcases paired.visible conn visible with closed | here
  · rw [opened] at closed
    cases closed
  · exact here

theorem Paired.authReady {state : State} (paired : Paired state) : AuthReady state :=
  fun _ live => .inl (paired.live live)

section Preservation

variable {state : State} {shared : Reconnect.State} {text : AddrText}

/-- Two calls inside `lead_reconnect` are one. -/
theorem Paired.alone (paired : Paired state) {caller other : Nat}
    (here : AuthStream.offline (state.shared.callers caller).pc = true)
    (there : AuthStream.offline (state.shared.callers other).pc = true) : other = caller := by
  obtain ⟨done, leads⟩ := leads_of_offline here
  obtain ⟨done', otherLeads⟩ := leads_of_offline there
  exact paired.core.alone other caller done' done otherLeads leads

/-- A call takes its next place in `lead_reconnect`, where no other call is. -/
theorem offline_moved {caller : Nat} {pc : Reconnect.Pc} (paired : Paired state)
    (here : AuthStream.offline (state.shared.callers caller).pc = true)
    (moved : Reconnect.Moved state.shared shared caller pc) (other : Nat)
    (hidden : AuthStream.offline (shared.callers other).pc = true) : other = caller := by
  by_cases same : other = caller
  · exact same
  · rw [moved.pc_other same] at hidden
    exact paired.alone here hidden

/-- The leader may put another stream into the cell while nobody writes on the old one. -/
theorem Paired.replaced (paired : Paired state) {caller : Nat} {pc : Reconnect.Pc}
    {cell : Option Nat}
    (core : Reconnect.Core { state.shared.setPc caller pc with authUniStream := cell })
    (hidden : AuthStream.offline (state.shared.callers caller).pc = true)
    (nobodyWrites : state.authLock = none)
    (filled : ∀ conn, stored pc = some conn → cell = some conn) :
    Paired { state with
      shared := { state.shared.setPc caller pc with authUniStream := cell } } := by
  have moved : Reconnect.Moved state.shared
    { state.shared.setPc caller pc with authUniStream := cell } caller pc := rfl
  refine ⟨core, ?_, fun _ _ => paired.offline caller hidden, ?_, ?_⟩
  · intro conn visible
    change state.shared.connection = some conn at visible
    rw [paired.offline caller hidden] at visible
    cases visible
  · intro other conn ready
    obtain rfl := offline_moved paired hidden moved other (offline_of_stored ready)
    simp only [Reconnect.State.setPc, Function.update_self] at ready
    exact .inr (filled conn ready)
  · intro sender auth stream writing
    have held := (paired.writer sender auth stream writing).2
    rw [nobodyWrites] at held
    cases held

/-- A step of the reconnect protocol keeps the invariant: it does not touch the
cell while a sender holds the lock. -/
theorem Paired.reconnect (paired : Paired state) {action : Reconnect.Action}
    (free : ¬ blocked state action)
    (taken : Reconnect.step state.shared action = some shared) :
    Paired { state with shared := shared } := by
  have core := paired.core.preserved taken
  cases touched_of_step taken with
  | kept keeps =>
      have streamOf : ∀ conn, StreamOf state.shared conn → StreamOf shared conn := by
        intro conn
        exact Or.imp (keeps.closed conn) fun here => by rw [keeps.auth]; exact here
      exact {
        core := core
        visible := fun conn visible =>
          streamOf conn (paired.visible conn (by rw [← keeps.connection]; exact visible))
        offline := fun caller hidden => by
          show shared.connection = none
          rw [keeps.connection]
          exact paired.offline caller (keeps.offline caller hidden)
        ready := fun caller conn ready =>
          streamOf conn (paired.ready caller conn (keeps.stored caller conn ready))
        writer := fun sender auth stream writing => by
          show shared.authUniStream = some stream ∧ _
          rw [keeps.auth]
          exact paired.writer sender auth stream writing }
  | hidden caller done here =>
      refine ⟨core, fun conn visible => absurd visible (by simp), fun _ _ => rfl, ?_, paired.writer⟩
      -- the call that hides the connection is the leader, so none is publishing
      intro other conn ready
      have mine : (state.shared.callers caller).pc.leads = some done := by rw [here]; rfl
      by_cases same : other = caller
      · subst same
        simp [Reconnect.State.setPc, stored] at ready
      · simp only [Reconnect.State.setPc, ne_eq, same, not_false_eq_true,
          Function.update_of_ne] at ready
        obtain ⟨done', otherLeads⟩ := leads_of_offline (offline_of_stored ready)
        exact absurd (paired.core.alone other caller done' done otherLeads mine) same
  | emptied caller done here =>
      refine paired.replaced core (by rw [here]; rfl) ?_ fun conn ready => ?_
      · by_contra taken
        exact free ⟨by rw [here]; rfl, taken⟩
      · simp [stored] at ready
  | filled caller done conn here =>
      refine paired.replaced core (by rw [here]; rfl) ?_ fun conn' ready => ?_
      · by_contra taken
        exact free ⟨by rw [here]; rfl, taken⟩
      · exact ready
  | published caller done conn here =>
      have hidden : AuthStream.offline (state.shared.callers caller).pc = true := by
        rw [here]
        rfl
      have moved : Reconnect.Moved state.shared { state.shared.setPc caller (.publishing done conn)
        with connection := some conn } caller (.publishing done conn) := rfl
      have nobodyHides : ∀ other, AuthStream.offline (({ state.shared.setPc caller
          (.publishing done conn) with connection := some conn } :
            Reconnect.State).callers other).pc ≠ true := by
        intro other otherHidden
        obtain rfl := offline_moved paired hidden moved other otherHidden
        simp [Reconnect.State.setPc, AuthStream.offline] at otherHidden
      refine ⟨core, ?_, fun other otherHidden => absurd otherHidden (nobodyHides other), ?_,
        paired.writer⟩
      · intro other visible
        obtain rfl := Option.some.inj visible
        exact paired.ready caller conn (by rw [here]; rfl)
      · intro other conn' ready
        exact absurd (offline_of_stored ready) (nobodyHides other)

/-- A sender that is not writing afterwards leaves every writer as it was. -/
theorem writing_of_setSender {sender other : Nat} {pc : SenderPc} {auth : UnderlayAuth}
    {stream : Nat} (quiet : ∀ auth stream, pc ≠ .writing auth stream)
    (writing : (state.setSender sender pc).senders other = .writing auth stream) :
    other ≠ sender ∧ state.senders other = .writing auth stream := by
  by_cases same : other = sender
  · subst same
    simp only [State.setSender, Function.update_self] at writing
    exact absurd writing (quiet auth stream)
  · simp only [State.setSender, ne_eq, same, not_false_eq_true, Function.update_of_ne] at writing
    exact ⟨same, writing⟩

/-- A sender moves without taking or giving up the lock. -/
theorem Paired.setSender (paired : Paired state) (sender : Nat) (pc : SenderPc)
    (quiet : ∀ auth stream, pc ≠ .writing auth stream) : Paired (state.setSender sender pc) where
  core := paired.core
  visible := paired.visible
  offline := paired.offline
  ready := paired.ready
  writer := fun other auth stream writing =>
    paired.writer other auth stream (writing_of_setSender quiet writing).2

/-- The writer holds the lock alone. -/
theorem Paired.only_writer (paired : Paired state) {sender other : Nat}
    {auth auth' : UnderlayAuth} {stream stream' : Nat}
    (writing : state.senders sender = .writing auth stream)
    (alsoWriting : state.senders other = .writing auth' stream') : other = sender := by
  have held := (paired.writer sender auth stream writing).2
  rw [(paired.writer other auth' stream' alsoWriting).2] at held
  exact Option.some.inj held

/-- The writer gives up the lock; the cell keeps the stream. -/
theorem Paired.release (paired : Paired state) {sender : Nat} {pc : SenderPc}
    {auth : UnderlayAuth} {stream : Nat} (writing : state.senders sender = .writing auth stream)
    (quiet : ∀ auth stream, pc ≠ .writing auth stream) :
    Paired { state.setSender sender pc with authLock := none } where
  core := paired.core
  visible := paired.visible
  offline := paired.offline
  ready := paired.ready
  writer := by
    intro other auth' stream' alsoWriting
    obtain ⟨different, before⟩ := writing_of_setSender quiet alsoWriting
    exact absurd (paired.only_writer writing before) different

/-- Emptying the cell is harmless when the connection of its stream is closed. -/
theorem Paired.empty (paired : Paired state) {sender : Nat} {pc : SenderPc}
    {auth : UnderlayAuth} {stream : Nat} (writing : state.senders sender = .writing auth stream)
    (quiet : ∀ auth stream, pc ≠ .writing auth stream)
    (closed : state.shared.closed stream = true) :
    Paired { state.setSender sender pc with
      authLock := none
      shared := { state.shared with authUniStream := none } } := by
  have here := (paired.writer sender auth stream writing).1
  have streamOf : ∀ conn, StreamOf state.shared conn →
      StreamOf { state.shared with authUniStream := none } conn := by
    rintro conn (gone | mine)
    · exact .inl gone
    · rw [here] at mine
      obtain rfl := Option.some.inj mine
      exact .inl closed
  exact {
    core := paired.core.congr (fun _ => rfl) rfl rfl rfl
    visible := fun conn visible => streamOf conn (paired.visible conn visible)
    offline := paired.offline
    ready := fun caller conn ready => streamOf conn (paired.ready caller conn ready)
    writer := by
      intro other auth' stream' alsoWriting
      obtain ⟨different, before⟩ := writing_of_setSender quiet alsoWriting
      exact absurd (paired.only_writer writing before) different }

/-! ## Runs -/

/-- A message is written when its writer accepts it and the stream takes it. -/
theorem writeOutcome_ok {auth : UnderlayAuth} (accepts : Acceptable text auth) :
    writeOutcome text auth (.ok ()) = .ok () := by
  obtain ⟨length, host⟩ := accepts
  have metadata : ∃ tokens,
      Protocol.writeUnderlayMetadata text auth.metadata = .ok tokens := by
    unfold Protocol.writeUnderlayMetadata AddrText.parseIpv4 AddrText.parseIpv6
    cases parsed : text.parseIp auth.metadata.hostname with
    | some address => cases address <;> exact ⟨_, rfl⟩
    | none =>
        rw [parsed] at host
        exact ⟨_, if_pos (by simpa using host)⟩
  obtain ⟨tokens, wrote⟩ := metadata
  unfold writeOutcome Protocol.writeUnderlayAuth
  rw [if_pos length, wrote]
  rfl

theorem Paired.preserved {after : State} {action : Action} (paired : Paired state)
    (spared : Spared text state action) (taken : step text state action = some after) :
    Paired after := by
  cases action with
  | reconnect action =>
      simp only [step] at taken
      split at taken
      · cases taken
      · rename_i free
        obtain ⟨shared, stepped, rfl⟩ := Option.map_eq_some_iff.mp taken
        exact paired.reconnect free stepped
  | begin sender auth =>
      simp only [step] at taken
      split at taken
      · obtain ⟨shared, stepped, rfl⟩ := Option.map_eq_some_iff.mp taken
        have moved := paired.setSender sender (.connecting auth) (by simp)
        have free : ¬ blocked (state.setSender sender (.connecting auth)) (.begin sender true) := id
        exact moved.reconnect free stepped
      · cases taken
  | connected sender =>
      simp only [step, State.connected] at taken
      split at taken
      case h_4 => cases taken
      all_goals
        obtain rfl := Option.some.inj taken
        exact paired.setSender sender _ (by simp)
  | lock sender =>
      simp only [step, State.lock] at taken
      split at taken
      · rename_i auth asking free
        split at taken
        · rename_i stream here
          obtain rfl := Option.some.inj taken
          refine ⟨paired.core, paired.visible, paired.offline, paired.ready, ?_⟩
          intro other auth' stream' writing
          by_cases same : other = sender
          · subst same
            simp only [State.setSender, Function.update_self, SenderPc.writing.injEq] at writing
            obtain ⟨-, rfl⟩ := writing
            exact ⟨here, rfl⟩
          · -- another writer would hold the lock that was found free
            simp only [State.setSender, ne_eq, same, not_false_eq_true,
              Function.update_of_ne] at writing
            have held := (paired.writer other auth' stream' writing).2
            rw [free] at held
            cases held
        · obtain rfl := Option.some.inj taken
          exact paired.setSender sender _ (by simp)
      · cases taken
  | write sender stream =>
      simp only [step, State.write] at taken
      split at taken
      · rename_i auth conn writing
        split at taken
        · obtain rfl := Option.some.inj taken
          exact paired.release writing (by simp)
        · rename_i error failed
          obtain rfl := Option.some.inj taken
          rcases spared auth conn writing with closed | ⟨rfl, accepts⟩
          · exact paired.empty writing (by simp) closed
          · rw [writeOutcome_ok accepts] at failed
            cases failed
      · cases taken
  | drop sender =>
      simp only [step, State.drop] at taken
      split at taken
      · obtain rfl := Option.some.inj taken
        exact paired.setSender sender _ (by simp)
      · rename_i auth stream writing
        obtain rfl := Option.some.inj taken
        exact paired.release writing (by simp)
      · cases taken

theorem Paired.lockFindsStream (paired : Paired state) (action : Action) :
    LockFindsStream text state action := by
  rintro sender auth conn rfl asking free live
  have found : step text state (.lock sender) =
      some { state.setSender sender (.writing auth conn) with authLock := some sender } := by
    simp only [step, State.lock, asking, free, paired.live live]
  exact ⟨_, found, by simp [State.setSender]⟩

end Preservation

/-- In a run whose writes are all spared, every live connection has its auth
stream in every state, and every call that locks the cell while a connection is
live finds that stream. -/
theorem authReady_of_spared (text : AddrText) {history : List (State × Action)} {final : State}
    (run : Run (step text) initial history final) (spared : Allowed (Spared text) history) :
    Everywhere AuthReady history final ∧
      ∀ entry ∈ history, LockFindsStream text entry.1 entry.2 := by
  have every : Everywhere Paired history final :=
    run.invariant_of_allowed paired_initial
      (fun _ _ _ paired spared taken => paired.preserved spared taken) spared
  refine ⟨every.mono fun _ paired => paired.authReady, ?_⟩
  intro entry member
  exact (every.1 entry member).lockFindsStream entry.2

/-- A rejected message on the stream of the live connection strands it. -/
theorem not_authReady_of_rejected {text : AddrText} {state after : State} {sender conn : Nat}
    {auth : UnderlayAuth} {stream : Except String Unit} {error : String}
    (paired : Paired state) (writing : state.senders sender = .writing auth conn)
    (live : state.shared.liveConnection = some conn)
    (rejected : writeOutcome text auth stream = .error error)
    (taken : step text state (.write sender stream) = some after) : ¬ AuthReady after := by
  simp only [step, State.write, writing, rejected, Option.some.injEq] at taken
  subst taken
  intro ready
  rcases ready conn live with here | ⟨other, auth', alsoWriting⟩
  · cases here
  · obtain ⟨different, before⟩ := writing_of_setSender (by simp) alsoWriting
    exact different (paired.only_writer writing before)

/-! ## Two messages on one connection -/

/-- A message with a PSK of `length` bytes. -/
def messageWithPsk (length : Nat) : UnderlayAuth where
  iv := .replicate 32 7
  psk := List.replicate length 0x42
  metadata := ⟨.udp, "example.com", 53, .replicate 16 0⟩
  uuid := .replicate 16 0

/-- Sender 0 leads `connect`, dials connection 0 and locks the cell. -/
def firstLocks (auth : UnderlayAuth) : List Action :=
  [.begin 0 auth] ++ List.replicate 6 (.reconnect (.run 0)) ++ [.reconnect (.dial 0 (.ok 0))] ++
    List.replicate 5 (.reconnect (.run 0)) ++ [.connected 0, .lock 0]

/-- Sender 1 finds the connection live and locks the cell. -/
def secondLocks (auth : UnderlayAuth) : List Action :=
  [.begin 1 auth, .reconnect (.run 1), .connected 1, .lock 1]

/-- What sender 1 returned, when that is an error. -/
def secondError (state : State) : Option String :=
  match state.senders 1 with
  | .returned (.error error) => some error
  | _ => none

/-- Sender 0 stands at its write on the live connection 0. -/
def firstWrites (auth : UnderlayAuth) (state : State) : Bool :=
  state.shared.liveConnection = some 0 &&
    match state.senders 0 with
    | .writing message conn => message = auth && conn = 0
    | _ => false

theorem firstWrites_iff {auth : UnderlayAuth} {state : State} :
    firstWrites auth state = true ↔
      state.shared.liveConnection = some 0 ∧ state.senders 0 = .writing auth 0 := by
  unfold firstWrites
  cases state.senders 0 <;> simp

/-- A schedule without writes is spared. -/
theorem spared_of_no_write {text : AddrText} (schedule : List Action) (origin : State)
    (silent : ∀ action ∈ schedule, ∀ sender stream, action ≠ .write sender stream) :
    Allowed (Spared text) (trace (step text) origin schedule) := by
  induction schedule generalizing origin with
  | nil => exact allowed_nil
  | cons action schedule inductionHypothesis =>
      simp only [trace]
      split
      · rename_i after taken
        intro entry member
        rcases List.mem_cons.mp member with rfl | later
        · have here := silent action List.mem_cons_self
          cases action with
          | write sender stream => exact absurd rfl (here sender stream)
          | _ => trivial
        · exact inductionHypothesis after
            (fun other member => silent other (List.mem_cons_of_mem _ member)) entry later
      · exact allowed_nil

theorem firstLocks_silent (auth : UnderlayAuth) :
    ∀ action ∈ firstLocks auth, ∀ sender stream, action ≠ .write sender stream := by
  simp [firstLocks]

/-- A PSK of no bytes leaves the live connection without its auth stream, and
the next message on it is refused. -/
theorem rejected_message_strands_connection :
    ∃ state later, Reachable (step IpText.std) initial state ∧
      state.shared.liveConnection = some 0 ∧ ¬ AuthReady state ∧
      exec (step IpText.std) state (secondLocks (messageWithPsk 32)) = some later ∧
      later.shared.liveConnection = some 0 ∧
      secondError later = some "auth uni stream not available" := by
  have executed : (exec (step IpText.std) initial (firstLocks (messageWithPsk 0))).any
      (fun state => firstWrites (messageWithPsk 0) state &&
        (step IpText.std state (.write 0 (.ok ()))).any fun after =>
          after.shared.liveConnection = some 0 &&
            (exec (step IpText.std) after (secondLocks (messageWithPsk 32))).any fun later =>
              later.shared.liveConnection = some 0 &&
                secondError later = some "auth uni stream not available") = true := by
    decide +kernel
  obtain ⟨state, locked, facts⟩ := (Option.any_eq_true _ _).mp executed
  obtain ⟨here, written⟩ := Bool.and_eq_true_iff.mp facts
  obtain ⟨after, wrote, facts⟩ := (Option.any_eq_true _ _).mp written
  obtain ⟨live, refused⟩ := Bool.and_eq_true_iff.mp facts
  obtain ⟨later, finished, facts⟩ := (Option.any_eq_true _ _).mp refused
  simp only [Bool.and_eq_true, decide_eq_true_eq] at live facts
  obtain ⟨liveBefore, writing⟩ := firstWrites_iff.mp here
  have paired : Paired state :=
    ((run_trace locked).invariant_of_allowed paired_initial
      (fun _ _ _ paired spared taken => paired.preserved spared taken)
      (spared_of_no_write _ _ (firstLocks_silent _))).2
  have rejected : ∃ error, writeOutcome IpText.std (messageWithPsk 0) (.ok ()) = .error error :=
    ⟨_, rfl⟩
  obtain ⟨error, rejected⟩ := rejected
  exact ⟨after, later, (reachable_of_exec locked).next wrote, live,
    not_authReady_of_rejected paired writing liveBefore rejected wrote, finished, facts⟩

theorem acceptable_messageWithPsk : Acceptable IpText.std (messageWithPsk 32) :=
  ⟨by decide, .inr (by decide +kernel)⟩

theorem authReady_of_spared_write :
    ∃ history final, Run (step IpText.std) initial history final ∧
      Everywhere AuthReady history final ∧ final.shared.liveConnection = some 0 := by
  have executed : (exec (step IpText.std) initial (firstLocks (messageWithPsk 32))).any
      (fun state => firstWrites (messageWithPsk 32) state &&
        (step IpText.std state (.write 0 (.ok ()))).any fun after =>
          after.shared.liveConnection = some 0) = true := by
    decide +kernel
  obtain ⟨state, locked, facts⟩ := (Option.any_eq_true _ _).mp executed
  obtain ⟨here, written⟩ := Bool.and_eq_true_iff.mp facts
  obtain ⟨after, wrote, live⟩ := (Option.any_eq_true _ _).mp written
  have spared : Spared IpText.std state (.write 0 (.ok ())) := by
    intro auth conn writing
    rw [(firstWrites_iff.mp here).2] at writing
    obtain ⟨rfl, -⟩ := SenderPc.writing.inj writing
    exact .inr ⟨rfl, acceptable_messageWithPsk⟩
  have allowed := allowed_snoc.mpr
    ⟨spared_of_no_write _ initial (firstLocks_silent (messageWithPsk 32)), spared⟩
  have run := (run_trace locked).next wrote
  exact ⟨_, after, run, (authReady_of_spared IpText.std run allowed).1, by simpa using live⟩

end Juicity.Client.AuthStream
