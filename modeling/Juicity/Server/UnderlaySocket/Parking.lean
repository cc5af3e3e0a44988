import Juicity.Server.UnderlaySocket.Routing

/-!
Owns when `poll_recv` leaves Quinn without a wake-up. A call that spends its
batches without finding QUIC wakes the waker itself only while the idle counter
is below its limit, and the counter survives the calls that fail; the second
such call parks Quinn although the inner socket registered nothing.
-/

namespace Juicity.Server.UnderlaySocket

open Juicity.Common
open Juicity.Machine

/-! ## The system -/

/-- Quinn polls, or the receiver takes a packet or goes away. -/
inductive Action where
  | poll (inner : Nat → InnerPoll) (slices : Slices)
  | recv
  | close

def step (socket : DemuxUdpSocket) : Action → Option DemuxUdpSocket
  | .poll inner slices => some (pollRecv inner slices socket).socket
  | .recv =>
      let channel := socket.outbox.channel
      some { socket with
        outbox := { socket.outbox with channel := { channel with queue := channel.queue.tail } } }
  | .close =>
      let channel := socket.outbox.channel
      some { socket with
        outbox := { socket.outbox with channel := { channel with closed := true } } }

/-- A call that is pending has somebody to wake Quinn. -/
def PollRecv.Wakes (result : PollRecv) : Prop :=
  result.poll = .pending → result.registered = true ∨ result.woken = true

/-- No call of the run parks Quinn without a wake-up. -/
def NeverParked (history : List (DemuxUdpSocket × Action)) : Prop :=
  ∀ entry ∈ history, ∀ inner slices, entry.2 = .poll inner slices →
    (pollRecv inner slices entry.1).Wakes

/-! ## The kinds of calls -/

/-- A flood is a call whose batches are all without QUIC. -/
inductive Kind where
  | flood
  | settled
  | failed
deriving DecidableEq

/-- The kind of a call with this budget of batches, by what the inner socket
returns. -/
def kind : Nat → (Nat → InnerPoll) → Kind
  | 0, _ => .flood
  | budget + 1, inner =>
      match inner 0 with
      | .pending => .settled
      | .error _ => .failed
      | .received batch =>
          if batch.slots.any Slot.quic then .settled else kind budget fun k => inner (k + 1)

def callKind (inner : Nat → InnerPoll) : Kind := kind maxDemuxBatchesPerPoll inner

/-- The last call that did not fail was a flood. -/
def afterFlood (actions : List Action) : Bool :=
  actions.foldl
    (fun flooded action =>
      match action with
      | .poll inner _ =>
          match callKind inner with
          | .flood => true
          | .settled => false
          | .failed => flooded
      | _ => flooded)
    false

/-- A flood follows a call that found QUIC or nothing, failed calls apart. -/
def Spaced (actions : List Action) : Prop :=
  ∀ earlier inner slices later, actions = earlier ++ .poll inner slices :: later →
    callKind inner = .flood → afterFlood earlier = false

/-- What a call of each kind does to the counter and the waker. -/
def HasEffect (socket : DemuxUdpSocket) (result : PollRecv) : Kind → Prop
  | .flood => ∃ slices outbox, result = exhausted slices { socket with outbox := outbox }
  | .settled => result.socket.idlePollCount = 0 ∧ result.Wakes
  | .failed => result.socket.idlePollCount = socket.idlePollCount ∧ result.Wakes

theorem pollBatches_hasEffect (budget : Nat) (inner : Nat → InnerPoll) (slices : Slices)
    (socket : DemuxUdpSocket) :
    HasEffect socket (pollBatches budget inner slices socket) (kind budget inner) := by
  induction budget generalizing inner slices socket with
  | zero => exact ⟨slices, socket.outbox, rfl⟩
  | succ budget inductionHypothesis =>
      unfold kind pollBatches
      cases inner 0 with
      | pending => exact ⟨rfl, fun _ => .inl rfl⟩
      | error error => exact ⟨rfl, fun pending => by cases pending⟩
      | received batch =>
          dsimp only
          by_cases found : 0 < (scanBatch batch socket.outbox).keep
          · rw [if_pos ((keep_pos_iff batch _).mp found), if_pos found]
            exact ⟨rfl, fun pending => by cases pending⟩
          · have noQuic : ¬ batch.slots.any Slot.quic = true :=
              fun quic => found ((keep_pos_iff batch _).mpr quic)
            rw [if_neg noQuic, if_neg found]
            -- the first batch changed the outbox only
            exact inductionHypothesis (fun k => inner (k + 1)) _
              { socket with outbox := (scanBatch batch socket.outbox).outbox }

/-- A call wakes, or its waker is registered, unless it is a flood at the limit. -/
theorem wakes_iff (inner : Nat → InnerPoll) (slices : Slices) (socket : DemuxUdpSocket) :
    (pollRecv inner slices socket).Wakes ↔
      (callKind inner = .flood → socket.idlePollCount < maxIdlePollBeforeYield) := by
  have effect := pollBatches_hasEffect maxDemuxBatchesPerPoll inner slices socket
  rw [← pollRecv, ← callKind] at effect
  cases kinds : callKind inner with
  | flood =>
      rw [kinds] at effect
      obtain ⟨left, outbox, ends⟩ := effect
      rw [ends]
      unfold exhausted
      dsimp only
      by_cases limit : maxIdlePollBeforeYield ≤ socket.idlePollCount
      · rw [if_pos limit]
        constructor
        · intro wakes
          rcases wakes rfl with registered | woken
          · cases registered
          · cases woken
        · intro below
          exact absurd (below rfl) (Nat.not_lt.mpr limit)
      · rw [if_neg limit]
        exact ⟨fun _ _ => Nat.not_le.mp limit, fun _ _ => .inr rfl⟩
  | settled =>
      rw [kinds] at effect
      exact ⟨fun _ impossible => absurd impossible (by decide), fun _ => effect.2⟩
  | failed =>
      rw [kinds] at effect
      exact ⟨fun _ impossible => absurd impossible (by decide), fun _ => effect.2⟩

/-! ## Runs -/

theorem afterFlood_snoc (actions : List Action) (action : Action) :
    afterFlood (actions ++ [action]) =
      match action with
      | .poll inner _ =>
          match callKind inner with
          | .flood => true
          | .settled => false
          | .failed => afterFlood actions
      | _ => afterFlood actions := by
  unfold afterFlood
  rw [List.foldl_append]
  rfl

theorem spaced_snoc {actions : List Action} {action : Action} :
    Spaced (actions ++ [action]) ↔
      Spaced actions ∧ ∀ inner slices, action = .poll inner slices →
        callKind inner = .flood → afterFlood actions = false := by
  constructor
  · intro spaced
    constructor
    · intro earlier inner slices later shape
      apply spaced earlier inner slices (later ++ [action])
      rw [shape, List.append_assoc]
      rfl
    · intro inner slices same
      exact spaced actions inner slices [] (by rw [same])
  · rintro ⟨before, last⟩ earlier inner slices later shape
    rcases List.eq_nil_or_concat later with rfl | ⟨middle, final, rfl⟩
    · obtain ⟨rfl, same⟩ := List.append_inj' shape rfl
      exact last inner slices (List.cons.inj same).1
    · rw [List.concat_eq_append, ← List.cons_append, ← List.append_assoc] at shape
      obtain ⟨rfl, -⟩ := List.append_inj' shape rfl
      exact before earlier inner slices middle rfl

theorem neverParked_snoc {history : List (DemuxUdpSocket × Action)} {socket : DemuxUdpSocket}
    {action : Action} :
    NeverParked (history ++ [(socket, action)]) ↔
      NeverParked history ∧ ∀ inner slices, action = .poll inner slices →
        (pollRecv inner slices socket).Wakes := by
  constructor
  · intro never
    refine ⟨fun entry member => never entry (by simp [member]), ?_⟩
    exact never (socket, action) (by simp)
  · rintro ⟨earlier, last⟩ entry member
    rcases List.mem_append.mp member with old | new
    · exact earlier entry old
    · rw [List.mem_singleton.mp new]
      exact last

/-- The counter tells whether the last call that did not fail was a flood. -/
def CounterOf (flooded : Bool) (socket : DemuxUdpSocket) : Prop :=
  socket.idlePollCount = if flooded then 1 else 0

theorem counter_next {socket after : DemuxUdpSocket} {actions : List Action} {action : Action}
    (counter : CounterOf (afterFlood actions) socket) (taken : step socket action = some after)
    (wakes : ∀ inner slices, action = .poll inner slices → (pollRecv inner slices socket).Wakes) :
    CounterOf (afterFlood (actions ++ [action])) after := by
  rw [afterFlood_snoc]
  cases action with
  | recv =>
      obtain rfl := Option.some.inj taken
      exact counter
  | close =>
      obtain rfl := Option.some.inj taken
      exact counter
  | poll inner slices =>
      obtain rfl := Option.some.inj taken
      have effect := pollBatches_hasEffect maxDemuxBatchesPerPoll inner slices socket
      rw [← pollRecv, ← callKind] at effect
      have below := (wakes_iff inner slices socket).mp (wakes inner slices rfl)
      dsimp only
      cases kinds : callKind inner with
      | flood =>
          rw [kinds] at effect
          obtain ⟨left, outbox, ends⟩ := effect
          have idle : socket.idlePollCount < 1 := below kinds
          have under : ¬ maxIdlePollBeforeYield ≤ socket.idlePollCount := Nat.not_le.mpr idle
          rw [ends, exhausted, if_neg under]
          show socket.idlePollCount + 1 = 1
          omega
      | settled =>
          rw [kinds] at effect
          exact effect.1
      | failed =>
          rw [kinds] at effect
          exact effect.1.trans counter

/-- A run parks Quinn at no call exactly when no flood comes after a flood
without a call in between that found QUIC or nothing. -/
theorem neverParked_iff_spaced (capacity : Nat) :
    ∀ history final, Run step (.new capacity) history final →
      (NeverParked history ↔ Spaced (history.map Prod.snd)) := by
  intro history final run
  have both : (NeverParked history ↔ Spaced (history.map Prod.snd)) ∧
      (NeverParked history → CounterOf (afterFlood (history.map Prod.snd)) final) := by
    induction run with
    | start =>
        refine ⟨⟨fun _ => ?_, fun _ => nofun⟩, fun _ => rfl⟩
        intro earlier inner slices later shape
        cases earlier with
        | nil => cases shape
        | cons => cases shape
    | @next history socket after action before taken inductionHypothesis =>
        obtain ⟨equivalent, counter⟩ := inductionHypothesis
        rw [List.map_append, List.map_singleton, neverParked_snoc, spaced_snoc]
        constructor
        · -- the last calls agree because the counter is known
          constructor
          · rintro ⟨never, wakes⟩
            refine ⟨equivalent.mp never, fun inner slices same flood => ?_⟩
            have below := (wakes_iff inner slices socket).mp (wakes inner slices same) flood
            have known := counter never
            cases flooded : afterFlood (history.map Prod.snd) with
            | false => rfl
            | true =>
                rw [CounterOf, flooded] at known
                rw [known] at below
                exact absurd below (by decide)
          · rintro ⟨spaced, last⟩
            have never := equivalent.mpr spaced
            refine ⟨never, fun inner slices same => (wakes_iff inner slices socket).mpr ?_⟩
            intro flood
            have known := counter never
            rw [CounterOf, last inner slices same flood] at known
            rw [known]
            decide
        · rintro ⟨never, wakes⟩
          exact counter_next (counter never) taken wakes
  exact both.1

/-! ## Two floods in a row -/

/-- One datagram that is not QUIC. -/
def underlayBatch : Received := oneSlot [0x00, 0x01] 2 (Nat.le_succ 1)

def floodPoll : Action := .poll (fun _ => .received underlayBatch) ⟨#[], #[]⟩

theorem neverParked_iff_spaced_floods :
    NeverParked (trace step (.new 4096) [floodPoll, floodPoll]) ↔
      Spaced ((trace step (.new 4096) [floodPoll, floodPoll]).map Prod.snd) :=
  neverParked_iff_spaced 4096 _ _ (run_trace (show exec step (.new 4096) [floodPoll, floodPoll] =
    some (pollRecv (fun _ => .received underlayBatch) ⟨#[], #[]⟩
      (pollRecv (fun _ => .received underlayBatch) ⟨#[], #[]⟩ (.new 4096)).socket).socket from rfl))

theorem second_flood_parks :
    ∃ history final, Run step (.new 4096) history final ∧ ¬ NeverParked history := by
  have executed : exec step (.new 4096) [floodPoll, floodPoll] =
      some (pollRecv (fun _ => .received underlayBatch) ⟨#[], #[]⟩
        (pollRecv (fun _ => .received underlayBatch) ⟨#[], #[]⟩ (.new 4096)).socket).socket := rfl
  refine ⟨_, _, run_trace executed, fun never => ?_⟩
  have wakes := never (_, floodPoll) (List.mem_cons_of_mem _ List.mem_cons_self) _ _ rfl
  have below := (wakes_iff _ _ _).mp wakes rfl
  have effect := pollBatches_hasEffect maxDemuxBatchesPerPoll (fun _ => .received underlayBatch)
    ⟨#[], #[]⟩ (.new 4096)
  obtain ⟨left, outbox, ends⟩ := effect
  rw [pollRecv, ends] at below
  exact absurd below (Nat.lt_irrefl 1)

end Juicity.Server.UnderlaySocket
