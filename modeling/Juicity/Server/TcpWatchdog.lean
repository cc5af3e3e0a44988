import Juicity.Server.TcpRelay

/-!
Owns the timing of the idle timer of `server/src/tcp.rs`, over the runs of
`TcpRelay` in which a sleep ends at its deadline: no time passes a deadline
before the timer is polled there. The times of progress are read off the history
of a run and not off its state.

Contract: the timer ends the relay when nothing has moved for the idle timeout,
and then within the millisecond that the stamp rounds up to.
-/

namespace Juicity.Server.TcpRelay

open Juicity.Machine
open Juicity.Common

/-- The instant the timer sleeps until; before it is polled first, the one it will choose. -/
def State.deadline (state : State) (idleTimeout : Duration) : Instant :=
  Duration.fromMillis (state.last.getD state.activity) + idleTimeout

/-- A sleep is exact: time does not pass the deadline. -/
def SleepExact (idleTimeout : Duration) (state : State) : Action → Prop
  | .tick elapsed => state.now + elapsed ≤ state.deadline idleTimeout
  | .io _ _ | .idle => True

instance instDecidableSleepExact (idleTimeout : Duration) (state : State) :
    (action : Action) → Decidable (SleepExact idleTimeout state action)
  | .tick elapsed => inferInstanceAs (Decidable (state.now + elapsed ≤ state.deadline idleTimeout))
  | .io _ _ => isTrue trivial
  | .idle => isTrue trivial

/-- When a step makes progress. -/
def progressTime : State × Action → Option Instant
  | (state, .io _ io) => if io.progresses then some state.now else none
  | (_, .tick _) | (_, .idle) => none

/-- The times of progress, oldest first. -/
def progressTimes (history : List (State × Action)) : List Instant :=
  history.filterMap progressTime

/-- The last progress, or `base`. -/
def lastProgress (history : List (State × Action)) : Instant :=
  (progressTimes history).getLastD 0

/-- The stamp is the last progress, rounded up, and the timer has not overslept. -/
structure Watched (idleTimeout : Duration) (state : State) : Prop where
  stamp : state.activity = Duration.asMillis state.progressed + 1
  past : state.progressed ≤ state.now
  slept : ∀ last, state.last = some last → last ≤ state.activity
  awake : state.now ≤ state.deadline idleTimeout
  fired : state.result = some (.error .timedOut) →
    (∃ side, (state.copies side).pc = .returned (.error .timedOut)) ∨
      Duration.fromMillis state.activity + idleTimeout ≤ state.now

section Watched

variable {idleTimeout : Duration} {state after : State} {action : Action}

theorem asMillis_mono {earlier later : Instant} (ordered : earlier ≤ later) :
    Duration.asMillis earlier ≤ Duration.asMillis later :=
  Nat.div_le_div_right ordered

theorem fromMillis_mono {earlier later : Nat} (ordered : earlier ≤ later) :
    Duration.fromMillis earlier ≤ Duration.fromMillis later :=
  Nat.mul_le_mul_right _ ordered

/-- The stamp lies at most one millisecond ahead. -/
theorem fromMillis_asMillis_succ_le (now : Instant) :
    Duration.fromMillis (Duration.asMillis now + 1) ≤ now + Duration.fromMillis 1 := by
  have rounded : ∀ now : Nat, (now / 1000000 + 1) * 1000000 ≤ now + 1 * 1000000 := by omega
  exact rounded now

theorem watched_initial : Watched idleTimeout initial where
  stamp := rfl
  past := Nat.le_refl 0
  slept := by intro last here; cases here
  awake := Nat.zero_le _
  fired := by intro here; cases here

theorem Watched.le_activity (watched : Watched idleTimeout state) :
    state.last.getD state.activity ≤ state.activity := by
  cases asleep : state.last with
  | none => exact Nat.le_refl _
  | some last => exact watched.slept last asleep

/-- The deadline is at most the timeout after the stamp. -/
theorem Watched.now_le (watched : Watched idleTimeout state) :
    state.now ≤ Duration.fromMillis state.activity + idleTimeout := by
  refine Nat.le_trans watched.awake (Nat.add_le_add_right ?_ idleTimeout)
  exact fromMillis_mono watched.le_activity

theorem Watched.tick (watched : Watched idleTimeout state) (elapsed : Duration)
    (running : state.result = none) (exact : SleepExact idleTimeout state (.tick elapsed)) :
    Watched idleTimeout { state with now := state.now + elapsed } where
  stamp := watched.stamp
  past := Nat.le_trans watched.past (Nat.le_add_right _ _)
  slept := watched.slept
  awake := exact
  fired := by
    intro here
    rw [show state.result = _ from here] at running
    cases running

/-- Progress moves the stamp forward. -/
theorem Watched.stamped (watched : Watched idleTimeout state) (io : Io) :
    (state.stamp io).activity = Duration.asMillis (state.stamp io).progressed + 1 ∧
      (state.stamp io).progressed ≤ state.now ∧
      state.activity ≤ (state.stamp io).activity := by
  unfold State.stamp
  split
  · refine ⟨rfl, Nat.le_refl _, ?_⟩
    rw [watched.stamp]
    exact Nat.succ_le_succ (asMillis_mono watched.past)
  · exact ⟨watched.stamp, watched.past, Nat.le_refl _⟩

theorem stamp_now (state : State) (io : Io) : (state.stamp io).now = state.now := by
  unfold State.stamp
  split
  · rfl
  · rfl

theorem stamp_last (state : State) (io : Io) : (state.stamp io).last = state.last := by
  unfold State.stamp
  split
  · rfl
  · rfl

theorem Watched.moved (watched : Watched idleTimeout state) (io : Io) (side : Side) (copy : Copy) :
    Watched idleTimeout ((state.stamp io).moved side copy) := by
  obtain ⟨stamp, past, later⟩ := watched.stamped io
  have sleeping : ((state.stamp io).moved side copy).last = state.last := stamp_last state io
  have time : ((state.stamp io).moved side copy).now = state.now := stamp_now state io
  refine ⟨stamp, ?_, ?_, ?_, ?_⟩
  · rw [time]
    exact past
  · intro last asleep
    rw [sleeping] at asleep
    exact Nat.le_trans (watched.slept last asleep) later
  · rw [time]
    refine Nat.le_trans watched.awake (Nat.add_le_add_right (fromMillis_mono ?_) idleTimeout)
    rw [sleeping]
    cases state.last with
    | none => exact later
    | some last => exact Nat.le_refl _
  · intro failed
    exact .inl (joined_error failed)

theorem Watched.pollIdle (watched : Watched idleTimeout state) :
    Watched idleTimeout (state.pollIdle idleTimeout) := by
  have resting : Watched idleTimeout { state with last := some state.activity } := by
    refine ⟨watched.stamp, watched.past, ?_, watched.now_le, watched.fired⟩
    intro last asleep
    exact Nat.le_of_eq (Option.some.inj asleep).symm
  unfold State.pollIdle
  split
  · exact resting
  · rename_i last asleep
    split
    · rename_i expired
      split
      · rename_i quiet
        refine ⟨watched.stamp, watched.past, watched.slept, watched.awake, fun _ => .inr ?_⟩
        rw [← quiet] at expired
        exact expired
      · exact resting
    · exact watched

theorem Watched.preserved (watched : Watched idleTimeout state)
    (exact : SleepExact idleTimeout state action)
    (taken : step idleTimeout state action = some after) : Watched idleTimeout after := by
  cases running : state.result with
  | some result =>
      simp only [step, running] at taken
      cases taken
  | none =>
      simp only [step, running] at taken
      cases action with
      | tick elapsed =>
          obtain rfl := Option.some.inj taken
          rw [← running]
          exact watched.tick elapsed running exact
      | idle =>
          obtain rfl := Option.some.inj taken
          exact watched.pollIdle
      | io side io =>
          obtain ⟨copy, moves, rfl⟩ := Option.map_eq_some_iff.mp taken
          exact watched.moved io side copy

theorem progressTime_now {now : Instant} (moved : progressTime (state, action) = some now) :
    now = state.now := by
  cases action with
  | tick elapsed => cases moved
  | idle => cases moved
  | io side io =>
      obtain ⟨_, here⟩ := Option.ite_none_right_eq_some.mp moved
      exact (Option.some.inj here).symm

/-- The stamped progress is the last one in the history. -/
theorem progressed_of_step (taken : step idleTimeout state action = some after) :
    after.progressed = (progressTime (state, action)).getD state.progressed := by
  cases running : state.result with
  | some result =>
      simp only [step, running] at taken
      cases taken
  | none =>
      simp only [step, running] at taken
      cases action with
      | tick elapsed =>
          obtain rfl := Option.some.inj taken
          rfl
      | idle =>
          obtain rfl := Option.some.inj taken
          simp only [State.pollIdle, progressTime, Option.getD_none]
          split
          · rfl
          · split
            · split
              · rfl
              · rfl
            · rfl
      | io side io =>
          obtain ⟨copy, moves, rfl⟩ := Option.map_eq_some_iff.mp taken
          show (state.stamp io).progressed = _
          simp only [State.stamp, progressTime]
          split
          · rfl
          · rfl

end Watched

theorem progressTimes_snoc (history : List (State × Action)) (entry : State × Action) :
    progressTimes (history ++ [entry]) = progressTimes history ++ (progressTime entry).toList := by
  rw [progressTimes, List.filterMap_append]
  cases moved : progressTime entry with
  | none => rw [List.filterMap_cons_none moved]; rfl
  | some time => rw [List.filterMap_cons_some moved]; rfl

theorem lastProgress_snoc (history : List (State × Action)) (entry : State × Action) :
    lastProgress (history ++ [entry]) = (progressTime entry).getD (lastProgress history) := by
  unfold lastProgress
  rw [progressTimes_snoc]
  cases progressTime entry with
  | none => rw [Option.toList_none, List.append_nil]; rfl
  | some time => rw [Option.toList_some, List.getLastD_concat]; rfl

/-- `progressed` is the last time of progress. -/
theorem progressed_eq {idleTimeout : Duration} {history : List (State × Action)} {final : State}
    (run : Run (step idleTimeout) initial history final) :
    final.progressed = lastProgress history := by
  induction run with
  | start => rfl
  | next before taken inductionHypothesis =>
      rw [lastProgress_snoc, progressed_of_step taken, inductionHypothesis]

/-- Progress is never made after the last progress. -/
theorem le_progressed {idleTimeout : Duration} {history : List (State × Action)} {final : State}
    (run : Run (step idleTimeout) initial history final)
    (exact : Allowed (SleepExact idleTimeout) history) :
    ∀ time ∈ progressTimes history, time ≤ final.progressed := by
  induction run with
  | start => intro time member; cases member
  | @next history state after action before taken inductionHypothesis =>
      obtain ⟨earlier, _⟩ := allowed_snoc.mp exact
      have watched : Watched idleTimeout state :=
        (before.invariant_of_allowed watched_initial
          (fun _ _ _ watched exact taken => watched.preserved exact taken) earlier).2
      intro time member
      rw [progressTimes_snoc] at member
      rw [progressed_of_step taken]
      cases moved : progressTime (state, action) with
      | none =>
          rw [moved, Option.toList_none, List.append_nil] at member
          exact inductionHypothesis earlier time member
      | some now =>
          rw [moved] at member
          rcases List.mem_append.mp member with old | new
          · rw [Option.getD_some, progressTime_now moved]
            exact Nat.le_trans (inductionHypothesis earlier time old) watched.past
          · rw [List.mem_singleton.mp new]
            exact Nat.le_refl _

/-- In every run with exact sleeps, whatever the idle timeout and whenever either direction
moves: no state is later than one millisecond after the last progress plus the timeout, and
when the relay ends with `TimedOut`, unless a stream itself failed so, nothing has moved in
the timeout before. -/
theorem idle_exact {idleTimeout : Duration} {history : List (State × Action)} {final : State}
    (run : Run (step idleTimeout) initial history final)
    (exact : Allowed (SleepExact idleTimeout) history) :
    final.now ≤ lastProgress history + idleTimeout + Duration.fromMillis 1 ∧
      (final.result = some (.error .timedOut) →
        (∃ side, (final.copies side).pc = .returned (.error .timedOut)) ∨
          ∀ time ∈ progressTimes history,
            ¬ (final.now ≤ time + idleTimeout ∧ time < final.now)) := by
  have watched : Watched idleTimeout final :=
    (run.invariant_of_allowed watched_initial
      (fun _ _ _ watched exact taken => watched.preserved exact taken) exact).2
  have rounded : Duration.fromMillis final.activity ≤ final.progressed + Duration.fromMillis 1 := by
    rw [watched.stamp]
    exact fromMillis_asMillis_succ_le final.progressed
  have ahead : final.progressed < Duration.fromMillis final.activity := by
    rw [watched.stamp]
    exact lt_fromMillis final.progressed
  constructor
  · calc
      final.now ≤ Duration.fromMillis final.activity + idleTimeout := watched.now_le
      _ ≤ final.progressed + Duration.fromMillis 1 + idleTimeout :=
        Nat.add_le_add_right rounded idleTimeout
      _ = lastProgress history + idleTimeout + Duration.fromMillis 1 := by
        rw [progressed_eq run, Nat.add_right_comm]
  · intro ended
    refine (watched.fired ended).imp id fun expired time member within => ?_
    have before : time < Duration.fromMillis final.activity :=
      Nat.lt_of_le_of_lt (le_progressed run exact time member) ahead
    have late : time + idleTimeout < final.now :=
      Nat.lt_of_lt_of_le (Nat.add_lt_add_right before idleTimeout) expired
    exact absurd within.1 (Nat.not_le_of_gt late)

/-- One chunk is passed on after 40.3 ms, and then nothing moves: the timer looks at 101 ms,
and ends the relay at 141 ms. -/
def idleSchedule : List Action :=
  [.idle, .tick 40300000, .io .toRemote (.read [7]), .io .toRemote (.write 1), .tick 60700000,
    .idle, .tick 40000000, .idle]

theorem idle_exact_single :
    ∃ history final, Run (step (Duration.fromMillis 100)) initial history final ∧
      final.result = some (.error .timedOut) ∧ final.now = 141000000 ∧
      progressTimes history = [40300000, 40300000] ∧
      final.now ≤ lastProgress history + Duration.fromMillis 100 + Duration.fromMillis 1 := by
  have executed : (exec (step (Duration.fromMillis 100)) initial idleSchedule).any
      (fun final => final.result == some (.error .timedOut) && final.now == 141000000) = true := by
    decide +kernel
  obtain ⟨final, ended, facts⟩ := (Option.any_eq_true _ _).mp executed
  simp only [Bool.and_eq_true, beq_iff_eq] at facts
  have run := run_trace ended
  have times : progressTimes (trace (step (Duration.fromMillis 100)) initial idleSchedule) =
      [40300000, 40300000] := by
    decide +kernel
  have slept : ((trace (step (Duration.fromMillis 100)) initial idleSchedule).all fun entry =>
      decide (SleepExact (Duration.fromMillis 100) entry.1 entry.2)) = true := by
    decide +kernel
  have exact : Allowed (SleepExact (Duration.fromMillis 100))
      (trace (step (Duration.fromMillis 100)) initial idleSchedule) :=
    fun entry member => of_decide_eq_true (List.all_eq_true.mp slept entry member)
  exact ⟨_, final, run, facts.1, facts.2, times, (idle_exact run exact).1⟩

end Juicity.Server.TcpRelay
