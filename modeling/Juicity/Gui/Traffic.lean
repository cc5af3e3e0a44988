import Juicity.Common.Consts
import Juicity.Machine.Window
import Mathlib.Algebra.Ring.Rat
import Mathlib.Data.List.Infix

/-!
Owns the traffic monitor of `gui/src/traffic.rs`: cumulative readings become
pending bytes, a sample moves them into the totals, and a stop of the core or a
reset drops the baseline. Counters are `u64`; the speeds are of a type `Rate`,
and `rate` is the quotient the source takes in `f64`. What a stop drops is lost:
the totals are those of the history exactly when nothing is pending at a stop.
-/

namespace Juicity.Gui.Traffic

open Juicity.Common Juicity.Machine.Window

/-! ## The monitor -/

/-- `u64::saturating_add`. -/
def saturatingAdd (left right : UInt64) : UInt64 :=
  if left.toNat + right.toNat < UInt64.size then left + right else UInt64.ofNat (UInt64.size - 1)

/-- `u64::saturating_sub`. -/
def saturatingSub (left right : UInt64) : UInt64 := if right ≤ left then left - right else 0

/-- `HISTORY`. -/
def history : Nat := 60

/-- `SAMPLE_INTERVAL`. -/
def sampleInterval : Duration := Duration.fromMillis 1000

structure Speed (Rate : Type) where
  up : Rate
  down : Rate
deriving DecidableEq

/-- `Speed::default`. -/
def Speed.zero {Rate : Type} [Zero Rate] : Speed Rate := ⟨0, 0⟩

structure Data (Rate : Type) where
  samples : List (Speed Rate)
  totalUp : UInt64
  totalDown : UInt64
  previous : Option (UInt64 × UInt64)
  pending : UInt64 × UInt64
  lastSample : Option Instant
  current : Speed Rate
  active : Bool

structure TrafficMonitor (Rate : Type) where
  data : Data Rate
  version : UInt64

/-- `TrafficMonitor::new`. -/
def TrafficMonitor.new {Rate : Type} [Zero Rate] : TrafficMonitor Rate where
  data :=
    { samples := [], totalUp := 0, totalDown := 0, previous := none, pending := (0, 0),
      lastSample := none, current := Speed.zero, active := false }
  version := 0

def pushSample {Rate : Type} (data : Data Rate) (speed : Speed Rate) : Data Rate :=
  let kept := if data.samples.length = history then data.samples.tail else data.samples
  { data with samples := kept ++ [speed] }

section Monitor

variable {Rate : Type} [DecidableEq Rate] [Zero Rate] (rate : UInt64 → Duration → Rate)

/-- The branch of `record_at` for a core that does not run. -/
def stopped (monitor : TrafficMonitor Rate) : TrafficMonitor Rate :=
  let shown := monitor.data.previous.isSome ∨ monitor.data.current ≠ Speed.zero ∨
    monitor.data.active = true
  let data :=
    if shown then
      pushSample { monitor.data with current := Speed.zero, active := false } Speed.zero
    else monitor.data
  { data := { data with previous := none, pending := (0, 0), lastSample := none }
    version := if shown then monitor.version + 1 else monitor.version }

/-- The increase since the previous reading becomes pending. -/
def accumulate (data : Data Rate) (up down : UInt64) : Data Rate :=
  let pending :=
    match data.previous with
    | some (prevUp, prevDown) =>
        (data.pending.1 + saturatingSub up prevUp, data.pending.2 + saturatingSub down prevDown)
    | none => data.pending
  { data with pending, previous := some (up, down), active := true }

/-- A sample moves the pending bytes into the totals. -/
def flush (data : Data Rate) (since : Duration) (now : Instant) : Data Rate :=
  let speed := ⟨rate data.pending.1 since, rate data.pending.2 since⟩
  let data :=
    { data with
      totalUp := saturatingAdd data.totalUp data.pending.1
      totalDown := saturatingAdd data.totalDown data.pending.2
      pending := (0, 0), current := speed, lastSample := some now }
  pushSample data speed

/-- The branch of `record_at` for a reading of the running core. -/
def observed (monitor : TrafficMonitor Rate) (up down : UInt64) (now : Instant) :
    TrafficMonitor Rate :=
  let data := accumulate monitor.data up down
  match data.lastSample with
  -- The first reading after a start only establishes the baseline: no time has passed.
  | none => { monitor with data := { data with lastSample := some now } }
  | some last =>
      if sampleInterval ≤ now.durationSince last then
        { data := flush rate data (now.durationSince last) now, version := monitor.version + 1 }
      else { monitor with data }

def recordAt (monitor : TrafficMonitor Rate) (cumulative : Option (UInt64 × UInt64))
    (now : Instant) : TrafficMonitor Rate :=
  match cumulative with
  | none => stopped monitor
  | some (up, down) => observed rate monitor up down now

def reset (monitor : TrafficMonitor Rate) : TrafficMonitor Rate :=
  let changed := monitor.data.current ≠ Speed.zero
  { data :=
      { monitor.data with
        previous := none, pending := (0, 0), lastSample := none, current := Speed.zero
        active := false }
    version := if changed then monitor.version + 1 else monitor.version }

inductive Call where
  | record (cumulative : Option (UInt64 × UInt64)) (now : Instant)
  | reset

def apply (monitor : TrafficMonitor Rate) : Call → TrafficMonitor Rate
  | .record cumulative now => recordAt rate monitor cumulative now
  | .reset => reset monitor

/-- The monitor after the calls. -/
def run (calls : List Call) : TrafficMonitor Rate := calls.foldl (apply rate) .new

end Monitor

/-! ## The bytes of a history -/

inductive Direction where
  | up
  | down

def Direction.of (direction : Direction) (counts : UInt64 × UInt64) : UInt64 :=
  match direction with
  | .up => counts.1
  | .down => counts.2

def Data.total {Rate : Type} (data : Data Rate) (direction : Direction) : UInt64 :=
  direction.of (data.totalUp, data.totalDown)

/-- The reading of a call; without one the core run is over. -/
def Call.reading : Call → Option (UInt64 × UInt64)
  | .record cumulative _ => cumulative
  | .reset => none

section Accounting

variable {Rate : Type} [DecidableEq Rate] [Zero Rate] (rate : UInt64 → Duration → Rate)

variable {rate}

/-! ## One call -/

/-- The pending bytes with the increase to a reading. -/
def due (data : Data Rate) (direction : Direction) (counts : UInt64 × UInt64) : UInt64 :=
  direction.of (accumulate data counts.1 counts.2).pending

/-- The pending bytes that the stops of the calls drop. -/
def dropped (rate : UInt64 → Duration → Rate) (direction : Direction)
    (monitor : TrafficMonitor Rate) : List Call → Nat
  | [] => 0
  | call :: rest =>
      (if call.reading = none then (direction.of monitor.data.pending).toNat else 0) +
        dropped rate direction (apply rate monitor call) rest

/-- The bytes of one direction that the monitor holds. -/
def held (direction : Direction) (data : Data Rate) : Nat :=
  (data.total direction).toNat + (direction.of data.pending).toNat

theorem run_snoc (played : List Call) (call : Call) :
    run rate (played ++ [call]) = apply rate (run rate played) call :=
  List.foldl_concat _ _ _ _

end Accounting

/-! ## A stop between two samples -/

end Juicity.Gui.Traffic
