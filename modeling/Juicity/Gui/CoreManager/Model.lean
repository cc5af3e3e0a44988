import Juicity.Gui.Link
import Juicity.Machine.Run

/-!
Owns `CoreManager` of `gui/src/core.rs`, `start_juicity`, `start_shadowsocks`,
`start_flow_stat_reader` and `retry_on_addr_in_use`, with the tasks on the
runtime and the threads that read flow statistics. How the parts of a start end
is a parameter; a task may end on its own at any time, and a reader may get a
report. A task is aborted and waited for in one step, and the two counters of a
report are stored, and read, together.
-/

namespace Juicity.Gui.CoreManager

open Juicity.Machine

/-- The error of a start, with its contexts in front. -/
abbrev ErrorChain := List String

/-- `io::Error` of a bind. -/
inductive BindError where
  | addrInUse
  | other (reason : String)
deriving DecidableEq

def bindRetryAttempts : Nat := 5

/-- `retry_on_addr_in_use` from some attempt on; `none` is the `expect` that is never
reached. -/
def retryFrom {α : Type} (op : Nat → Except BindError α) :
    Nat → Nat → Option BindError → Option (Except BindError α)
  | 0, _, lastErr => lastErr.map Except.error
  | remaining + 1, attempt, _ =>
      match op attempt with
      | .ok value => some (.ok value)
      | .error .addrInUse => retryFrom op remaining (attempt + 1) (some .addrInUse)
      | .error error => some (.error error)

def retryOnAddrInUse {α : Type} (attempts : Nat) (op : Nat → Except BindError α) :
    Option (Except BindError α) :=
  retryFrom op attempts 0 none

/-- How a task ends. -/
inductive TaskEnd where
  | completed
  | cancelled
  | panicked (message : String)
deriving DecidableEq

inductive Task where
  | live
  | ended (how : TaskEnd)
deriving DecidableEq

/-- `FlowCounters`, shared with the thread that reads the reports. -/
structure FlowCounters where
  totals : UInt64 × UInt64
  stop : Bool
deriving DecidableEq

/-- A proxy core running in-process; `task` and `flowStat` are indices. -/
structure RunningCore where
  protocol : ProxyProtocol
  task : Nat
  client : Bool
  flowStat : Option Nat
  lastTraffic : UInt64 × UInt64
deriving DecidableEq

/-- The manager, all tasks it ever spawned and all readers it ever started. -/
structure State where
  running : Option RunningCore
  tasks : List Task
  readers : List FlowCounters
deriving DecidableEq

def initial : State := ⟨none, [], []⟩

/-- How the parts of a start end: the runtime, the configuration, the client or the reader, and
each bind. -/
structure Start where
  runtime : Except ErrorChain Unit
  config : Except ErrorChain Unit
  front : Except ErrorChain Unit
  binds : Nat → Except BindError Unit
  listen : String

inductive Action where
  | start (protocol : ProxyProtocol) (start : Start)
  | stop
  | poll
  | traffic (reading : Option (UInt64 × UInt64))
  | ends (task : Nat) (how : TaskEnd)
  | report (reader : Nat) (totals : UInt64 × UInt64)

/-- `Debug` of the protocol. -/
def protocolName : ProxyProtocol → String
  | .juicity => "Juicity"
  | .shadowsocks => "Shadowsocks"

def bindMessage : BindError → String
  | .addrInUse => "Address already in use"
  | .other reason => reason

/-- The bind of either core, under its context. -/
def bindCore (start : Start) (context : String) : Except ErrorChain Unit :=
  match retryOnAddrInUse bindRetryAttempts start.binds with
  | some (.ok ()) => .ok ()
  | some (.error error) => .error [context, bindMessage error]
  | none => .error [context]

def setReader (readers : List FlowCounters) (index : Nat) (change : FlowCounters → FlowCounters) :
    List FlowCounters :=
  readers.modify index change

namespace State

/-- `stop_and_wait` -/
def stopAndWait (state : State) : State :=
  match state.running with
  | none => state
  | some core =>
      { running := none
        tasks := state.tasks.modify core.task fun task =>
          match task with
          | .live => .ended .cancelled
          | .ended how => .ended how
        readers :=
          match core.flowStat with
          | some reader => setReader state.readers reader fun counters => { counters with stop := true }
          | none => state.readers }

/-- `start_juicity` -/
def startJuicity (state : State) (start : Start) : State × Except ErrorChain RunningCore :=
  match start.config, start.front, bindCore start ("failed to listen on " ++ start.listen) with
  | .ok (), .ok (), .ok () =>
      ({ state with tasks := state.tasks ++ [.live] },
        .ok ⟨.juicity, state.tasks.length, true, none, (0, 0)⟩)
  | .error chain, _, _ => (state, .error chain)
  | .ok (), .error chain, _ => (state, .error chain)
  | .ok (), .ok (), .error chain => (state, .error chain)

/-- `start_shadowsocks`; a reader that was started is stopped when the server fails. -/
def startShadowsocks (state : State) (start : Start) : State × Except ErrorChain RunningCore :=
  match start.config, start.front with
  | .ok (), .ok () =>
      match bindCore start "failed to start the shadowsocks local server" with
      | .ok () =>
          ({ state with
              tasks := state.tasks ++ [.live]
              readers := state.readers ++ [⟨(0, 0), false⟩] },
            .ok ⟨.shadowsocks, state.tasks.length, false, some state.readers.length, (0, 0)⟩)
      | .error chain => ({ state with readers := state.readers ++ [⟨(0, 0), true⟩] }, .error chain)
  | .error chain, _ => (state, .error chain)
  | .ok (), .error chain => (state, .error chain)

/-- `start_profile` and what it returns. -/
def startProfile (state : State) (protocol : ProxyProtocol) (start : Start) :
    State × Except ErrorChain Unit :=
  let stopped := state.stopAndWait
  match start.runtime with
  | .error chain => (stopped, .error chain)
  | .ok () =>
      let started :=
        match protocol with
        | .juicity => stopped.startJuicity start
        | .shadowsocks => stopped.startShadowsocks start
      match started.2 with
      | .ok core => ({ started.1 with running := some core }, .ok ())
      | .error chain =>
          (started.1, .error (("failed to start " ++ protocolName protocol ++ " core") :: chain))

/-- What `poll` returns. -/
def pollResult (state : State) : Option String :=
  match state.running with
  | none => none
  | some core =>
      match state.tasks[core.task]? with
      | some (.ended (.panicked message)) =>
          some (protocolName core.protocol ++ " core failed: " ++ message)
      | some (.ended _) => some (protocolName core.protocol ++ " core exited")
      | some .live | none => none

/-- `poll` lets go of a core that has ended. -/
def afterPoll (state : State) : State :=
  if state.pollResult.isSome then { state with running := none } else state

/-- The reading of a core; `client` is what the statistics of the connection say. -/
def reading (state : State) (core : RunningCore) (client : Option (UInt64 × UInt64)) :
    Option (UInt64 × UInt64) :=
  if core.client then client
  else core.flowStat.bind fun reader => (state.readers[reader]?).map FlowCounters.totals

/-- What `traffic` returns. -/
def trafficResult (state : State) (client : Option (UInt64 × UInt64)) :
    Option (UInt64 × UInt64) :=
  state.running.map fun core => (state.reading core client).getD core.lastTraffic

def afterTraffic (state : State) (client : Option (UInt64 × UInt64)) : State :=
  { state with
    running := state.running.map fun core =>
      { core with lastTraffic := (state.reading core client).getD core.lastTraffic } }

end State

def step (state : State) : Action → Option State
  | .start protocol start => some (state.startProfile protocol start).1
  | .stop => some state.stopAndWait
  | .poll => some state.afterPoll
  | .traffic reading => some (state.afterTraffic reading)
  | .ends task how =>
      match state.tasks[task]? with
      | some .live => some { state with tasks := state.tasks.set task (.ended how) }
      | _ => none
  | .report reader totals =>
      match state.readers[reader]? with
      | some _ =>
          some { state with
            readers := setReader state.readers reader fun counters => { counters with totals } }
      | none => none

end Juicity.Gui.CoreManager
