import Juicity.Common.CachedAddr
import Juicity.Machine.Run

/-!
Owns the server of `gui/src/pac.rs`: the thread of `start` with
`read_request_head`, and `update` and `shutdown` of `PacServer`, with the
browsers that connect. What browsers send, whether a read ends and how much of an
answer gets through is up to them; `accept` may fail, with or without a
connection lost.

A lock of the content is one step, and so are the flag of `shutdown` and its
connection. The lock is never poisoned, as nobody panics under it.
-/

namespace Juicity.Gui.PacServe

open Juicity.Common
open Juicity.Machine

/-! ## Requests and answers -/

def maxHeadLen : Nat := 8192
def bufLen : Nat := 512

/-- `slice::windows`. -/
def windows (size : Nat) (head : Bytes) : List Bytes :=
  (List.range (head.length + 1 - size)).map fun start => (head.drop start).take size

/-- A blank line, with a bare line feed or not. -/
def complete (head : Bytes) : Bool :=
  (windows 2 head).any (· == [10, 10]) || (windows 3 head).any (· == [10, 13, 10])

/-- The condition of the loop of `read_request_head`. -/
def wantsMore (head : Bytes) : Bool := decide (head.length < maxHeadLen) && !complete head

/-- `read_request_head` from some head on, given what the reads return: the head, and the reads
that were not made. An empty read is the end of the stream, an error or the timeout. -/
def readRequestHead (head : Bytes) : List Bytes → Bytes × List Bytes
  | [] => (head, [])
  | chunk :: later =>
      if wantsMore head then
        if chunk.isEmpty then (head, later) else readRequestHead (head ++ chunk) later
      else
        (head, chunk :: later)

/-- The lines of the head of an answer. -/
def headLines (pac : String) : List String :=
  ["HTTP/1.0 200 OK", "Content-Type: application/x-ns-proxy-autoconfig",
    "Content-Length: " ++ toString (utf8 pac).length, "Connection: close"]

/-- The answer that carries a content. -/
def response (pac : String) : String :=
  (headLines pac ++ [""]).foldr (fun line rest => line ++ "\r\n" ++ rest) pac

/-! ## The server -/

/-- A connection to the listener; `shutdown` makes one of its own. -/
inductive Conn where
  | browser (number : Nat)
  | wake
deriving DecidableEq

/-- Where the thread stands. -/
inductive Thread where
  | accepting
  | checking (accepted : Option Conn)
  | reading (conn : Conn) (head : Bytes)
  | answering (conn : Conn) (head : Bytes)
  | writing (conn : Conn) (pac : String)
  | ended
deriving DecidableEq

/-- Where the owner of the server stands: `shutdown` has stored the flag, waits for the thread,
has joined it, or has given up on it. -/
inductive Owner where
  | serving
  | stopping
  | joining
  | joined
  | detached
deriving DecidableEq

/-- A connection the server is done with, and what was written to it. -/
structure Handled where
  conn : Conn
  written : Bytes
deriving DecidableEq

structure State where
  content : String
  stop : Bool
  backlog : List Conn
  thread : Thread
  owner : Owner
  handled : List Handled
deriving DecidableEq

/-- `start`. -/
def initial (content : String) : State := ⟨content, false, [], .accepting, .serving, []⟩

inductive Action where
  | update (content : String)
  | connect (number : Nat)
  | accept
  | acceptFails (lost : Bool)
  | check
  | read (chunk : Bytes)
  | answer
  | write (count : Nat)
  | storeStop
  | wake (reached : Bool)
  | join

namespace State

/-- The thread goes back to the listener. -/
def done (state : State) (conn : Conn) (written : Bytes) : State :=
  { state with thread := .accepting, handled := state.handled ++ [⟨conn, written⟩] }

/-- The thread ends, and the listener is closed with all that waits there. -/
def finish (state : State) (accepted : Option Conn) : State :=
  { state with
    thread := .ended
    backlog := []
    handled := state.handled ++ (accepted.toList ++ state.backlog).map fun conn => ⟨conn, []⟩ }

/-- What follows a read. -/
def afterRead (state : State) (conn : Conn) (head chunk : Bytes) : State :=
  if chunk.isEmpty then { state with thread := .answering conn head }
  else if wantsMore (head ++ chunk) then { state with thread := .reading conn (head ++ chunk) }
  else { state with thread := .answering conn (head ++ chunk) }

end State

def step (state : State) : Action → Option State
  | .update content => some { state with content }
  | .connect number =>
      if state.thread = .ended then none
      else some { state with backlog := state.backlog ++ [.browser number] }
  | .accept =>
      match state.thread, state.backlog with
      | .accepting, conn :: rest =>
          some { state with thread := .checking (some conn), backlog := rest }
      | _, _ => none
  | .acceptFails lost =>
      match state.thread, lost, state.backlog with
      | .accepting, false, _ => some { state with thread := .checking none }
      | .accepting, true, conn :: rest =>
          some { state with
            thread := .checking none
            backlog := rest
            handled := state.handled ++ [⟨conn, []⟩] }
      | _, _, _ => none
  | .check =>
      match state.thread with
      | .checking accepted =>
          if state.stop then some (state.finish accepted)
          else
            match accepted with
            | none => some { state with thread := .accepting }
            | some conn => some { state with thread := .reading conn [] }
      | _ => none
  | .read chunk =>
      match state.thread with
      | .reading conn head =>
          if chunk.length ≤ bufLen then some (state.afterRead conn head chunk) else none
      | _ => none
  | .answer =>
      match state.thread with
      | .answering conn _ => some { state with thread := .writing conn state.content }
      | _ => none
  | .write count =>
      match state.thread with
      | .writing conn pac => some (state.done conn ((utf8 (response pac)).take count))
      | _ => none
  | .storeStop =>
      if state.owner = .serving then some { state with stop := true, owner := .stopping } else none
  | .wake reached =>
      if state.owner = .stopping then
        if reached then
          if state.thread = .ended then none
          else some { state with backlog := state.backlog ++ [.wake], owner := .joining }
        else
          some { state with owner := .detached }
      else
        none
  | .join =>
      if state.owner = .joining ∧ state.thread = .ended then some { state with owner := .joined }
      else none

end Juicity.Gui.PacServe
