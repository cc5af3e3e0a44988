import Juicity.Machine.Run
import Juicity.Machine.Tasks
import Juicity.Server.UdpRelay.Model

/-!
Contract: the names of datagrams. A name enters a stream when the stream reads
it and stays with its datagram until that is sent. Every address found for a
name, by parsing, in a cache or by a lookup, has the port of the name.
-/

namespace Juicity.Server.UdpRelay

open Juicity.Common
open Juicity.Machine

variable {setting : Setting}

/-- The name of the datagram a stream handles. -/
def Pc.name? : Pc → Option Name
  | .resolving name _ | .lookingUp name _ | .dialing name _ | .filling name _ => some name
  | _ => none

/-- The address the first datagram will be sent to. -/
def Pc.target? : Pc → Option SocketAddr
  | .dialing _ target | .filling _ target => some target
  | _ => none

/-- This action passes a datagram with this name on to be resolved or sent. -/
inductive Admits (setting : Setting) (state : State) : Action → Name → Prop where
  | first (id : Nat) {host : String} {port : UInt16} {rest : Bytes}
      (here : (state.streams id).pc = .opening)
      (read : Protocol.readTrojancAddr setting.text (state.streams id).input =
        .ok ((host, port), rest))
      (passes : setting.disableUdp443 = true → port ≠ 443) :
      Admits setting state (.run id) ⟨host, port⟩
  | later (id : Nat) {name : Name} {payload rest : Bytes}
      (here : (state.streams id).pc = .reading)
      (read : readDatagram setting.text (state.streams id).input = .ok ((name, payload), rest)) :
      Admits setting state (.run id) name

/-- Addresses have the ports of their names, and all names in use are good. -/
structure Kept (good : Name → Prop) (state : State) : Prop where
  cache : ∀ entry ∈ state.dnsCache.entries, entry.2.1.port = entry.1.port
  resolved : ∀ id name target, (state.streams id).localResolved.lookup name = some target →
    target.port = name.port
  pending : ∀ id name target, (state.streams id).pc.name? = some name →
    (state.streams id).pc.target? = some target → target.port = name.port
  names : ∀ id name, (state.streams id).pc.name? = some name → good name
  sends : ∀ sent ∈ state.sends, good sent.name ∧ sent.target.port = sent.name.port

section Preservation

variable {good : Name → Prop} {state : State} {id : Nat} {name : Name} {datagram : Datagram}
  {target : SocketAddr}

theorem kept_initial : Kept good initial where
  cache := by simp [initial, IndexMap.empty]
  resolved := by simp [initial]
  pending := by simp [initial, Pc.name?]
  names := by simp [initial, Pc.name?]
  sends := by simp [initial]

/-- One stream gets a new record. -/
theorem Kept.setStream (kept : Kept good state) {stream : Stream}
    (resolved : ∀ name target, stream.localResolved.lookup name = some target →
      target.port = name.port)
    (pending : ∀ name target, stream.pc.name? = some name → stream.pc.target? = some target →
      target.port = name.port)
    (names : ∀ name, stream.pc.name? = some name → good name) :
    Kept good (state.setStream id stream) := by
  have moves : Moves state.streams (state.setStream id stream).streams id stream := rfl
  constructor
  case cache => exact kept.cache
  case resolved =>
    exact moves.forall_tasks (motive := fun _ stream => ∀ name target,
      stream.localResolved.lookup name = some target → target.port = name.port) resolved
      fun other _ => kept.resolved other
  case pending =>
    exact moves.forall_tasks (motive := fun _ stream => ∀ name target,
      stream.pc.name? = some name → stream.pc.target? = some target → target.port = name.port)
      pending fun other _ => kept.pending other
  case names =>
    exact moves.forall_tasks (motive := fun _ stream => ∀ name,
      stream.pc.name? = some name → good name) names fun other _ => kept.names other
  case sends => exact kept.sends

/-- A stream moves to a place without a name. -/
theorem Kept.setPc (kept : Kept good state) {pc : Pc} (nameless : pc.name? = none) :
    Kept good (state.setPc id pc) :=
  kept.setStream (kept.resolved id) (by simp [nameless]) (by simp [nameless])

/-- A stream moves to a place with a good name and no address. -/
theorem Kept.setNamed (kept : Kept good state) {pc : Pc} (goodName : good name)
    (named : pc.name? = some name) (unresolved : pc.target? = none) :
    Kept good (state.setPc id pc) := by
  refine kept.setStream (kept.resolved id) (by simp [unresolved]) ?_
  intro other isName
  obtain rfl : name = other := Option.some.inj (named.symm.trans isName)
  exact goodName

/-- A stream moves to a place with a good name and an address with its port. -/
theorem Kept.setTarget (kept : Kept good state) {pc : Pc} (goodName : good name)
    (port : target.port = name.port) (named : pc.name? = some name)
    (resolved : pc.target? = some target) : Kept good (state.setPc id pc) := by
  refine kept.setStream (kept.resolved id) ?_ ?_
  · intro other otherTarget isName isTarget
    obtain rfl : name = other := Option.some.inj (named.symm.trans isName)
    obtain rfl : target = otherTarget := Option.some.inj (resolved.symm.trans isTarget)
    exact port
  · intro other isName
    obtain rfl : name = other := Option.some.inj (named.symm.trans isName)
    exact goodName

theorem Kept.fail (kept : Kept good state) {error : String} :
    Kept good (state.fail id datagram error) := by
  cases datagram with
  | first => exact kept.setPc rfl
  | later payload => exact kept.setPc rfl

/-- One datagram is sent. -/
theorem Kept.logged (kept : Kept good state) {payload : Bytes} (goodName : good name)
    (port : target.port = name.port) :
    Kept good { state with sends := state.sends ++ [⟨id, name, target, payload⟩] } := by
  refine ⟨kept.cache, kept.resolved, kept.pending, kept.names, ?_⟩
  intro sent member
  rcases List.mem_append.mp member with old | new
  · exact kept.sends sent old
  · rw [List.mem_singleton.mp new]
    exact ⟨goodName, port⟩

theorem Kept.sendLater (kept : Kept good state) {payload : Bytes} (goodName : good name)
    (port : target.port = name.port) : Kept good (state.sendLater id name target payload) := by
  have moved : Kept good (state.setPc id .sending) := kept.setPc rfl
  exact moved.logged goodName port

/-- `resolve_udp_target` returned an address with the port of the name. -/
theorem Kept.obtained (kept : Kept good state) (goodName : good name)
    (port : target.port = name.port) : Kept good (state.resolved id name datagram target) := by
  cases datagram with
  | first => exact kept.setTarget goodName port rfl rfl
  | later payload =>
      apply Kept.sendLater _ goodName port
      apply kept.setStream
      · intro other otherTarget found
        by_cases same : other = name
        · subst same
          rw [AList.lookup_insert] at found
          rw [← Option.some.inj found]
          exact port
        · rw [AList.lookup_insert_ne same] at found
          exact kept.resolved id other otherTarget found
      · exact kept.pending id
      · exact kept.names id

/-- The cache changes, and its entries keep their ports. -/
theorem Kept.setCache (kept : Kept good state) {cache : IndexMap Name (SocketAddr × Instant)}
    (ports : ∀ entry ∈ cache.entries, entry.2.1.port = entry.1.port) :
    Kept good { state with dnsCache := cache } :=
  ⟨ports, kept.resolved, kept.pending, kept.names, kept.sends⟩

theorem Kept.setResolving (kept : Kept good state) {resolving : Name → Bool} :
    Kept good { state with dnsResolving := resolving } :=
  ⟨kept.cache, kept.resolved, kept.pending, kept.names, kept.sends⟩

theorem Kept.remember (kept : Kept good state) (port : target.port = name.port) :
    Kept good (state.remember name target) := by
  apply kept.setCache
  intro entry member
  rcases IndexMap.mem_insert member with rfl | old
  · exact port
  · apply kept.cache
    split at old
    · split at old
      · exact IndexMap.mem_swapRemove old
      · exact old
    · exact old

theorem Kept.cachedPort (kept : Kept good state) (found : state.cached name = some target) :
    target.port = name.port := by
  unfold State.cached at found
  split at found
  · rename_i mapped timestamp held
    split at found
    · rw [← Option.some.inj found]
      exact kept.cache _ (IndexMap.mem_of_get held)
    · cases found
  · cases found

theorem Kept.resolve (kept : Kept good state) (goodName : good name) :
    Kept good (state.resolve setting id name datagram) := by
  unfold State.resolve
  split
  · exact kept.obtained goodName rfl
  · split
    · rename_i mapped found
      exact kept.obtained goodName (kept.cachedPort found)
    · have pruned : Kept good { state with dnsCache := state.dnsCache.swapRemove name } :=
        kept.setCache fun entry member => kept.cache entry (IndexMap.mem_swapRemove member)
      simp only
      split
      · exact pruned
      · apply Kept.setResolving
        exact pruned.setNamed goodName rfl rfl

theorem Kept.lookedUp (kept : Kept good state) (goodName : good name)
    {answer : Except String (List IpAddr)} :
    Kept good (state.lookedUp id name datagram answer) := by
  unfold State.lookedUp
  split
  · rename_i ip rest
    have remembered : Kept good (state.remember name ⟨ip, name.port⟩) := kept.remember rfl
    exact remembered.setResolving.obtained goodName rfl
  · exact kept.setResolving.fail
  · exact kept.setResolving.fail

theorem Kept.openFirst (kept : Kept good state) (here : (state.streams id).pc = .opening)
    (admitted : ∀ name, Admits setting state (.run id) name → good name) :
    Kept good (state.openFirst setting id) := by
  unfold State.openFirst
  split
  · rename_i host port rest read
    split
    · exact kept.setPc rfl
    · rename_i passes
      have goodName : good ⟨host, port⟩ := by
        apply admitted
        refine .first id here read ?_
        intro disabled blocked
        simp [disabled, blocked] at passes
      refine kept.setStream (kept.resolved id) (by simp [Pc.target?]) ?_
      intro other isName
      rw [← Option.some.inj isName]
      exact goodName
  · exact kept.setPc rfl

theorem Kept.fillFirst (kept : Kept good state)
    (here : (state.streams id).pc = .filling name target) :
    Kept good (state.fillFirst id name target) := by
  have goodName : good name := kept.names id name (by rw [here]; rfl)
  have port : target.port = name.port :=
    kept.pending id name target (by rw [here]; rfl) (by rw [here]; rfl)
  unfold State.fillFirst
  split
  · rename_i payload rest read
    have moved : Kept good (state.setStream id { state.streams id with
        input := rest
        pc := .sendingFirst }) :=
      kept.setStream (kept.resolved id) (by simp [Pc.name?]) (by simp [Pc.name?])
    exact moved.logged goodName port
  · exact kept.setPc rfl

theorem Kept.readLater (kept : Kept good state) (here : (state.streams id).pc = .reading)
    (admitted : ∀ name, Admits setting state (.run id) name → good name) :
    Kept good (state.readLater setting id) := by
  unfold State.readLater
  split
  · rename_i name payload rest read
    have goodName : good name := admitted name (.later id here read)
    have moved : Kept good (state.setStream id { state.streams id with input := rest }) :=
      kept.setStream (kept.resolved id) (kept.pending id) (kept.names id)
    simp only
    split
    · rename_i target found
      exact moved.sendLater goodName (moved.resolved id name target found)
    · exact moved.setNamed goodName rfl rfl
  · exact kept.setPc rfl

/-- Names that are good when they are read stay good until they are sent. -/
theorem Kept.preserved {after : State} {action : Action} (kept : Kept good state)
    (admitted : ∀ name, Admits setting state action name → good name)
    (taken : step setting state action = some after) : Kept good after := by
  cases action with
  | openStream id input =>
      simp only [step] at taken
      split at taken
      · obtain rfl := Option.some.inj taken
        exact kept.setStream (by simp) (by simp [Pc.name?]) (by simp [Pc.name?])
      · cases taken
  | run id =>
      simp only [step, State.advance] at taken
      split at taken
      · rename_i here
        obtain rfl := Option.some.inj taken
        exact kept.openFirst here admitted
      · rename_i name datagram here
        obtain rfl := Option.some.inj taken
        exact kept.resolve (kept.names id name (by rw [here]; rfl))
      · rename_i name target here
        obtain rfl := Option.some.inj taken
        exact kept.fillFirst here
      · rename_i here
        obtain rfl := Option.some.inj taken
        exact kept.readLater here admitted
      · cases taken
  | tick duration =>
      obtain rfl := Option.some.inj taken
      exact ⟨kept.cache, kept.resolved, kept.pending, kept.names, kept.sends⟩
  | timeout id =>
      simp only [step] at taken
      split at taken
      · obtain rfl := Option.some.inj taken
        exact kept.fail
      · cases taken
  | lookedUp id answer =>
      simp only [step] at taken
      split at taken
      · rename_i name datagram here
        obtain rfl := Option.some.inj taken
        exact kept.lookedUp (kept.names id name (by rw [here]; rfl))
      · cases taken
  | dialed id error =>
      simp only [step] at taken
      split at taken
      · rename_i name target here
        obtain rfl := Option.some.inj taken
        have goodName : good name := kept.names id name (by rw [here]; rfl)
        have port : target.port = name.port :=
          kept.pending id name target (by rw [here]; rfl) (by rw [here]; rfl)
        exact kept.setTarget goodName port rfl rfl
      · obtain rfl := Option.some.inj taken
        exact kept.setPc rfl
      · cases taken
  | sent id error =>
      simp only [step] at taken
      split at taken
      · obtain rfl := Option.some.inj taken
        exact kept.setPc rfl
      · obtain rfl := Option.some.inj taken
        exact kept.setPc rfl
      · obtain rfl := Option.some.inj taken
        exact kept.setPc rfl
      · obtain rfl := Option.some.inj taken
        exact kept.setPc rfl
      · cases taken
  | abort id =>
      simp only [step] at taken
      split at taken
      · cases taken
      · cases taken
      · obtain rfl := Option.some.inj taken
        exact kept.setResolving.setPc rfl
      · obtain rfl := Option.some.inj taken
        exact kept.setPc rfl

end Preservation

end Juicity.Server.UdpRelay
