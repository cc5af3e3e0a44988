import Juicity.Common.Consts
import Juicity.Common.Crypto
import Juicity.Common.Protocol
import Juicity.Machine.Run
import Juicity.Server.Udp

/-!
Owns the model of the underlay half of `server/src/server.rs`: the session
cache with its eviction listener, `run_underlay_packet_loop`,
`handle_non_quic_underlay_packet`, the relay-back tasks with their
`SessionGuard`, and their interleavings. A packet is a task: first an iteration
of the loop, then possibly a spawned handler. The caches may drop entries at any
time; the listener runs later, in two steps. `get_or_create` is seen from
outside: a call finds an endpoint, creates one while nobody else creates for the
address, or tries again.
-/

namespace Juicity.Server.Underlay

open Juicity.Common
open Juicity.Machine

/-- A cipher with, as ghosts, the auth and the packet it was derived from. -/
structure SessionKey (crypto : Crypto) where
  cipher : UnderlayCipher
  auth : UnderlayAuth
  first : Bytes
  long : JuicityUnderlay.saltLen ≤ first.length
  derived : JuicityUnderlay.deriveSubkey crypto auth.psk (JuicityUnderlay.saltOf first long) =
    .ok cipher.subkey

/-- The salt of the packet the key was derived from. -/
def SessionKey.salt {crypto : Crypto} (key : SessionKey crypto) : Salt :=
  JuicityUnderlay.saltOf key.first key.long

/-- `derive_subkey` and `from_subkey` for a first packet. -/
def SessionKey.ofFirst (crypto : Crypto) (auth : UnderlayAuth) (first : Bytes)
    (long : JuicityUnderlay.saltLen ≤ first.length) : Except String (SessionKey crypto) :=
  match derived : JuicityUnderlay.deriveSubkey crypto auth.psk
      (JuicityUnderlay.saltOf first long) with
  | .ok subkey => .ok ⟨.fromSubkey subkey, auth, first, long, derived⟩
  | .error error => .error error

theorem SessionKey.auth_of_ofFirst {crypto : Crypto} {auth : UnderlayAuth} {first : Bytes}
    {long : JuicityUnderlay.saltLen ≤ first.length} {key : SessionKey crypto}
    (made : SessionKey.ofFirst crypto auth first long = .ok key) : key.auth = auth := by
  unfold SessionKey.ofFirst at made
  split at made
  · rw [← Except.ok.inj made]
  · cases made

/-- A cached session, made for the target of the auth of its key; `relayAbort`
names a relay-back task. -/
structure UnderlaySession (crypto : Crypto) where
  target : String
  key : SessionKey crypto
  relayAbort : Option Nat
  named : target = key.auth.metadata.targetAddr

/-- Where a relay-back task stands. Up to `replying` it owns its `SessionGuard`. -/
inductive RelayPc where
  | starting
  | receiving
  | refilling (datagram : Bytes)
  | replying
  | removing
  | ended
deriving DecidableEq

/-- A relay-back task. The ghost `relayed` lists the datagrams it sealed and
`sealed` the key, nonce and plaintext of each encryption. -/
structure Relay (crypto : Crypto) where
  source : SocketAddr
  socket : Nat
  key : SessionKey crypto
  saltPool : List Salt
  aborted : Bool
  pc : RelayPc
  relayed : List Bytes
  sealed : List (Key × Nonce × Bytes)

/-- The task after sealing a datagram under the last salt of its pool. -/
def Relay.sealing {crypto : Crypto} (relay : Relay crypto) (datagram : Bytes) : Relay crypto :=
  { relay with
    saltPool := relay.saltPool.dropLast
    pc := .replying
    relayed := relay.relayed ++ [datagram]
    sealed := relay.sealed ++ [(relay.key.cipher.subkey, JuicityUnderlay.zeroNonce, datagram)] }

/-- What a call of `get_or_create` is for. -/
inductive Purpose (crypto : Crypto) where
  | recover (session : UnderlaySession crypto)
  | establish (key : SessionKey crypto)

def Purpose.key {crypto : Crypto} : Purpose crypto → SessionKey crypto
  | .recover session => session.key
  | .establish key => key

def Purpose.dialTarget {crypto : Crypto} : Purpose crypto → String
  | .recover session => session.target
  | .establish key => key.auth.metadata.targetAddr

theorem Purpose.dialTarget_eq {crypto : Crypto} (purpose : Purpose crypto) :
    purpose.dialTarget = purpose.key.auth.metadata.targetAddr := by
  cases purpose with
  | recover session => exact session.named
  | establish key => rfl

/-- How a handler fails. -/
inductive HandlerError where
  | sendFailed (target : SocketAddr) (error : String)
  | endpoint (error : String)
  | panicked
deriving DecidableEq

/-- Where a packet stands: the loop up to `dispatching`, then the handler. -/
inductive Pc (crypto : Crypto) where
  | idle
  | arrived
  | fast (session : UnderlaySession crypto)
  | fastSending
  | fastFailed
  | dispatching
  | handling
  | existing (session : UnderlaySession crypto) (plaintext : Bytes)
  | evicting
  | pooling (purpose : Purpose crypto) (plaintext : Bytes)
  | claiming (purpose : Purpose crypto) (plaintext : Bytes)
  | rechecking (purpose : Purpose crypto) (plaintext : Bytes)
  | creating (purpose : Purpose crypto) (plaintext : Bytes)
  | spawning (key : SessionKey crypto) (endpoint : PooledUdpEndpoint) (isNew : Bool)
      (plaintext : Bytes)
  | inserting (key : SessionKey crypto) (endpoint : PooledUdpEndpoint) (relayAbort : Option Nat)
      (plaintext : Bytes)
  | sending (key : SessionKey crypto) (endpoint : PooledUdpEndpoint) (plaintext : Bytes)
  | awaiting (target : SocketAddr)
  | removing (error : HandlerError)
  | aborting (error : HandlerError)
  | invalidating (error : HandlerError)
  | finished (error : Option HandlerError)

structure Task (crypto : Crypto) where
  source : SocketAddr
  payload : Bytes
  pc : Pc crypto

/-- A call of `send_to_addr`, with the key its payload was opened with, or the
key, salt and datagram it was sealed from. -/
inductive Send (crypto : Crypto) where
  | outbound (key : SessionKey crypto) (target : SocketAddr) (payload : Bytes)
  | reply (key : SessionKey crypto) (salt : Salt) (datagram : Bytes) (source : SocketAddr)
      (packet : Bytes)

/-- The first argument of `send_to_addr` that names a peer. -/
def Send.target {crypto : Crypto} : Send crypto → SocketAddr
  | .outbound _ target _ => target
  | .reply _ _ _ source _ => source

structure State (crypto : Crypto) where
  sessions : SocketAddr → Option (UnderlaySession crypto)
  pool : SocketAddr → Option UdpEndpoint
  creating : SocketAddr → Bool
  evicted : List (SocketAddr × Option Nat)
  removals : List SocketAddr
  relays : List (Relay crypto)
  tasks : Nat → Task crypto
  sends : List (Send crypto)
  freshSocket : Nat

def initial (crypto : Crypto) : State crypto where
  sessions := fun _ => none
  pool := fun _ => none
  creating := fun _ => false
  evicted := []
  removals := []
  relays := []
  tasks := fun _ => ⟨⟨.v4 (.replicate 4 0), 0⟩, [], .idle⟩
  sends := []
  freshSocket := 0

/-- The server's configuration, and which addresses the resolver can return for
a dial target. -/
structure Setting where
  disableUdp443 : Bool
  resolves : String → SocketAddr → Bool

/-- The resolver can give this answer for the name. -/
def Setting.answers (setting : Setting) (name : String) :
    Except String (List SocketAddr) → Bool
  | .ok addrs => addrs.all (setting.resolves name)
  | .error _ => true

/-- Bytes of a datagram the relay buffer holds. -/
def relayBuffer : Nat := Consts.ethernetMtu * 4

def saltBatchSize : Nat := 64

/-- `generate_salt_batch` from its random bytes: two zero bytes, then 30 random
ones, for each salt. -/
def generateSaltBatch (random : Octets (saltBatchSize * 30)) : List Salt :=
  (List.finRange saltBatchSize).map fun index =>
    ⟨[0, 0] ++ (random.val.drop (index.val * 30)).take 30, by
      have bound := index.isLt
      have whole := random.property
      simp only [saltBatchSize] at bound whole
      simp only [List.length_append, List.length_take, List.length_drop, List.length_cons,
        List.length_nil, whole]
      omega⟩

namespace State

variable {crypto : Crypto}

/-! ## Caches -/

def setPc (state : State crypto) (task : Nat) (pc : Pc crypto) : State crypto :=
  { state with tasks := Function.update state.tasks task { state.tasks task with pc := pc } }

def sourceOf (state : State crypto) (task : Nat) : SocketAddr := (state.tasks task).source

/-- The old value of a session, if there is one, goes to the eviction listener. -/
def evictedWith (state : State crypto) (source : SocketAddr) : List (SocketAddr × Option Nat) :=
  match state.sessions source with
  | some session => state.evicted ++ [(source, session.relayAbort)]
  | none => state.evicted

/-- `sessions.invalidate`, and any other eviction. -/
def invalidate (state : State crypto) (source : SocketAddr) : State crypto :=
  { state with
    sessions := Function.update state.sessions source none
    evicted := state.evictedWith source }

/-- `sessions.insert`. -/
def insertSession (state : State crypto) (source : SocketAddr) (session : UnderlaySession crypto) :
    State crypto :=
  { state with
    sessions := Function.update state.sessions source (some session)
    evicted := state.evictedWith source }

/-- `udp_pool.remove`, and any other eviction. -/
def removeEndpoint (state : State crypto) (source : SocketAddr) : State crypto :=
  { state with pool := Function.update state.pool source none }

/-- `udp_pool.get_socket`. -/
def getSocket (state : State crypto) (source : SocketAddr) : Option PooledUdpEndpoint :=
  (state.pool source).map .fromEndpoint

/-- `AbortHandle::abort`. -/
def abort (state : State crypto) (relay : Option Nat) : State crypto :=
  match relay with
  | some id => { state with relays := state.relays.modify id fun relay =>
      { relay with aborted := true } }
  | none => state

/-! ## The packet loop and the handler -/

/-- The iteration of the loop starts: length check and session lookup. -/
def receive (state : State crypto) (task : Nat) : State crypto :=
  if (state.tasks task).payload.length < Consts.underlaySaltLen then
    state.setPc task (.finished none)
  else
    match state.sessions (state.sourceOf task) with
    | some session => state.setPc task (.fast session)
    | none => state.setPc task .dispatching

/-- The inline path of the loop: pool lookup, decryption, `send_to_addr`. -/
def fastPath (state : State crypto) (task : Nat) (session : UnderlaySession crypto) :
    State crypto :=
  match state.getSocket (state.sourceOf task) with
  | some endpoint =>
      match session.key.cipher.decryptInPlace crypto (state.tasks task).payload with
      | .ok opened =>
          { state.setPc task .fastSending with
            sends := state.sends ++ [.outbound session.key endpoint.target
              (opened.drop JuicityUnderlay.saltLen)] }
      | .error _ => state.setPc task (.finished none)
  | none => state.setPc task .dispatching

/-- The handler looks the session up again and opens the packet with its cipher. -/
def handle (state : State crypto) (task : Nat) : State crypto :=
  match state.sessions (state.sourceOf task) with
  | some session =>
      match session.key.cipher.decryptInPlace crypto (state.tasks task).payload with
      | .ok opened => state.setPc task (.existing session (opened.drop JuicityUnderlay.saltLen))
      | .error _ => state.setPc task (.finished none)
  | none => state.setPc task .evicting

/-- `evict` returned. The callback derived the subkey of the packet's salt and
opened the packet; the port filter comes next. -/
def authorise (setting : Setting) (state : State crypto) (task : Nat) (auth : UnderlayAuth) :
    Option (State crypto) :=
  let payload := (state.tasks task).payload
  if long : JuicityUnderlay.saltLen ≤ payload.length then
    if auth.iv = JuicityUnderlay.saltOf payload long then
      match SessionKey.ofFirst crypto auth payload long with
      | .ok key =>
          match key.cipher.decryptInPlace crypto payload with
          | .ok opened =>
              if setting.disableUdp443 && auth.metadata.port == 443 then
                some (state.setPc task (.finished none))
              else
                some (state.setPc task
                  (.pooling (.establish key) (opened.drop JuicityUnderlay.saltLen)))
          | .error _ => some (state.setPc task (.finished none))
      | .error _ => some (state.setPc task (.finished (some .panicked)))
    else
      none
  else
    none

/-- `get_or_create` returned an endpoint. -/
def obtained (state : State crypto) (task : Nat) (purpose : Purpose crypto)
    (endpoint : PooledUdpEndpoint) (isNew : Bool) (plaintext : Bytes) : State crypto :=
  match purpose with
  | .recover session => state.setPc task (.sending session.key endpoint plaintext)
  | .establish key => state.setPc task (.spawning key endpoint isNew plaintext)

/-- A new endpoint gets a relay-back task, which owns a `SessionGuard`. -/
def spawnRelay (state : State crypto) (task : Nat) (key : SessionKey crypto)
    (endpoint : PooledUdpEndpoint) (isNew : Bool) (plaintext : Bytes) : State crypto :=
  if isNew then
    let relay : Relay crypto :=
      ⟨state.sourceOf task, endpoint.socket, key, [], false, .starting, [], []⟩
    { state.setPc task (.inserting key endpoint (some state.relays.length) plaintext) with
      relays := state.relays ++ [relay] }
  else
    state.setPc task (.inserting key endpoint none plaintext)

/-- The session goes into the cache. -/
def establish (state : State crypto) (task : Nat) (key : SessionKey crypto)
    (endpoint : PooledUdpEndpoint) (relayAbort : Option Nat) (plaintext : Bytes) : State crypto :=
  (state.setPc task (.sending key endpoint plaintext)).insertSession (state.sourceOf task)
    ⟨key.auth.metadata.targetAddr, key, relayAbort, rfl⟩

/-- The next piece of code of a packet, when it can run. -/
def advance (state : State crypto) (task : Nat) : Option (State crypto) :=
  let source := state.sourceOf task
  match (state.tasks task).pc with
  | .arrived => some (state.receive task)
  | .fast session => some (state.fastPath task session)
  | .fastFailed => some ((state.setPc task (.finished none)).invalidate source)
  | .dispatching => some (state.setPc task .handling)
  | .handling => some (state.handle task)
  | .existing session plaintext =>
      match state.getSocket source with
      | some endpoint => some (state.setPc task (.sending session.key endpoint plaintext))
      | none => some (state.setPc task (.pooling (.recover session) plaintext))
  | .pooling purpose plaintext =>
      match state.getSocket source with
      | some endpoint => some (state.obtained task purpose endpoint false plaintext)
      | none => some (state.setPc task (.claiming purpose plaintext))
  | .claiming purpose plaintext =>
      if state.creating source then
        some (state.setPc task (.pooling purpose plaintext))
      else
        some { state.setPc task (.rechecking purpose plaintext) with
          creating := Function.update state.creating source true }
  | .rechecking purpose plaintext =>
      match state.getSocket source with
      | some endpoint =>
          some { state.obtained task purpose endpoint false plaintext with
            creating := Function.update state.creating source false }
      | none => some (state.setPc task (.creating purpose plaintext))
  | .spawning key endpoint isNew plaintext =>
      some (state.spawnRelay task key endpoint isNew plaintext)
  | .inserting key endpoint relayAbort plaintext =>
      some (state.establish task key endpoint relayAbort plaintext)
  | .sending key endpoint plaintext =>
      some { state.setPc task (.awaiting endpoint.target) with
        sends := state.sends ++ [.outbound key endpoint.target plaintext] }
  | .removing error => some ((state.setPc task (.aborting error)).removeEndpoint source)
  | .aborting error =>
      some ((state.setPc task (.invalidating error)).abort
        ((state.sessions source).bind UnderlaySession.relayAbort))
  | .invalidating error =>
      some ((state.setPc task (.finished (some error))).invalidate source)
  | .idle | .fastSending | .evicting | .creating _ _ | .awaiting _ | .finished _ => none

/-- `UdpEndpoint::new` returned; a new endpoint goes into the pool. -/
def created (state : State crypto) (task : Nat) (purpose : Purpose crypto) (plaintext : Bytes)
    (result : Except String UdpEndpoint) : State crypto :=
  let creating := Function.update state.creating (state.sourceOf task) false
  match result with
  | .ok endpoint =>
      { state.obtained task purpose (.fromEndpoint endpoint) true plaintext with
        creating := creating
        pool := Function.update state.pool (state.sourceOf task) (some endpoint)
        freshSocket := state.freshSocket + 1 }
  | .error error =>
      { state.setPc task (.finished (some (.endpoint error))) with
        creating := creating
        freshSocket := state.freshSocket + 1 }

/-- `send_to` returned. -/
def sent (state : State crypto) (task : Nat) (error : Option String) : Option (State crypto) :=
  match (state.tasks task).pc, error with
  | .fastSending, none | .awaiting _, none => some (state.setPc task (.finished none))
  | .fastSending, some _ => some (state.setPc task .fastFailed)
  | .awaiting target, some error =>
      some (state.setPc task (.removing (.sendFailed target error)))
  | _, _ => none

/-! ## Relay-back tasks -/

def setRelay (state : State crypto) (id : Nat) (relay : Relay crypto) : State crypto :=
  { state with relays := state.relays.set id relay }

/-- The loop breaks: the `SessionGuard` is dropped, the pool entry still there. -/
def leave (state : State crypto) (id : Nat) (relay : Relay crypto) (pc : RelayPc) :
    State crypto :=
  (state.setRelay id { relay with pc := pc }).invalidate relay.source

/-- Seal a datagram under the last salt of the pool and send it to the source;
the loop breaks when there is no salt or the encryption fails. -/
def reply (state : State crypto) (id : Nat) (relay : Relay crypto) (datagram : Bytes) :
    State crypto :=
  match relay.saltPool.getLast? with
  | none => state.leave id relay .removing
  | some salt =>
      let outbuf := List.replicate JuicityUnderlay.saltLen 0 ++ datagram
      match relay.key.cipher.encryptInPlace crypto outbuf salt with
      | .ok packet =>
          { state.setRelay id (relay.sealing datagram) with
            sends := state.sends ++ [.reply relay.key salt datagram relay.source packet] }
      | .error _ => state.leave id { relay with saltPool := relay.saltPool.dropLast } .removing

/-- `recv_from` returned a datagram, cut to the buffer. -/
def relayReceive (state : State crypto) (id : Nat) (relay : Relay crypto) (datagram : Bytes) :
    State crypto :=
  if relay.saltPool.isEmpty then
    state.setRelay id { relay with pc := .refilling (datagram.take relayBuffer) }
  else
    state.reply id relay (datagram.take relayBuffer)

/-- The blocking task that generates salts returned. -/
def relayFill (state : State crypto) (id : Nat) (relay : Relay crypto)
    (random : Option (Octets (saltBatchSize * 30))) : Option (State crypto) :=
  match relay.pc, random with
  | .starting, some random =>
      some (state.setRelay id
        { relay with pc := .receiving, saltPool := generateSaltBatch random })
  | .starting, none => some (state.leave id relay .ended)
  | .refilling datagram, some random =>
      some (state.reply id { relay with saltPool := generateSaltBatch random } datagram)
  | .refilling _, none => some (state.leave id relay .removing)
  | _, _ => none

end State

/-- The relay-back task has not dropped its `SessionGuard`. -/
def RelayPc.running : RelayPc → Bool
  | .removing | .ended => false
  | _ => true

inductive Action where
  | arrive (task : Nat) (source : SocketAddr) (payload : Bytes)
  | run (task : Nat)
  | shed (task : Nat)
  | sent (task : Nat) (error : Option String)
  | evicted (task : Nat) (auth : Option UnderlayAuth)
  | create (task : Nat) (socketIsIpv6 : Except String Bool)
      (lookup : Except String (List SocketAddr))
  | expireSession (source : SocketAddr)
  | expireEndpoint (source : SocketAddr)
  | listenerAbort (index : Nat)
  | listenerRemove (index : Nat)
  | relayFill (id : Nat) (random : Option (Octets (saltBatchSize * 30)))
  | relayReceive (id : Nat) (datagram : Bytes)
  | relayReplied (id : Nat) (delivered : Bool)
  | relayFinish (id : Nat)
  | relayRemove (id : Nat)
  | relayDrop (id : Nat)

/-- One action. The resolver returns only addresses of the name it was asked
for, and every bound socket is a new one. -/
def step {crypto : Crypto} (setting : Setting) (state : State crypto) :
    Action → Option (State crypto)
  | .arrive task source payload =>
      match (state.tasks task).pc with
      | .idle => some { state with
          tasks := Function.update state.tasks task ⟨source, payload, .arrived⟩ }
      | _ => none
  | .run task => state.advance task
  | .shed task =>
      match (state.tasks task).pc with
      | .dispatching => some (state.setPc task (.finished none))
      | _ => none
  | .sent task error => state.sent task error
  | .evicted task auth =>
      match (state.tasks task).pc, auth with
      | .evicting, none => some (state.setPc task (.finished none))
      | .evicting, some auth => state.authorise setting task auth
      | _, _ => none
  | .create task socketIsIpv6 lookup =>
      match (state.tasks task).pc with
      | .creating purpose plaintext =>
          if setting.answers purpose.dialTarget lookup then
            let bound := socketIsIpv6.map fun isIpv6 => (state.freshSocket, isIpv6)
            some (state.created task purpose plaintext
              (UdpEndpoint.new purpose.dialTarget bound lookup))
          else
            none
      | _ => none
  | .expireSession source => some (state.invalidate source)
  | .expireEndpoint source => some (state.removeEndpoint source)
  | .listenerAbort index =>
      match state.evicted[index]? with
      | some (source, relay) =>
          some { state.abort relay with
            evicted := state.evicted.eraseIdx index
            removals := state.removals ++ [source] }
      | none => none
  | .listenerRemove index =>
      match state.removals[index]? with
      | some source =>
          some { state.removeEndpoint source with removals := state.removals.eraseIdx index }
      | none => none
  | .relayFill id random =>
      match state.relays[id]? with
      | some relay => state.relayFill id relay random
      | none => none
  | .relayReceive id datagram =>
      match state.relays[id]? with
      | some relay =>
          match relay.pc with
          | .receiving => some (state.relayReceive id relay datagram)
          | _ => none
      | none => none
  | .relayReplied id delivered =>
      match state.relays[id]? with
      | some relay =>
          match relay.pc with
          | .replying =>
              if delivered then some (state.setRelay id { relay with pc := .receiving })
              else some (state.leave id relay .removing)
          | _ => none
      | none => none
  | .relayFinish id =>
      match state.relays[id]? with
      | some relay =>
          match relay.pc with
          | .receiving => some (state.leave id relay .removing)
          | _ => none
      | none => none
  | .relayRemove id =>
      match state.relays[id]? with
      | some relay =>
          match relay.pc with
          | .removing =>
              some ((state.setRelay id { relay with pc := .ended }).removeEndpoint relay.source)
          | _ => none
      | none => none
  | .relayDrop id =>
      match state.relays[id]? with
      | some relay =>
          if relay.aborted && relay.pc.running then some (state.leave id relay .ended) else none
      | none => none

/-- A packet of an auth goes through the handler up to its new session, whose
endpoint is at `target`; the first send is still to come. -/
def establishSchedule (task : Nat) (source : SocketAddr) (payload : Bytes) (auth : UnderlayAuth)
    (target : SocketAddr) : List Action :=
  .arrive task source payload :: List.replicate 3 (.run task) ++ [.evicted task (some auth)] ++
    List.replicate 3 (.run task) ++ [.create task (.ok true) (.ok [target])] ++
      List.replicate 2 (.run task)

/-! ## Sample packets under the stand-in functions -/

def samplePsk : Bytes := List.replicate 32 7

/-- The salt of the first packet of the sample sessions. -/
def firstSalt : Salt := .replicate 32 1

/-- The salt of a pool filled from zero bytes. -/
def poolSalt : Salt := .replicate 32 0

/-- The two salts of the samples. -/
def SampleSalts (salt : Salt) : Prop := salt = firstSalt ∨ salt = poolSalt

theorem sample_laws : CryptoLaws echoCrypto samplePsk SampleSalts := by
  apply echo_laws
  rintro salt other (rfl | rfl) (rfl | rfl) different
  · exact absurd rfl different
  · decide
  · decide
  · exact absurd rfl different

def samplePacket (salt : Salt) (plaintext : Bytes) : Bytes :=
  JuicityUnderlay.frame salt plaintext ⟨salt.val.take 16, by simp⟩

/-- The sample packets are those of `encrypt_udp`. -/
theorem sample_packet (salt : Salt) (plaintext : Bytes) :
    JuicityUnderlay.encryptUdp echoCrypto samplePsk plaintext salt =
      .ok (samplePacket salt plaintext) := by
  have sized : samplePsk.length = JuicityUnderlay.keyLen := by decide
  apply (JuicityUnderlay.encryptUdp_eq_ok_iff sized).mpr
  exact ⟨plaintext, _, rfl, rfl⟩

def sampleSource : SocketAddr := ⟨.v4 (.replicate 4 1), 9⟩

def sampleTarget : SocketAddr := ⟨.v4 (.replicate 4 2), 53⟩

def sampleAuth : UnderlayAuth where
  iv := firstSalt
  psk := samplePsk
  metadata := ⟨.udp, "host", 53, .replicate 16 0⟩
  uuid := .replicate 16 0

/-- The sample resolver knows one name. -/
def sampleSetting : Setting where
  disableUdp443 := true
  resolves := fun name addr => name = "host:53" && addr = sampleTarget

/-- The sample session is established by a packet that carries one byte. -/
def sampleSchedule : List Action :=
  establishSchedule 0 sampleSource (samplePacket firstSalt [5]) sampleAuth sampleTarget

end Juicity.Server.Underlay
