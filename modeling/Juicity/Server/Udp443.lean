import Juicity.Server.UdpRelay.Names
import Juicity.Server.Underlay.Ports

/-!
Owns the block of outbound UDP to port 443 for the whole server: its underlay
half and the UDP streams of its connections, which share no state. The filter
covers every underlay packet and the first datagram of every stream; the later
datagrams of a stream are forwarded unfiltered.
-/

namespace Juicity.Server.Udp443

open Juicity.Common
open Juicity.Machine

variable {crypto : Crypto}

structure Setting where
  disableUdp443 : Bool
  resolves : String → SocketAddr → Bool
  text : AddrText

def Setting.underlay (setting : Setting) : Underlay.Setting :=
  ⟨setting.disableUdp443, setting.resolves⟩

def Setting.relay (setting : Setting) : UdpRelay.Setting := ⟨setting.disableUdp443, setting.text⟩

/-- The underlay half and the connections by number. -/
structure State (crypto : Crypto) where
  underlay : Underlay.State crypto
  connections : Nat → UdpRelay.State

def initial (crypto : Crypto) : State crypto := ⟨Underlay.initial crypto, fun _ => UdpRelay.initial⟩

inductive Action where
  | underlay (action : Underlay.Action)
  | connection (id : Nat) (action : UdpRelay.Action)

def step (setting : Setting) (state : State crypto) : Action → Option (State crypto)
  | .underlay action =>
      (Underlay.step setting.underlay state.underlay action).map fun after =>
        { state with underlay := after }
  | .connection id action =>
      (UdpRelay.step setting.relay (state.connections id) action).map fun after =>
        { state with connections := Function.update state.connections id after }

/-- No stream sent a datagram to port 443. -/
def StreamsElsewhere (state : State crypto) : Prop :=
  ∀ id, ∀ sent ∈ (state.connections id).sends, sent.target.port ≠ 443

/-- No proxied payload was sent to port 443. -/
def OutboundElsewhere (state : State crypto) : Prop :=
  (∀ key target payload, Underlay.Send.outbound key target payload ∈ state.underlay.sends →
    target.port ≠ 443) ∧ StreamsElsewhere state

/-- `send_to_addr` was never called with a target whose port is 443; replies to
underlay clients count. -/
def NeverTo443 (state : State crypto) : Prop :=
  (∀ send ∈ state.underlay.sends, send.target.port ≠ 443) ∧ StreamsElsewhere state

/-- A datagram that a stream reads after its first one does not name port 443. -/
def NamesElsewhere (setting : Setting) (state : State crypto) (action : Action) : Prop :=
  ∀ id stream name payload rest, action = .connection id (.run stream) →
    ((state.connections id).streams stream).pc = .reading →
      UdpRelay.readDatagram setting.text ((state.connections id).streams stream).input =
          .ok ((name, payload), rest) →
        name.port ≠ 443

/-- An underlay packet that arrives does not come from port 443. -/
def ArrivesElsewhere (state : State crypto) (action : Action) : Prop :=
  ∀ arrival, action = .underlay arrival → Underlay.ArrivesElsewhere state.underlay arrival

/-- No underlay client is at port 443. -/
def ClientsElsewhere (state : State crypto) : Prop :=
  Underlay.ClientsElsewhere state.underlay

/-- What the filter and the names of later datagrams keep. -/
structure Guarded (setting : Setting) (state : State crypto) : Prop where
  filtered : Underlay.Filtered setting.underlay state.underlay
  outbound : Underlay.OutboundElsewhere state.underlay
  streams : ∀ id, UdpRelay.Kept (fun name => name.port ≠ 443) (state.connections id)

theorem guarded_initial {setting : Setting} : Guarded setting (initial crypto) where
  filtered := Underlay.filtered_initial
  outbound := Underlay.outboundElsewhere_initial
  streams := fun _ => UdpRelay.kept_initial

section Preservation

variable {setting : Setting} {state after : State crypto} {action : Action}

/-- With the filter on, a stream passes on names of other ports only, as long as
its later datagrams name others. -/
theorem admitted_elsewhere {id : Nat} {step : UdpRelay.Action} {name : UdpRelay.Name}
    (disabled : setting.disableUdp443 = true)
    (elsewhere : NamesElsewhere setting state (.connection id step))
    (admitted : UdpRelay.Admits setting.relay (state.connections id) step name) :
    name.port ≠ 443 := by
  cases admitted with
  -- The only check of a stream is the one on its first name.
  | first stream here read passes => exact passes disabled
  | later stream here read => exact elsewhere id stream name _ _ rfl here read

theorem Guarded.preserved (guarded : Guarded setting state)
    (disabled : setting.disableUdp443 = true) (keepsPort : setting.underlay.KeepsPort)
    (elsewhere : NamesElsewhere setting state action)
    (taken : step setting state action = some after) : Guarded setting after := by
  cases action with
  | underlay action =>
      obtain ⟨moved, underlayTaken, rfl⟩ := Option.map_eq_some_iff.mp taken
      constructor
      case filtered => exact guarded.filtered.preserved underlayTaken
      case outbound =>
        exact guarded.outbound.preserved guarded.filtered disabled keepsPort underlayTaken
      case streams => exact guarded.streams
  | connection id action =>
      obtain ⟨moved, relayTaken, rfl⟩ := Option.map_eq_some_iff.mp taken
      refine ⟨guarded.filtered, guarded.outbound, ?_⟩
      have moves : Moves state.connections (Function.update state.connections id moved) id moved :=
        rfl
      apply moves.forall_tasks (motive := fun _ relay =>
        UdpRelay.Kept (fun name => name.port ≠ 443) relay)
      · apply (guarded.streams id).preserved _ relayTaken
        exact fun name admitted => admitted_elsewhere disabled elsewhere admitted
      · exact fun other _ => guarded.streams other

theorem ClientsElsewhere.preserved (clients : ClientsElsewhere state)
    (elsewhere : ArrivesElsewhere state action)
    (taken : step setting state action = some after) : ClientsElsewhere after := by
  cases action with
  | underlay action =>
      obtain ⟨moved, underlayTaken, rfl⟩ := Option.map_eq_some_iff.mp taken
      exact Underlay.ClientsElsewhere.preserved clients (elsewhere action rfl) underlayTaken
  | connection id action =>
      obtain ⟨moved, relayTaken, rfl⟩ := Option.map_eq_some_iff.mp taken
      exact clients

theorem Guarded.streamsElsewhere (guarded : Guarded setting state) : StreamsElsewhere state := by
  intro id sent member
  obtain ⟨good, port⟩ := (guarded.streams id).sends sent member
  rw [port]
  exact good

theorem Guarded.neverTo443 (guarded : Guarded setting state) (clients : ClientsElsewhere state) :
    NeverTo443 state := by
  refine ⟨?_, guarded.streamsElsewhere⟩
  intro send member
  cases send with
  | outbound key target payload => exact guarded.outbound.sends key target payload member
  | reply key salt datagram source packet =>
      exact clients.sends key salt datagram source packet member

end Preservation

/-- With the block on, a run whose streams name port 443 in no later datagram
sends nothing out to port 443; and nothing at all if no underlay client uses that
port itself. -/
theorem neverTo443_of_namesElsewhere {setting : Setting} (disabled : setting.disableUdp443 = true)
    (keepsPort : setting.underlay.KeepsPort) {history : List (State crypto × Action)}
    {final : State crypto} (run : Run (step setting) (initial crypto) history final)
    (names : Allowed (NamesElsewhere setting) history) :
    Everywhere OutboundElsewhere history final ∧
      (Allowed ArrivesElsewhere history → Everywhere NeverTo443 history final) := by
  have guarded : Everywhere (Guarded setting) history final := by
    apply run.invariant_of_allowed guarded_initial _ names
    exact fun state action after held elsewhere taken =>
      held.preserved disabled keepsPort elsewhere taken
  constructor
  · apply guarded.mono
    exact fun state held => ⟨held.outbound.sends, held.streamsElsewhere⟩
  · intro arrivals
    have start : ClientsElsewhere (initial crypto) := Underlay.clientsElsewhere_initial
    have clients : Everywhere ClientsElsewhere history final := by
      apply run.invariant_of_allowed start _ arrivals
      exact fun state action after held elsewhere taken => held.preserved elsewhere taken
    constructor
    · intro entry member
      exact (guarded.1 entry member).neverTo443 (clients.1 entry member)
    · exact guarded.2.neverTo443 clients.2

/-! ## Streams of two datagrams -/

/-- The sample texts know one address. -/
def sampleText : AddrText where
  ipv4 := fun octets => ".".intercalate (octets.val.map fun octet => toString octet.toNat)
  ipv6 := fun _ => "::"
  utf8Lossy := fun bytes => String.ofList (bytes.map fun byte => Char.ofNat byte.toNat)
  parseIp := fun host => if host = "1.1.1.1" then some (.v4 (.replicate 4 1)) else none

/-- The block is on, and the resolver knows one name. -/
def sampleSetting : Setting := ⟨true, Underlay.sampleSetting.resolves, sampleText⟩

theorem sample_keepsPort : sampleSetting.underlay.KeepsPort := by
  intro metadata addr resolved
  have known : metadata.targetAddr = "host:53" ∧ addr = Underlay.sampleTarget := by
    simpa [sampleSetting, Setting.underlay, Underlay.sampleSetting] using resolved
  have named : metadata.targetAddr = Underlay.sampleAuth.metadata.targetAddr := by
    rw [known.1]
    decide
  rw [known.2, ProxyMetadata.port_eq_of_targetAddr_eq named]
  rfl

/-- A datagram of one byte for `1.1.1.1` and a port given by its two bytes. -/
def sampleDatagram (high low byte : UInt8) : Bytes := [1, 1, 1, 1, 1, high, low, 0, 1, byte]

/-- A stream carries one datagram for port 53 and one for another port, and both
are sent. -/
def streamSchedule (high low : UInt8) : List Action :=
  let actions : List UdpRelay.Action :=
    [.openStream 0 (sampleDatagram 0 53 7 ++ sampleDatagram high low 8), .run 0, .run 0,
      .dialed 0 none, .run 0, .sent 0 none, .run 0, .run 0]
  actions.map (.connection 0)

/-- 443 is `0x01bb`. -/
theorem not_neverTo443_of_second_datagram :
    ¬ ∀ (crypto : Crypto) (setting : Setting) (state : State crypto),
      setting.disableUdp443 = true → setting.underlay.KeepsPort →
        Reachable (step setting) (initial crypto) state → NeverTo443 state := by
  have executed : (exec (step sampleSetting) (initial echoCrypto) (streamSchedule 1 187)).any
      (fun state => (state.connections 0).sends.any fun sent => sent.target.port = 443) = true := by
    decide +kernel
  obtain ⟨state, ended, facts⟩ := (Option.any_eq_true _ _).mp executed
  obtain ⟨sent, member, port⟩ := List.any_eq_true.mp facts
  intro always
  have never := always echoCrypto sampleSetting state rfl sample_keepsPort (reachable_of_exec ended)
  exact never.2 0 sent member (of_decide_eq_true port)

/-- The sample session of the underlay, and a stream that stays with port 53. -/
def blockSchedule : List Action :=
  (Underlay.sampleSchedule ++ [Underlay.Action.run 0]).map .underlay ++ streamSchedule 0 53

/-- The two conditions as a check. -/
def staysElsewhere (entry : State echoCrypto × Action) : Bool :=
  match entry.2 with
  | .underlay (.arrive _ source _) => source.port ≠ 443
  | .connection id (.run stream) =>
      match UdpRelay.readDatagram sampleText ((entry.1.connections id).streams stream).input with
      | .ok ((name, _), _) => name.port ≠ 443
      | .error _ => true
  | _ => true

theorem neverTo443_of_namesElsewhere_sample :
    Everywhere OutboundElsewhere (trace (step sampleSetting) (initial echoCrypto) blockSchedule)
        ((exec (step sampleSetting) (initial echoCrypto) blockSchedule).getD
          (initial echoCrypto)) ∧
      Everywhere NeverTo443 (trace (step sampleSetting) (initial echoCrypto) blockSchedule)
        ((exec (step sampleSetting) (initial echoCrypto) blockSchedule).getD
          (initial echoCrypto)) := by
  have executed : (exec (step sampleSetting) (initial echoCrypto) blockSchedule).any (fun state =>
      state.underlay.sends.length = 1 && (state.connections 0).sends.length = 2) = true := by
    decide +kernel
  have stays : (trace (step sampleSetting) (initial echoCrypto) blockSchedule).all
      staysElsewhere = true := by
    decide +kernel
  obtain ⟨final, ended, _⟩ := (Option.any_eq_true _ _).mp executed
  rw [ended]
  have names : Allowed (NamesElsewhere sampleSetting)
      (trace (step sampleSetting) (initial echoCrypto) blockSchedule) := by
    rintro ⟨state, action⟩ member id stream name payload rest running _ read
    have checked := List.all_eq_true.mp stays _ member
    obtain rfl : action = .connection id (.run stream) := running
    have parsed : UdpRelay.readDatagram sampleText
        ((state.connections id).streams stream).input = .ok ((name, payload), rest) := read
    simpa [staysElsewhere, parsed] using checked
  have arrivals : Allowed ArrivesElsewhere
      (trace (step sampleSetting) (initial echoCrypto) blockSchedule) := by
    rintro ⟨state, action⟩ member arrival isArrival task source payload arrives
    have checked := List.all_eq_true.mp stays _ member
    obtain rfl : action = .underlay arrival := isArrival
    obtain rfl := arrives
    simpa [staysElsewhere] using checked
  obtain ⟨outbound, never⟩ :=
    neverTo443_of_namesElsewhere rfl sample_keepsPort (run_trace ended) names
  exact ⟨outbound, never arrivals⟩

end Juicity.Server.Udp443
