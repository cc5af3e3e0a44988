import Mathlib.Data.Finmap

/-!
Owns `Config` of `common/src/config.rs` with its `Deserialize` and its defaults,
and the export of a client's settings. A `HashMap` and a JSON object are maps
without an order; how `serde_json` writes an object and reads a text is a
parameter.

The export is a list of members of its own, and has none for the settings of the
transport.
-/

namespace Juicity.Common.ConfigFile

/-- A `HashMap<String, _>`, or the members of a JSON object. -/
abbrev StringMap (Value : Type) := Finmap fun _ : String => Value

/-- A JSON value, as far as a field takes one: an object of strings is told apart from the
other values, which no field takes. -/
inductive JsonValue where
  | null
  | bool (value : Bool)
  | number (value : Nat)
  | string (text : String)
  | strings (members : StringMap String)
  | other
deriving DecidableEq

/-- `serde_json::to_string_pretty` of an object, and the members of the object in a text. -/
structure SerdeJson where
  toStringPretty : StringMap JsonValue → String
  fromStr : String → Option (StringMap JsonValue)

/-- What is written is read. -/
def SerdeJson.Faithful (json : SerdeJson) (members : StringMap JsonValue) : Prop :=
  json.fromStr (json.toStringPretty members) = some members

/-- All of a configuration file; a share link is made of a part of it. -/
structure Config where
  server : String
  uuid : String
  password : String
  sni : String
  allowInsecure : Bool
  pinnedCertchainSha256 : String
  protectPath : String
  forward : StringMap String
  fwmark : Option UInt32
  users : StringMap String
  certificate : String
  privateKey : String
  sendThrough : String
  dialerLink : String
  disableOutboundUdp443 : Bool
  listen : String
  congestionControl : String
  logLevel : String
  initialRtt : Option UInt64
  keepAliveInterval : Option UInt64
  underlayEvictTimeout : Option UInt64
  enable0rtt : Option Bool
deriving DecidableEq

namespace Config

def default : Config where
  server := ""
  uuid := ""
  password := ""
  sni := ""
  allowInsecure := false
  pinnedCertchainSha256 := ""
  protectPath := ""
  forward := ∅
  fwmark := none
  users := ∅
  certificate := ""
  privateKey := ""
  sendThrough := ""
  dialerLink := ""
  disableOutboundUdp443 := false
  listen := ""
  congestionControl := "bbr"
  logLevel := "info"
  initialRtt := none
  keepAliveInterval := none
  underlayEvictTimeout := none
  enable0rtt := none

/-! ## Reading -/

def readString : JsonValue → Option String
  | .string text => some text
  | _ => none

def readBool : JsonValue → Option Bool
  | .bool value => some value
  | _ => none

def readStrings : JsonValue → Option (StringMap String)
  | .strings members => some members
  | _ => none

def readU32 : JsonValue → Option UInt32
  | .number value => if value < 2 ^ 32 then some (UInt32.ofNat value) else none
  | _ => none

def readU64 : JsonValue → Option UInt64
  | .number value => if value < 2 ^ 64 then some (UInt64.ofNat value) else none
  | _ => none

/-- `Option<T>`: nothing is `null`. -/
def readOption {Value : Type} (read : JsonValue → Option Value) : JsonValue → Option (Option Value)
  | .null => some none
  | value => (read value).map some

/-- `#[serde(default)]`: a member that is missing has the default. -/
def field {Value : Type} (members : StringMap JsonValue) (name : String)
    (read : JsonValue → Option Value) (missing : Value) : Option Value :=
  (members.lookup name).elim (some missing) read

/-- `Deserialize`; a member of another name is passed by. -/
def deserialize (members : StringMap JsonValue) : Option Config := do
  let server ← field members "server" readString default.server
  let uuid ← field members "uuid" readString default.uuid
  let password ← field members "password" readString default.password
  let sni ← field members "sni" readString default.sni
  let allowInsecure ← field members "allow_insecure" readBool default.allowInsecure
  let pinnedCertchainSha256 ←
    field members "pinned_certchain_sha256" readString default.pinnedCertchainSha256
  let protectPath ← field members "protect_path" readString default.protectPath
  let forward ← field members "forward" readStrings default.forward
  let fwmark ← field members "fwmark" (readOption readU32) default.fwmark
  let users ← field members "users" readStrings default.users
  let certificate ← field members "certificate" readString default.certificate
  let privateKey ← field members "private_key" readString default.privateKey
  let sendThrough ← field members "send_through" readString default.sendThrough
  let dialerLink ← field members "dialer_link" readString default.dialerLink
  let disableOutboundUdp443 ←
    field members "disable_outbound_udp443" readBool default.disableOutboundUdp443
  let listen ← field members "listen" readString default.listen
  let congestionControl ←
    field members "congestion_control" readString default.congestionControl
  let logLevel ← field members "log_level" readString default.logLevel
  let initialRtt ← field members "initial_rtt" (readOption readU64) default.initialRtt
  let keepAliveInterval ←
    field members "keep_alive_interval" (readOption readU64) default.keepAliveInterval
  let underlayEvictTimeout ←
    field members "underlay_evict_timeout" (readOption readU64) default.underlayEvictTimeout
  let enable0rtt ← field members "enable_0rtt" (readOption readBool) default.enable0rtt
  return { server, uuid, password, sni, allowInsecure, pinnedCertchainSha256, protectPath,
           forward, fwmark, users, certificate, privateKey, sendThrough, dialerLink,
           disableOutboundUdp443, listen, congestionControl, logLevel, initialRtt,
           keepAliveInterval, underlayEvictTimeout, enable0rtt }

/-- `serde_json::from_str::<Config>`. -/
def fromStr (json : SerdeJson) (text : String) : Option Config :=
  (json.fromStr text).bind deserialize

/-! ## Writing -/

/-- A member that is written under a condition. -/
def insertIf (present : Bool) (name : String) (value : JsonValue)
    (members : StringMap JsonValue) : StringMap JsonValue :=
  if present then members.insert name value else members

/-- A member that is written when there is a value. -/
def insertSome (name : String) (value : Option JsonValue) (members : StringMap JsonValue) :
    StringMap JsonValue :=
  match value with
  | some value => members.insert name value
  | none => members

/-- The members that `to_client_json` writes. -/
def clientMembers (config : Config) : StringMap JsonValue :=
  let members : StringMap JsonValue := ∅
  let members := members.insert "server" (.string config.server)
  let members := members.insert "uuid" (.string config.uuid)
  let members := members.insert "password" (.string config.password)
  let members := insertIf (config.sni ≠ "") "sni" (.string config.sni) members
  let members := insertIf config.allowInsecure "allow_insecure" (.bool true) members
  let members := insertIf (config.pinnedCertchainSha256 ≠ "") "pinned_certchain_sha256"
    (.string config.pinnedCertchainSha256) members
  let members := members.insert "congestion_control" (.string config.congestionControl)
  let members := insertIf (config.listen ≠ "") "listen" (.string config.listen) members
  let members := insertIf (config.forward ≠ ∅) "forward" (.strings config.forward) members
  let members := insertSome "fwmark" (config.fwmark.map (.number ·.toNat)) members
  members.insert "log_level" (.string config.logLevel)

def toClientJson (json : SerdeJson) (config : Config) : String :=
  json.toStringPretty config.clientMembers

/-- The fields that a client reads; the others are at their defaults. -/
def clientPart (config : Config) : Config :=
  { config with
    protectPath := default.protectPath
    users := default.users
    certificate := default.certificate
    privateKey := default.privateKey
    sendThrough := default.sendThrough
    dialerLink := default.dialerLink
    disableOutboundUdp443 := default.disableOutboundUdp443
    underlayEvictTimeout := default.underlayEvictTimeout }

/-- What the export keeps of a configuration. -/
def exported (config : Config) : Config :=
  { config.clientPart with
    initialRtt := default.initialRtt
    keepAliveInterval := default.keepAliveInterval
    enable0rtt := default.enable0rtt }

/-! ## What is read of an export -/

section Members

variable {members : StringMap JsonValue} {name : String}

@[simp] theorem lookup_insert_name (written : String) (value : JsonValue) :
    (members.insert written value).lookup name =
      if name = written then some value else members.lookup name := by
  split
  · rename_i same
    rw [same, Finmap.lookup_insert]
  · rename_i different
    exact Finmap.lookup_insert_of_ne members different

@[simp] theorem lookup_insertIf (present : Bool) (written : String) (value : JsonValue) :
    (insertIf present written value members).lookup name =
      if name = written ∧ present = true then some value else members.lookup name := by
  unfold insertIf
  cases present with
  | true =>
      rw [if_pos rfl, lookup_insert_name]
      simp
  | false => simp

@[simp] theorem lookup_insertSome (written : String) (value : Option JsonValue) :
    (insertSome written value members).lookup name =
      if name = written then value.or (members.lookup name) else members.lookup name := by
  cases value with
  | some value =>
      rw [insertSome, lookup_insert_name]
      rfl
  | none =>
      rw [insertSome, Option.none_or]
      exact (ite_self _).symm

end Members

/-! A field that is left out at its default is read as it was. -/

@[simp] theorem read_text (text : String) :
    (if text = "" then none else some (JsonValue.string text)).elim (some "") readString =
      some text := by
  split
  · rename_i empty
    rw [empty]
    rfl
  · rfl

@[simp] theorem read_flag (flag : Bool) :
    (if flag = true then some (JsonValue.bool true) else none).elim (some false) readBool =
      some flag := by
  cases flag with
  | true => rfl
  | false => rfl

@[simp] theorem read_strings (strings : StringMap String) :
    (if strings = ∅ then none else some (JsonValue.strings strings)).elim (some ∅) readStrings =
      some strings := by
  split
  · rename_i empty
    rw [empty]
    rfl
  · rfl

@[simp] theorem read_u32 (value : Option UInt32) :
    value.elim (some none) (readOption readU32 ∘ (JsonValue.number ·.toNat)) = some value := by
  cases value with
  | none => rfl
  | some value =>
      have small := value.toNat_lt
      show (if value.toNat < 2 ^ 32 then some (UInt32.ofNat value.toNat) else none).map some = _
      rw [if_pos small, UInt32.ofNat_toNat]
      rfl

@[simp] theorem readString_string (text : String) : readString (.string text) = some text := rfl

/-- What an export writes is read as the fields that it keeps, and defaults. -/
theorem deserialize_clientMembers (config : Config) :
    deserialize config.clientMembers = some config.exported := by
  simp [deserialize, field, clientMembers, default]
  rfl

theorem fromStr_toClientJson {json : SerdeJson} {config : Config}
    (faithful : json.Faithful config.clientMembers) :
    fromStr json (config.toClientJson json) = some config.exported := by
  unfold fromStr toClientJson
  rw [faithful, Option.bind_some, deserialize_clientMembers]

/-- A configuration is exported and read again with every field that a client reads exactly
when none of the settings of the transport is given. -/
theorem clientJson_iff (json : SerdeJson) (config : Config)
    (faithful : json.Faithful config.clientMembers) :
    (∃ parsed, fromStr json (config.toClientJson json) = some parsed ∧
        parsed.clientPart = config.clientPart) ↔
      config.initialRtt = none ∧ config.keepAliveInterval = none ∧ config.enable0rtt = none := by
  rw [fromStr_toClientJson faithful]
  constructor
  · rintro ⟨parsed, given, same⟩
    obtain rfl := Option.some.inj given
    have initialRtt := congrArg initialRtt same
    have keepAliveInterval := congrArg keepAliveInterval same
    have enable0rtt := congrArg enable0rtt same
    exact ⟨initialRtt.symm, keepAliveInterval.symm, enable0rtt.symm⟩
  · rintro ⟨initialRtt, keepAliveInterval, enable0rtt⟩
    refine ⟨_, rfl, ?_⟩
    simp only [exported, clientPart, initialRtt, keepAliveInterval, enable0rtt]
    rfl

/-! ## Settings that are lost -/

/-- `serde_json` for one object and its text. -/
def oneText (members : StringMap JsonValue) (text : String) : SerdeJson where
  toStringPretty := fun _ => text
  fromStr := fun given => if given = text then some members else none

theorem oneText_faithful (members : StringMap JsonValue) (text : String) :
    (oneText members text).Faithful members := if_pos rfl

def plainConfig : Config :=
  { default with
    server := "example.org:443"
    uuid := "00000000-0000-0000-0000-000000000001"
    password := "secret"
    allowInsecure := true
    listen := "127.0.0.1:1080"
    fwmark := some 7 }

/-- The same with settings of the transport. -/
def tunedConfig : Config :=
  { plainConfig with initialRtt := some 100, keepAliveInterval := some 5, enable0rtt := some false }

/-- What either is exported as. -/
def plainText : String :=
  "\x7b\n  \"allow_insecure\": true,\n  \"congestion_control\": \"bbr\",\n  \"fwmark\": 7,\n" ++
    "  \"listen\": \"127.0.0.1:1080\",\n  \"log_level\": \"info\",\n" ++
    "  \"password\": \"secret\",\n  \"server\": \"example.org:443\",\n" ++
    "  \"uuid\": \"00000000-0000-0000-0000-000000000001\"\n\x7d"

def plainJson : SerdeJson := oneText plainConfig.clientMembers plainText

theorem tunedConfig_lost :
    plainJson.Faithful tunedConfig.clientMembers ∧
      fromStr plainJson (tunedConfig.toClientJson plainJson) = some plainConfig ∧
      plainConfig.clientPart ≠ tunedConfig.clientPart := by
  have same : tunedConfig.clientMembers = plainConfig.clientMembers := rfl
  have faithful : plainJson.Faithful tunedConfig.clientMembers :=
    same ▸ oneText_faithful _ plainText
  refine ⟨faithful, ?_, ?_⟩
  · rw [fromStr_toClientJson faithful]
    rfl
  · intro equal
    have lost := congrArg enable0rtt equal
    cases lost

theorem clientJson_iff_plain :
    ∃ parsed, fromStr plainJson (plainConfig.toClientJson plainJson) = some parsed ∧
      parsed.clientPart = plainConfig.clientPart :=
  (clientJson_iff plainJson plainConfig (oneText_faithful _ plainText)).mpr ⟨rfl, rfl, rfl⟩

end Config

end Juicity.Common.ConfigFile
