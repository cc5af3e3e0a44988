import Juicity.Server.Users

/-!
Owns the exports of a server's configuration: `to_server_json` and
`to_client_json_from_server` of `common/src/config.rs`, and `validate_for_client`,
which the client runs on what it reads.

Contract: a client that is started with the export of an accepted server is
accepted itself and let in by that server, as long as no UUID is given two
passwords. The export for another server drops the settings of the transport.
-/

namespace Juicity.Server.Export

open Juicity.Common Juicity.Common.ConfigFile Juicity.Machine
open Juicity.Server.Users

/-! ## The export for a server -/

/-- The members that `to_server_json` writes. -/
def serverMembers (config : ConfigFile.Config) : StringMap JsonValue :=
  let members : StringMap JsonValue := ∅
  let members := members.insert "listen" (.string config.listen)
  let members := members.insert "users" (.strings config.users)
  let members := members.insert "certificate" (.string config.certificate)
  let members := members.insert "private_key" (.string config.privateKey)
  let members := members.insert "congestion_control" (.string config.congestionControl)
  let members := members.insert "log_level" (.string config.logLevel)
  let members := Config.insertSome "fwmark" (config.fwmark.map (.number ·.toNat)) members
  let members := Config.insertIf (config.sendThrough ≠ "") "send_through"
    (.string config.sendThrough) members
  let members := Config.insertIf (config.dialerLink ≠ "") "dialer_link"
    (.string config.dialerLink) members
  Config.insertIf config.disableOutboundUdp443 "disable_outbound_udp443" (.bool true) members

def toServerJson (json : SerdeJson) (config : ConfigFile.Config) : String :=
  json.toStringPretty (serverMembers config)

/-- The fields that a server reads; the others are at their defaults. -/
def serverPart (config : ConfigFile.Config) : ConfigFile.Config :=
  { Config.default with
    users := config.users
    certificate := config.certificate
    privateKey := config.privateKey
    sendThrough := config.sendThrough
    disableOutboundUdp443 := config.disableOutboundUdp443
    listen := config.listen
    congestionControl := config.congestionControl
    logLevel := config.logLevel
    initialRtt := config.initialRtt
    keepAliveInterval := config.keepAliveInterval
    underlayEvictTimeout := config.underlayEvictTimeout
    enable0rtt := config.enable0rtt }

/-- What is read of an export for a server. -/
def serverExported (config : ConfigFile.Config) : ConfigFile.Config :=
  { serverPart config with
    fwmark := config.fwmark
    dialerLink := config.dialerLink
    initialRtt := Config.default.initialRtt
    keepAliveInterval := Config.default.keepAliveInterval
    underlayEvictTimeout := Config.default.underlayEvictTimeout
    enable0rtt := Config.default.enable0rtt }

@[simp] theorem readStrings_strings (strings : StringMap String) :
    Config.readStrings (.strings strings) = some strings := rfl

theorem deserialize_serverMembers (config : ConfigFile.Config) :
    Config.deserialize (serverMembers config) = some (serverExported config) := by
  simp [Config.deserialize, Config.field, serverMembers, Config.default]
  rfl

theorem fromStr_toServerJson {json : SerdeJson} {config : ConfigFile.Config}
    (faithful : json.Faithful (serverMembers config)) :
    Config.fromStr json (toServerJson json config) = some (serverExported config) := by
  unfold Config.fromStr toServerJson
  rw [faithful, Option.bind_some, deserialize_serverMembers]

/-- A server that is started with its export reads every setting as it was exactly when none
of the settings of the transport is given. -/
theorem serverJson_iff (json : SerdeJson) (config : ConfigFile.Config)
    (faithful : json.Faithful (serverMembers config)) :
    (∃ parsed, Config.fromStr json (toServerJson json config) = some parsed ∧
        serverPart parsed = serverPart config) ↔
      config.initialRtt = none ∧ config.keepAliveInterval = none ∧
        config.underlayEvictTimeout = none ∧ config.enable0rtt = none := by
  rw [fromStr_toServerJson faithful]
  constructor
  · rintro ⟨parsed, given, same⟩
    obtain rfl := Option.some.inj given
    have initialRtt := congrArg Config.initialRtt same
    have keepAliveInterval := congrArg Config.keepAliveInterval same
    have underlayEvictTimeout := congrArg Config.underlayEvictTimeout same
    have enable0rtt := congrArg Config.enable0rtt same
    exact ⟨initialRtt.symm, keepAliveInterval.symm, underlayEvictTimeout.symm, enable0rtt.symm⟩
  · rintro ⟨initialRtt, keepAliveInterval, underlayEvictTimeout, enable0rtt⟩
    refine ⟨_, rfl, ?_⟩
    simp only [serverExported, serverPart, initialRtt, keepAliveInterval, underlayEvictTimeout,
      enable0rtt]
    rfl

/-! ## The export for a client -/

/-- `format!("[::]:{}", socks_port)`. -/
def anyAddress (socksPort : UInt16) : String := "[::]:" ++ toString socksPort.toNat

/-- The members that `to_client_json_from_server` writes for a user. -/
def clientMembersOf (config : ConfigFile.Config) (user : String × String) (socksPort : UInt16) :
    StringMap JsonValue :=
  let members : StringMap JsonValue := ∅
  let members := members.insert "server" (.string config.listen)
  let members := members.insert "uuid" (.string user.1)
  let members := members.insert "password" (.string user.2)
  let members := Config.insertIf (config.sni ≠ "") "sni" (.string config.sni) members
  let members := Config.insertIf config.allowInsecure "allow_insecure" (.bool true) members
  let members := Config.insertIf (config.pinnedCertchainSha256 ≠ "") "pinned_certchain_sha256"
    (.string config.pinnedCertchainSha256) members
  let members := members.insert "congestion_control" (.string config.congestionControl)
  let members := members.insert "listen" (.string (anyAddress socksPort))
  let members := Config.insertSome "fwmark" (config.fwmark.map (.number ·.toNat)) members
  members.insert "log_level" (.string config.logLevel)

/-- `to_client_json_from_server`, with the order in which it iterates the users. -/
def toClientJsonFromServer (json : SerdeJson) (config : ConfigFile.Config)
    (order : List (String × String)) (socksPort : UInt16) : Except String String :=
  match order with
  | [] => .error "no users defined in server config"
  | user :: _ => .ok (json.toStringPretty (clientMembersOf config user socksPort))

/-- What is read of an export for a client. -/
def clientOf (config : ConfigFile.Config) (user : String × String) (socksPort : UInt16) :
    ConfigFile.Config :=
  { Config.default with
    server := config.listen
    uuid := user.1
    password := user.2
    sni := config.sni
    allowInsecure := config.allowInsecure
    pinnedCertchainSha256 := config.pinnedCertchainSha256
    congestionControl := config.congestionControl
    listen := anyAddress socksPort
    fwmark := config.fwmark
    logLevel := config.logLevel }

theorem deserialize_clientMembersOf (config : ConfigFile.Config) (user : String × String)
    (socksPort : UInt16) :
    Config.deserialize (clientMembersOf config user socksPort) =
      some (clientOf config user socksPort) := by
  simp [Config.deserialize, Config.field, clientMembersOf, Config.default]
  rfl

/-! ## The client's check -/

/-- `validate_for_client`. -/
def validateForClient (crate : UuidCrate) (config : ConfigFile.Config) : Except String Unit :=
  if config.server.isEmpty then .error "'server' is required"
  else if ':' ∉ config.server.toList then .error "'server' must be in host:port format"
  else if config.uuid.isEmpty then .error "'uuid' is required"
  else match crate.parseStr config.uuid with
  | none => .error ("invalid uuid '" ++ config.uuid ++ "': " ++ crate.errorText config.uuid)
  | some _ =>
      if config.password.isEmpty then .error "'password' is required"
      else if config.listen.isEmpty ∧ config.forward = ∅ then
        .error "'listen' or 'forward' is required"
      else if ¬config.listen.isEmpty ∧ ':' ∉ config.listen.toList then
        .error "'listen' must be in host:port format"
      else .ok ()

section Admission

variable {crate : UuidCrate} {pathExists : String → Bool} {config : ConfigFile.Config}
  {checked order : List (String × String)}

/-- An accepted server names its port and has users. -/
theorem listen_of_accepted (accepted : validateForServer crate pathExists config checked = .ok ()) :
    config.listen.isEmpty = false ∧ ':' ∈ config.listen.toList ∧ config.users ≠ ∅ := by
  unfold validateForServer at accepted
  split at accepted
  next => cases accepted
  next given =>
    split at accepted
    next => cases accepted
    next port =>
      split at accepted
      next => cases accepted
      next users => exact ⟨by simpa using given, by simpa using port, users⟩

theorem user_of_validateUser {entry : String × String}
    (accepted : validateUser crate entry = .ok ()) :
    (∃ uuid, crate.parseStr entry.1 = some uuid) ∧ entry.2.isEmpty = false := by
  refine ⟨parseStr_of_validateUser accepted, ?_⟩
  unfold validateUser at accepted
  cases parsed : crate.parseStr entry.1 with
  | none =>
      simp only [parsed] at accepted
      cases accepted
  | some uuid =>
      simp only [parsed] at accepted
      split at accepted
      next => cases accepted
      next given => simpa using given

/-- A configuration with users has a first one in any order of them. -/
theorem first_of_enumerates (iterated : Enumerates order config.users)
    (users : config.users ≠ ∅) : ∃ user rest, order = user :: rest := by
  cases order with
  | cons user rest => exact ⟨user, rest, rfl⟩
  | nil =>
      refine absurd (Finmap.ext_lookup fun id => ?_) users
      cases found : config.users.lookup id with
      | none => rw [Finmap.lookup_empty]
      | some password => exact absurd ((iterated.mem_iff id password).mpr found) List.not_mem_nil

theorem colon_anyAddress (socksPort : UInt16) :
    (anyAddress socksPort).isEmpty = false ∧ ':' ∈ (anyAddress socksPort).toList := by
  constructor
  · simp [anyAddress]
  · simp [anyAddress]

theorem validateForClient_clientOf (strict : crate.parseStr "" = none) {user : String × String}
    (socksPort : UInt16) (accepted : validateForServer crate pathExists config checked = .ok ())
    (known : validateUser crate user = .ok ()) :
    validateForClient crate (clientOf config user socksPort) = .ok () := by
  obtain ⟨given, port, -⟩ := listen_of_accepted accepted
  obtain ⟨⟨uuid, parsed⟩, password⟩ := user_of_validateUser known
  obtain ⟨listens, colon⟩ := colon_anyAddress socksPort
  have named : user.1.isEmpty = false := by
    cases empty : user.1.isEmpty with
    | false => rfl
    | true =>
        rw [String.isEmpty_iff.mp empty, strict] at parsed
        cases parsed
  simp [validateForClient, clientOf, given, port, named, parsed, password, listens, colon]

/-- The client of a user is let in, unless his UUID is given another password. -/
theorem handleAuth_of_onePassword (single : OnePassword crate config.users)
    (listed : Enumerates checked config.users)
    (accepted : validateForServer crate pathExists config checked = .ok ())
    {id password : String} (key : config.users.lookup id = some password) {uuid : Uuid}
    (spelled : crate.parseStr id = some uuid) {table : Table Uuid String}
    (iterated : Enumerates order config.users) (built : newUsers crate order = .ok table)
    {genToken : Uuid → String → Except String Token} {token : Token}
    (made : genToken uuid password = .ok token) :
    handleAuth crate genToken table ⟨protocolVersion, authenticateType, uuid, token⟩ =
      .ok uuid := by
  have parsed : ∀ entry ∈ order, ∃ uuid, crate.parseStr entry.1 = some uuid :=
    fun entry member => parseStr_of_accepted listed accepted ((iterated.mem_iff _ _).mp member)
  obtain ⟨users, same, kept⟩ := newUsers_ok parsed
  obtain rfl := Except.ok.inj (built.symm.trans same)
  obtain ⟨holder, member, named, found⟩ :=
    kept (id, password) ((iterated.mem_iff id password).mpr key) uuid spelled
  have own : password = holder.2 :=
    single id holder.1 password holder.2 uuid key ((iterated.mem_iff _ _).mp member) spelled named
  rw [← own] at found
  exact handleAuth_ok found made

end Admission

/-- A server and a client that are started with the two exports of an accepted configuration
are both accepted, and the server lets the client in, unless a UUID is given two passwords;
in whatever order the users are iterated, each time. -/
theorem exports_work (crate : UuidCrate) (strict : crate.parseStr "" = none)
    (pathExists : String → Bool) (json : SerdeJson) (config : ConfigFile.Config)
    (checked order : List (String × String)) (listed : Enumerates checked config.users)
    (iterated : Enumerates order config.users)
    (accepted : validateForServer crate pathExists config checked = .ok ())
    (socksPort : UInt16) (serverFaithful : json.Faithful (serverMembers config))
    (clientFaithful : ∀ user ∈ order, json.Faithful (clientMembersOf config user socksPort)) :
    ∃ text server client,
      Config.fromStr json (toServerJson json config) = some server ∧
      validateForServer crate pathExists server checked = .ok () ∧
      toClientJsonFromServer json config order socksPort = .ok text ∧
      Config.fromStr json text = some client ∧
      validateForClient crate client = .ok () ∧
      (OnePassword crate config.users →
        ∃ uuid, crate.parseStr client.uuid = some uuid ∧
          ∀ entries table, Enumerates entries server.users → newUsers crate entries = .ok table →
            ∀ genToken token, genToken uuid client.password = .ok token →
              handleAuth crate genToken table
                ⟨protocolVersion, authenticateType, uuid, token⟩ = .ok uuid) := by
  obtain ⟨user, rest, rfl⟩ := first_of_enumerates iterated (listen_of_accepted accepted).2.2
  have key : config.users.lookup user.1 = some user.2 :=
    (iterated.mem_iff user.1 user.2).mp List.mem_cons_self
  have known : validateUser crate user = .ok () :=
    forM_ok (users_of_validateForServer accepted) user ((listed.mem_iff user.1 user.2).mpr key)
  refine ⟨_, serverExported config, clientOf config user socksPort,
    fromStr_toServerJson serverFaithful, accepted, rfl, ?_,
    validateForClient_clientOf strict socksPort accepted known, fun single => ?_⟩
  · unfold Config.fromStr
    rw [clientFaithful user List.mem_cons_self, Option.bind_some, deserialize_clientMembersOf]
  · obtain ⟨⟨uuid, spelled⟩, -⟩ := user_of_validateUser known
    exact ⟨uuid, spelled, fun entries table enumerated built genToken token made =>
      handleAuth_of_onePassword single listed accepted key spelled enumerated built made⟩

/-! ## One user -/

def userMembers : StringMap JsonValue := clientMembersOf (serverOf oneUser) (lowerKey, "one") 1080

def userServerMembers : StringMap JsonValue := serverMembers (serverOf oneUser)

/-- `serde_json` for the two exports of a server with one user. -/
def userJson : SerdeJson where
  toStringPretty := fun members => if members = userMembers then "client" else "server"
  fromStr := fun text =>
    if text = "client" then some userMembers
    else if text = "server" then some userServerMembers
    else none

theorem userJson_faithful :
    userJson.Faithful userMembers ∧ userJson.Faithful userServerMembers := by
  have different : userServerMembers ≠ userMembers := by decide +kernel
  constructor
  · show (userJson.fromStr (if userMembers = userMembers then "client" else "server")) = _
    rw [if_pos rfl]
    rfl
  · show (userJson.fromStr (if userServerMembers = userMembers then "client" else "server")) = _
    rw [if_neg different]
    rfl

theorem onePassword_oneUser : OnePassword uuidCrate oneUser := by
  intro id other password secret uuid key twin _ _
  have mine := (enumerates_oneUser.mem_iff id password).mpr key
  have theirs := (enumerates_oneUser.mem_iff other secret).mpr twin
  rw [List.mem_singleton] at mine theirs
  exact (Prod.mk.inj mine).2.trans (Prod.mk.inj theirs).2.symm

theorem exports_work_oneUser :
    ∃ text server client,
      toClientJsonFromServer userJson (serverOf oneUser) [(lowerKey, "one")] 1080 = .ok text ∧
      Config.fromStr userJson (toServerJson userJson (serverOf oneUser)) = some server ∧
      Config.fromStr userJson text = some client ∧
      validateForClient uuidCrate client = .ok () ∧
      ∃ uuid, uuidCrate.parseStr client.uuid = some uuid := by
  obtain ⟨text, server, client, served, -, exported, read, accepted, admitted⟩ :=
    exports_work uuidCrate (by decide +kernel) (fun _ => true) userJson (serverOf oneUser)
      [(lowerKey, "one")] [(lowerKey, "one")] enumerates_oneUser enumerates_oneUser
      (by decide +kernel) 1080 userJson_faithful.2 fun user member => by
        rw [List.mem_singleton.mp member]
        exact userJson_faithful.1
  obtain ⟨uuid, spelled, -⟩ := admitted onePassword_oneUser
  exact ⟨text, server, client, exported, served, read, accepted, uuid, spelled⟩

theorem serverJson_iff_oneUser :
    ∃ parsed, Config.fromStr userJson (toServerJson userJson (serverOf oneUser)) = some parsed ∧
      serverPart parsed = serverPart (serverOf oneUser) :=
  (serverJson_iff userJson (serverOf oneUser) userJson_faithful.2).mpr ⟨rfl, rfl, rfl, rfl⟩

end Juicity.Server.Export
