import Juicity.Common.ConfigFile
import Juicity.Common.Protocol
import Juicity.Machine.Hex
import Juicity.Machine.Table
import Mathlib.Data.List.Induction

/-!
Owns the users of a server: the users' part of `validate_for_server` of
`common/src/config.rs`, the table `JuicityServer::new` builds and its lookup in
`handle_auth` of `server/src/server.rs`. The `uuid` crate, the file system and
the TLS exporter are parameters. An order in which a `HashMap` is iterated is a
list of its entries. A UUID has several spellings, and the table keeps one
password of it: each user has his own exactly when no UUID is given two.
-/

namespace Juicity.Server.Users

open Juicity.Common Juicity.Common.ConfigFile Juicity.Machine

/-- The `uuid` crate. -/
structure UuidCrate where
  /-- `Uuid::parse_str`. -/
  parseStr : String → Option Uuid
  /-- The error of `parse_str`, as it is printed. -/
  errorText : String → String
  /-- `Uuid` as it is printed. -/
  display : Uuid → String

/-- A list of the entries of a map, each of them once. -/
structure Enumerates (order : List (String × String)) (users : StringMap String) : Prop where
  mem_iff : ∀ id password, (id, password) ∈ order ↔ users.lookup id = some password
  nodup : order.Nodup

variable (crate : UuidCrate)

/-! ## The configuration -/

def validateUser : String × String → Except String Unit
  | (id, password) =>
      match crate.parseStr id with
      | none => .error ("invalid user uuid '" ++ id ++ "': " ++ crate.errorText id)
      | some _ =>
          if password.isEmpty then .error ("password for user '" ++ id ++ "' is required")
          else .ok ()

def validateFiles (pathExists : String → Bool) (config : ConfigFile.Config) : Except String Unit :=
  if config.certificate.isEmpty then .error "'certificate' is required"
  else if ¬pathExists config.certificate then
    .error ("certificate file '" ++ config.certificate ++ "' not found")
  else if config.privateKey.isEmpty then .error "'private_key' is required"
  else if ¬pathExists config.privateKey then
    .error ("private key file '" ++ config.privateKey ++ "' not found")
  else .ok ()

/-- `validate_for_server`, with the order in which it goes through the users. -/
def validateForServer (pathExists : String → Bool) (config : ConfigFile.Config)
    (order : List (String × String)) : Except String Unit :=
  if config.listen.isEmpty then .error "'listen' is required"
  else if ':' ∉ config.listen.toList then .error "'listen' must be in host:port format"
  else if config.users = ∅ then .error "'users' is required"
  else do
    order.forM (validateUser crate)
    validateFiles pathExists config

/-! ## The server -/

def insertUser (users : Table Uuid String) (entry : String × String) :
    Except String (Table Uuid String) :=
  match crate.parseStr entry.1 with
  | none => .error (crate.errorText entry.1)
  | some uuid => .ok (users.insert uuid entry.2)

/-- The table of `JuicityServer::new`, built in the order of the entries. -/
def newUsers (entries : List (String × String)) : Except String (Table Uuid String) :=
  entries.foldlM (insertUser crate) ∅

abbrev Token := Octets 32

def protocolVersion : UInt8 := 0

def authenticateType : UInt8 := 0

/-- What a client sends on its unidirectional stream. -/
structure Authenticate where
  version : UInt8
  cmdType : UInt8
  uuid : Uuid
  token : Token

/-- `handle_auth` of a message that was read whole; `genToken` is the exporter of the
connection, as `gen_token_via_connection` calls it. -/
def handleAuth (genToken : Uuid → String → Except String Token) (users : Table Uuid String)
    (message : Authenticate) : Except String Uuid := do
  if message.version ≠ protocolVersion then
    throw ("unsupported protocol version: " ++ toString message.version)
  if message.cmdType ≠ authenticateType then
    throw ("expected authenticate command, got: " ++ toString message.cmdType)
  match users.lookup message.uuid with
  | none => throw ("unknown user: " ++ crate.display message.uuid)
  | some password =>
      let expectedToken ← genToken message.uuid password
      if expectedToken = message.token then return message.uuid
      else throw ("token mismatch for user " ++ crate.display message.uuid)

/-- The table has the password of each key under the UUID of the key, and the user who sends
the token of that password is let in. -/
def Serves (users : StringMap String) (table : Table Uuid String) : Prop :=
  ∀ id password, users.lookup id = some password →
    ∃ uuid, crate.parseStr id = some uuid ∧ table.lookup uuid = some password ∧
      ∀ genToken token, genToken uuid password = .ok token →
        handleAuth crate genToken table ⟨protocolVersion, authenticateType, uuid, token⟩ =
          .ok uuid

/-- No two keys of different passwords are the same UUID. -/
def OnePassword (users : StringMap String) : Prop :=
  ∀ id other password secret uuid, users.lookup id = some password →
    users.lookup other = some secret → crate.parseStr id = some uuid →
    crate.parseStr other = some uuid → password = secret

variable {crate}

theorem parseStr_of_validateUser {entry : String × String}
    (accepted : validateUser crate entry = .ok ()) :
    ∃ uuid, crate.parseStr entry.1 = some uuid := by
  cases parsed : crate.parseStr entry.1 with
  | none => simp only [validateUser, parsed, reduceCtorEq] at accepted
  | some uuid => exact ⟨uuid, rfl⟩

theorem forM_ok {order : List (String × String)}
    (accepted : order.forM (validateUser crate) = .ok ()) :
    ∀ entry ∈ order, validateUser crate entry = .ok () := by
  induction order with
  | nil => intro entry member; cases member
  | cons first rest inductionHypothesis =>
      rw [List.forM_eq_forM, List.forM_cons, ← List.forM_eq_forM] at accepted
      cases checked : validateUser crate first with
      | error text =>
          rw [checked] at accepted
          cases accepted
      | ok valid =>
          rw [checked] at accepted
          exact List.forall_mem_cons.mpr ⟨checked, inductionHypothesis accepted⟩

theorem users_of_validateForServer {pathExists : String → Bool} {config : ConfigFile.Config}
    {order : List (String × String)}
    (accepted : validateForServer crate pathExists config order = .ok ()) :
    order.forM (validateUser crate) = .ok () := by
  unfold validateForServer at accepted
  split at accepted
  next => cases accepted
  split at accepted
  next => cases accepted
  split at accepted
  next => cases accepted
  cases checked : order.forM (validateUser crate) with
  | error text =>
      rw [checked] at accepted
      cases accepted
  | ok valid => rfl

/-- The keys of a configuration that is accepted are UUIDs. -/
theorem parseStr_of_accepted {pathExists : String → Bool} {config : ConfigFile.Config}
    {order : List (String × String)} (listed : Enumerates order config.users)
    (accepted : validateForServer crate pathExists config order = .ok ()) {id password : String}
    (key : config.users.lookup id = some password) : ∃ uuid, crate.parseStr id = some uuid :=
  parseStr_of_validateUser
    (forM_ok (users_of_validateForServer accepted) _ ((listed.mem_iff id password).mpr key))

theorem newUsers_snoc (entries : List (String × String)) (entry : String × String) :
    newUsers crate (entries ++ [entry]) =
      newUsers crate entries >>= fun users => insertUser crate users entry := by
  simp only [newUsers, List.foldlM_append, List.foldlM_cons, List.foldlM_nil, bind_pure]

/-- Where all keys are UUIDs the table has a password under each of them, and it is the
password of some key of that UUID. -/
theorem newUsers_ok {entries : List (String × String)}
    (parsed : ∀ entry ∈ entries, ∃ uuid, crate.parseStr entry.1 = some uuid) :
    ∃ table, newUsers crate entries = .ok table ∧
      ∀ entry ∈ entries, ∀ uuid, crate.parseStr entry.1 = some uuid →
        ∃ kept ∈ entries, crate.parseStr kept.1 = some uuid ∧
          table.lookup uuid = some kept.2 := by
  induction entries using List.reverseRecOn with
  | nil => exact ⟨∅, rfl, fun entry member => by cases member⟩
  | append_singleton earlier last inductionHypothesis =>
      obtain ⟨table, built, kept⟩ := inductionHypothesis fun entry member =>
        parsed entry (List.mem_append_left _ member)
      obtain ⟨key, read⟩ := parsed last (List.mem_append_right _ List.mem_cons_self)
      have extended : newUsers crate (earlier ++ [last]) = .ok (table.insert key last.2) := by
        rw [newUsers_snoc, built]
        change insertUser crate table last = _
        rw [insertUser, read]
      refine ⟨table.insert key last.2, extended, ?_⟩
      intro entry member uuid spelled
      by_cases same : uuid = key
      · subst same
        exact ⟨last, List.mem_append_right _ List.mem_cons_self, read, AList.lookup_insert _⟩
      · rcases List.mem_append.mp member with old | new
        · obtain ⟨holder, listed, named, found⟩ := kept entry old uuid spelled
          refine ⟨holder, List.mem_append_left _ listed, named, ?_⟩
          rw [AList.lookup_insert_ne same]
          exact found
        · rw [List.mem_singleton.mp new, read] at spelled
          exact absurd (Option.some.inj spelled).symm same

/-- The holder of a token of the password in the table is let in. -/
theorem handleAuth_ok {genToken : Uuid → String → Except String Token}
    {users : Table Uuid String} {uuid : Uuid} {password : String} {token : Token}
    (found : users.lookup uuid = some password) (made : genToken uuid password = .ok token) :
    handleAuth crate genToken users ⟨protocolVersion, authenticateType, uuid, token⟩ =
      .ok uuid := by
  simp only [handleAuth, ne_eq, not_true_eq_false, if_false, found, made]
  exact if_pos rfl

/-- Whatever the order of the iteration, the users of a configuration that is accepted have
their passwords exactly when no UUID is given two. -/
theorem serves_iff_onePassword (crate : UuidCrate) (pathExists : String → Bool)
    (config : ConfigFile.Config)
    {checked order : List (String × String)} (listed : Enumerates checked config.users)
    (accepted : validateForServer crate pathExists config checked = .ok ())
    (iterated : Enumerates order config.users) :
    (∃ table, newUsers crate order = .ok table ∧ Serves crate config.users table) ↔
      OnePassword crate config.users := by
  constructor
  · rintro ⟨table, _, serves⟩ id other password secret uuid key twin spelled respelled
    obtain ⟨first, named, found, _⟩ := serves id password key
    obtain ⟨second, renamed, met, _⟩ := serves other secret twin
    obtain rfl : uuid = first := Option.some.inj (spelled.symm.trans named)
    obtain rfl : uuid = second := Option.some.inj (respelled.symm.trans renamed)
    exact Option.some.inj (found.symm.trans met)
  · intro single
    have parsed : ∀ entry ∈ order, ∃ uuid, crate.parseStr entry.1 = some uuid :=
      fun entry member => parseStr_of_accepted listed accepted ((iterated.mem_iff _ _).mp member)
    obtain ⟨table, built, kept⟩ := newUsers_ok parsed
    refine ⟨table, built, fun id password key => ?_⟩
    obtain ⟨uuid, spelled⟩ := parseStr_of_accepted listed accepted key
    obtain ⟨holder, member, named, found⟩ :=
      kept (id, password) ((iterated.mem_iff id password).mpr key) uuid spelled
    have own : password = holder.2 :=
      single id holder.1 password holder.2 uuid key ((iterated.mem_iff _ _).mp member) spelled named
    rw [← own] at found
    exact ⟨uuid, spelled, found, fun genToken token made => handleAuth_ok found made⟩

/-! ## The spellings of a UUID -/

/-- The digits of a hyphenated text. -/
def unhyphenated (text : List Char) : Option (List Char) :=
  if text.length = 36 ∧ ∀ index ∈ [8, 13, 18, 23], text[index]? = some '-' then
    some (text.take 8 ++ (text.drop 9).take 4 ++ (text.drop 14).take 4 ++ (text.drop 19).take 4 ++
      text.drop 24)
  else none

/-- The digits of a text that is simple, hyphenated, braced or a URN. -/
def uuidDigits (text : List Char) : Option (List Char) :=
  if text.length = 32 then some text
  else if text.length = 38 ∧ text.head? = some '\x7b' ∧ text.getLast? = some '\x7d' then
    unhyphenated (text.drop 1).dropLast
  else if text.length = 45 ∧ text.take 9 = "urn:uuid:".toList then unhyphenated (text.drop 9)
  else unhyphenated text

/-- `Uuid::parse_str`, which takes digits of either case. -/
def parseUuid (text : String) : Option Uuid := do
  let digits ← uuidDigits text.toList
  let bytes ← Hex.decode digits
  if sized : bytes.length = 16 then some ⟨bytes, sized⟩ else none

def displayUuid (uuid : Uuid) : String :=
  let digits := Hex.encode false uuid.val
  String.ofList (digits.take 8 ++ '-' :: (digits.drop 8).take 4 ++ '-' :: (digits.drop 12).take 4 ++
    '-' :: (digits.drop 16).take 4 ++ '-' :: digits.drop 20)

/-- The crate; the texts of its errors are left out. -/
def uuidCrate : UuidCrate where
  parseStr := parseUuid
  errorText _ := ""
  display := displayUuid

theorem enumerates_empty : Enumerates [] ∅ where
  mem_iff id password := by
    rw [Finmap.lookup_empty]
    exact ⟨fun member => absurd member List.not_mem_nil, fun found => absurd found (by simp)⟩
  nodup := List.nodup_nil

theorem Enumerates.insert {order : List (String × String)} {users : StringMap String}
    (listed : Enumerates order users) {id : String} (fresh : users.lookup id = none)
    (password : String) : Enumerates ((id, password) :: order) (users.insert id password) where
  mem_iff other secret := by
    rw [List.mem_cons, listed.mem_iff, Prod.mk.injEq]
    by_cases same : other = id
    · subst same
      rw [Finmap.lookup_insert, fresh, Option.some.injEq]
      exact ⟨fun entry => by simpa [eq_comm] using entry, fun found => .inl ⟨rfl, found.symm⟩⟩
    · rw [Finmap.lookup_insert_of_ne _ same]
      exact ⟨fun entry => entry.resolve_left fun first => same first.1, .inr⟩
  nodup := by
    refine List.nodup_cons.mpr ⟨fun member => ?_, listed.nodup⟩
    rw [listed.mem_iff, fresh] at member
    cases member

/-- A server of the given users. -/
def serverOf (users : StringMap String) : ConfigFile.Config :=
  { ConfigFile.Config.default with
    listen := ":443", users := users, certificate := "cert.pem", privateKey := "key.pem" }

def lowerKey : String := "00000000-0000-0000-0000-00000000000a"

/-- The same UUID, with its digit of the other case. -/
def upperKey : String := "00000000-0000-0000-0000-00000000000A"

def oneUser : StringMap String := (∅ : StringMap String).insert lowerKey "one"

def twoSpellings : StringMap String := oneUser.insert upperKey "two"

theorem enumerates_oneUser : Enumerates [(lowerKey, "one")] oneUser :=
  enumerates_empty.insert (Finmap.lookup_empty _) "one"

theorem enumerates_twoSpellings :
    Enumerates [(upperKey, "two"), (lowerKey, "one")] twoSpellings :=
  enumerates_oneUser.insert (by decide +kernel) "two"

theorem serves_oneUser :
    (Enumerates [(lowerKey, "one")] oneUser ∧
      validateForServer uuidCrate (fun _ => true) (serverOf oneUser) [(lowerKey, "one")] =
        .ok ()) ∧
    ((∃ table, newUsers uuidCrate [(lowerKey, "one")] = .ok table ∧
      Serves uuidCrate (serverOf oneUser).users table) ↔
        OnePassword uuidCrate (serverOf oneUser).users) := by
  have accepted : validateForServer uuidCrate (fun _ => true) (serverOf oneUser)
      [(lowerKey, "one")] = .ok () := by decide +kernel
  exact ⟨⟨enumerates_oneUser, accepted⟩, serves_iff_onePassword uuidCrate (fun _ => true)
    (serverOf oneUser) enumerates_oneUser accepted enumerates_oneUser⟩

/-- Two spellings of one UUID are accepted with two passwords, and in this order of the
iteration the table keeps the second: the user of the first key is not let in with his own. -/
theorem twoSpellings_not_served :
    validateForServer uuidCrate (fun _ => true) (serverOf twoSpellings)
        [(upperKey, "two"), (lowerKey, "one")] = .ok () ∧
      Enumerates [(upperKey, "two"), (lowerKey, "one")] twoSpellings ∧
      ¬∃ table, newUsers uuidCrate [(upperKey, "two"), (lowerKey, "one")] = .ok table ∧
        Serves uuidCrate twoSpellings table := by
  refine ⟨by decide +kernel, enumerates_twoSpellings, ?_⟩
  rintro ⟨table, _, serves⟩
  have respelled : uuidCrate.parseStr upperKey = uuidCrate.parseStr lowerKey := by decide +kernel
  obtain ⟨uuid, spelled, found, _⟩ := serves lowerKey "one" (by decide +kernel)
  obtain ⟨twin, named, met, _⟩ := serves upperKey "two" (by decide +kernel)
  rw [respelled, spelled] at named
  obtain rfl : uuid = twin := Option.some.inj named
  exact absurd (Option.some.inj (found.symm.trans met)) (by decide)

end Juicity.Server.Users
