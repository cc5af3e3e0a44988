import Juicity.Common.CachedAddr
import Juicity.Machine.Base64
import Juicity.Machine.Run
import Juicity.Machine.Stamped

/-!
Owns `ReloadingCertificateResolver` of `server/src/server.rs` between two file
operations: `new` and the `reload` calls, one at a time, while the two files are
replaced or removed at any moment. The PEM reader and the check of a pair are
not the repository's; they are parameters, and nothing is assumed of them.
Whatever the interleaving, the cache holds an accepted pair, a failed call
leaves it as it was, and a call that no replacement overlapped and that returns
`Ok` leaves the pair on disk in it.
-/

namespace Juicity.Server.CertReload

open Juicity.Common
open Juicity.Machine

/-- `rustls_pemfile::Item`. -/
inductive Item where
  | pkcs1Key (key : Bytes)
  | pkcs8Key (key : Bytes)
  | sec1Key (key : Bytes)
  | other
deriving DecidableEq

/-- `PrivateKeyDer`. -/
inductive PrivateKeyDer where
  | pkcs1 (key : Bytes)
  | pkcs8 (key : Bytes)
  | sec1 (key : Bytes)
deriving DecidableEq

/-- The paths, what `rustls_pemfile` makes of a file (`items` are the results of
`read_one` one after the other), and `CertifiedKey::from_der` with its provider. -/
structure Setting (CertifiedKey : Type) where
  certPath : String
  keyPath : String
  certs : Bytes → Except String (List Bytes)
  items : Bytes → List (Except String Item)
  fromDer : List Bytes → PrivateKeyDer → Except String CertifiedKey

/-- The loop of `load_private_key`. -/
def firstKey : List (Except String Item) → Except String (Option PrivateKeyDer)
  | [] => .ok none
  | .error error :: _ => .error error
  | .ok (.pkcs1Key key) :: _ => .ok (some (.pkcs1 key))
  | .ok (.pkcs8Key key) :: _ => .ok (some (.pkcs8 key))
  | .ok (.sec1Key key) :: _ => .ok (some (.sec1 key))
  | .ok .other :: rest => firstKey rest

abbrev SystemTime := Nat

abbrev File := Source SystemTime Bytes

structure CachedCertificate (CertifiedKey : Type) where
  key : CertifiedKey
  modified : SystemTime × SystemTime

/-- Where the call stands; a call without a cache is `new`. -/
inductive Pc (CertifiedKey : Type) where
  | idle
  | statCert
  | statKey (cert : SystemTime)
  | loadCerts (modified : SystemTime × SystemTime)
  | loadKey (modified : SystemTime × SystemTime) (certs : List Bytes)
  | publishing (modified : SystemTime × SystemTime) (key : CertifiedKey)

/-- Ghosts: `outcome` is the result of the last call, once it has returned,
`before` the cache it began with, and `undisturbed` says that no file was
replaced or removed since it began. -/
structure State (CertifiedKey : Type) where
  cert : File
  key : File
  cached : Option (CachedCertificate CertifiedKey)
  pc : Pc CertifiedKey
  outcome : Option (Except String Unit)
  before : Option (CachedCertificate CertifiedKey)
  undisturbed : Bool

variable {CertifiedKey : Type}

/-- The files before the server starts. -/
def initial (CertifiedKey : Type) (cert key : File) : State CertifiedKey :=
  ⟨cert, key, none, .idle, none, none, false⟩

namespace Setting

variable (setting : Setting CertifiedKey)

/-- `load_private_key`. -/
def loadPrivateKey (content : Bytes) : Except String PrivateKeyDer :=
  match firstKey (setting.items content) with
  | .ok (some key) => .ok key
  | .ok none => .error ("no private key found in " ++ setting.keyPath)
  | .error error => .error error

/-- The pair that two file contents make. -/
def pair (cert key : Bytes) : Except String CertifiedKey := do
  let certs ← setting.certs cert
  let key ← setting.loadPrivateKey key
  setting.fromDer certs key

end Setting

namespace State

variable (state : State CertifiedKey)

/-- The call returns. -/
def finish (outcome : Except String Unit) : State CertifiedKey :=
  { state with pc := .idle, outcome := some outcome }

/-- `modified` of the key file; a reload stops here when both stamps are cached. -/
def statKey (cert key : SystemTime) : State CertifiedKey :=
  match state.cached with
  | some cached =>
      if cached.modified = (cert, key) then state.finish (.ok ())
      else { state with pc := .loadCerts (cert, key) }
  | none => { state with pc := .loadCerts (cert, key) }

/-- The next file operation of the call, when it succeeds. -/
def proceed (setting : Setting CertifiedKey) : Option (State CertifiedKey) :=
  match state.pc with
  | .idle => none
  | .statCert =>
      state.cert.stamp?.map fun cert => { state with pc := .statKey cert }
  | .statKey cert => state.key.stamp?.map fun key => state.statKey cert key
  | .loadCerts modified =>
      state.cert.content?.map fun content =>
        match setting.certs content with
        | .ok certs => { state with pc := .loadKey modified certs }
        | .error error => state.finish (.error error)
  | .loadKey modified certs =>
      state.key.content?.map fun content =>
        match setting.loadPrivateKey content with
        | .ok key =>
            match setting.fromDer certs key with
            | .ok key => { state with pc := .publishing modified key }
            | .error error => state.finish (.error error)
        | .error error => state.finish (.error error)
  | .publishing modified key =>
      some { state.finish (.ok ()) with cached := some ⟨key, modified⟩ }

end State

/-- `unreadable` is a file operation that fails, as it does on a missing file. -/
inductive Action where
  | begin
  | proceed
  | unreadable (error : String)
  | replaceCert (version : Version SystemTime Bytes)
  | replaceKey (version : Version SystemTime Bytes)
  | removeCert
  | removeKey

def step (setting : Setting CertifiedKey) (state : State CertifiedKey) :
    Action → Option (State CertifiedKey)
  | .begin =>
      match state.pc with
      | .idle =>
          some { state with
            pc := .statCert
            outcome := none
            before := state.cached
            undisturbed := true }
      | _ => none
  | .proceed => state.proceed setting
  | .unreadable error =>
      match state.pc with
      | .statCert | .statKey _ | .loadCerts _ | .loadKey _ _ => some (state.finish (.error error))
      | _ => none
  | .replaceCert version =>
      if version.stamp ∈ state.cert.past then none
      else some { state with cert := state.cert.replace version, undisturbed := false }
  | .replaceKey version =>
      if version.stamp ∈ state.key.past then none
      else some { state with key := state.key.replace version, undisturbed := false }
  | .removeCert => some { state with cert := state.cert.remove, undisturbed := false }
  | .removeKey => some { state with key := state.key.remove, undisturbed := false }

/-! ## What the README promises -/

/-- The key is the pair of the two files. -/
def OnDisk (setting : Setting CertifiedKey) (state : State CertifiedKey) (key : CertifiedKey) :
    Prop :=
  ∃ cert keyFile, state.cert.content? = some cert ∧ state.key.content? = some keyFile ∧
    setting.pair cert keyFile = .ok key

structure Reliable (setting : Setting CertifiedKey) (state : State CertifiedKey) : Prop where
  accepted : ∀ cached, state.cached = some cached →
    ∃ certs key, setting.fromDer certs key = .ok cached.key
  unchanged : ∀ error, state.outcome = some (.error error) → state.cached = state.before
  converged : state.outcome = some (.ok ()) → state.undisturbed = true →
    ∃ cached, state.cached = some cached ∧ OnDisk setting state cached.key

/-! ## The invariant -/

/-- The key was made of contents that are the current ones as long as the stamps are. -/
def MadeOf (setting : Setting CertifiedKey) (cert key : File)
    (modified : SystemTime × SystemTime) (made : CertifiedKey) : Prop :=
  ∃ certs private_, setting.fromDer certs private_ = .ok made ∧
    cert.Reads modified.1 (fun content => setting.certs content = .ok certs) ∧
    key.Reads modified.2 (fun content => setting.loadPrivateKey content = .ok private_)

/-- What the call knows of the files. -/
def Holds (setting : Setting CertifiedKey) (cert key : File) : Pc CertifiedKey → Prop
  | .idle | .statCert => True
  | .statKey stamp => stamp ∈ cert.past
  | .loadCerts modified => modified.1 ∈ cert.past ∧ modified.2 ∈ key.past
  | .loadKey modified certs =>
      cert.Reads modified.1 (fun content => setting.certs content = .ok certs) ∧
        modified.2 ∈ key.past
  | .publishing modified made => MadeOf setting cert key modified made

/-- The stamps the call has asked for are still those of the files. -/
def Current (cert key : File) : Pc CertifiedKey → Prop
  | .idle | .statCert => True
  | .statKey stamp => cert.stamp? = some stamp
  | .loadCerts modified | .loadKey modified _ | .publishing modified _ =>
      cert.stamp? = some modified.1 ∧ key.stamp? = some modified.2

structure Inv (setting : Setting CertifiedKey) (state : State CertifiedKey) : Prop where
  cached : ∀ cached, state.cached = some cached →
    MadeOf setting state.cert state.key cached.modified cached.key
  holds : Holds setting state.cert state.key state.pc
  current : state.undisturbed = true → Current state.cert state.key state.pc
  running : ∀ outcome, state.outcome = some outcome → state.pc = .idle
  kept : state.pc ≠ .idle ∨ (∃ error, state.outcome = some (.error error)) →
    state.cached = state.before
  converged : state.outcome = some (.ok ()) → state.undisturbed = true →
    ∃ cached, state.cached = some cached ∧ OnDisk setting state cached.key

variable {setting : Setting CertifiedKey} {state after : State CertifiedKey} {cert key : File}

theorem Inv.reliable (inv : Inv setting state) : Reliable setting state where
  accepted := by
    intro cached here
    obtain ⟨certs, private_, made, -⟩ := inv.cached cached here
    exact ⟨certs, private_, made⟩
  unchanged := fun error failed => inv.kept (.inr ⟨error, failed⟩)
  converged := inv.converged

theorem inv_initial : Inv setting (initial CertifiedKey cert key) where
  cached := by simp [initial]
  holds := trivial
  current := by simp [initial]
  running := by simp [initial]
  kept := fun _ => rfl
  converged := by simp [initial]

/-- A key made of contents whose stamps are current is the pair on disk. -/
theorem MadeOf.onDisk {modified : SystemTime × SystemTime} {made : CertifiedKey}
    (madeOf : MadeOf setting state.cert state.key modified made)
    (certStamp : state.cert.stamp? = some modified.1)
    (keyStamp : state.key.stamp? = some modified.2) : OnDisk setting state made := by
  obtain ⟨certs, private_, accepts, certReads, keyReads⟩ := madeOf
  obtain ⟨certContent, certHere, parsed⟩ := certReads.current certStamp
  obtain ⟨keyContent, keyHere, loaded⟩ := keyReads.current keyStamp
  refine ⟨certContent, keyContent, certHere, keyHere, ?_⟩
  simp only [Setting.pair, parsed, loaded]
  exact accepts

/-! ## Steps -/

/-- The call moves on with what it knows; the files and the cache stay. -/
theorem Inv.moved (inv : Inv setting state) {pc : Pc CertifiedKey} (here : state.pc ≠ .idle)
    (holds : Holds setting state.cert state.key pc)
    (current : state.undisturbed = true → Current state.cert state.key pc) :
    Inv setting { state with pc := pc } := by
  have silent : state.outcome = none := by
    cases outcome : state.outcome with
    | none => rfl
    | some result => exact absurd (inv.running result outcome) here
  exact {
    cached := inv.cached
    holds := holds
    current := current
    running := fun outcome returned => by
      change state.outcome = some outcome at returned
      rw [silent] at returned
      cases returned
    kept := fun _ => inv.kept (.inl here)
    converged := inv.converged }

/-- The call fails; the cache is the one it began with. -/
theorem Inv.failed (inv : Inv setting state) (here : state.pc ≠ .idle) (error : String) :
    Inv setting (state.finish (.error error)) where
  cached := inv.cached
  holds := trivial
  current := fun _ => trivial
  running := fun _ _ => rfl
  kept := fun _ => inv.kept (.inl here)
  converged := fun returned => by cases returned

/-- A reload finds both stamps in the cache. -/
theorem Inv.upToDate (inv : Inv setting state) {cached : CachedCertificate CertifiedKey}
    (held : state.cached = some cached)
    (stamps : state.undisturbed = true → state.cert.stamp? = some cached.modified.1 ∧
      state.key.stamp? = some cached.modified.2) : Inv setting (state.finish (.ok ())) where
  cached := inv.cached
  holds := trivial
  current := fun _ => trivial
  running := fun _ _ => rfl
  kept := by
    rintro (busy | ⟨error, failed⟩)
    · exact absurd rfl busy
    · cases failed
  converged := by
    intro _ quiet
    obtain ⟨certStamp, keyStamp⟩ := stamps quiet
    exact ⟨cached, held, (inv.cached cached held).onDisk certStamp keyStamp⟩

theorem Inv.statKey (inv : Inv setting state) {certStamp keyStamp : SystemTime}
    (here : state.pc = .statKey certStamp) (asked : state.key.stamp? = some keyStamp) :
    Inv setting (state.statKey certStamp keyStamp) := by
  have known : certStamp ∈ state.cert.past := by
    have holds := inv.holds
    rw [here] at holds
    exact holds
  have current : state.undisturbed = true → state.cert.stamp? = some certStamp := by
    have current := inv.current
    rw [here] at current
    exact current
  have goesOn : Inv setting { state with pc := .loadCerts (certStamp, keyStamp) } :=
    inv.moved (by simp [here]) ⟨known, Source.mem_past_of_stamp asked⟩
      fun quiet => ⟨current quiet, asked⟩
  unfold State.statKey
  split
  · rename_i cached held
    split
    · rename_i same
      apply inv.upToDate held
      rw [same]
      exact fun quiet => ⟨current quiet, asked⟩
    · exact goesOn
  · exact goesOn

theorem Inv.loadCerts (inv : Inv setting state) {modified : SystemTime × SystemTime}
    {content : Bytes} {certs : List Bytes} (here : state.pc = .loadCerts modified)
    (read : state.cert.content? = some content) (parsed : setting.certs content = .ok certs) :
    Inv setting { state with pc := .loadKey modified certs } := by
  have holds := inv.holds
  have current := inv.current
  rw [here] at holds current
  exact inv.moved (by simp [here])
    ⟨Source.reads_of_content holds.1 read parsed, holds.2⟩ current

theorem Inv.loadKey (inv : Inv setting state) {modified : SystemTime × SystemTime}
    {certs : List Bytes} {content : Bytes} {private_ : PrivateKeyDer} {made : CertifiedKey}
    (here : state.pc = .loadKey modified certs) (read : state.key.content? = some content)
    (loaded : setting.loadPrivateKey content = .ok private_)
    (accepts : setting.fromDer certs private_ = .ok made) :
    Inv setting { state with pc := .publishing modified made } := by
  have holds := inv.holds
  have current := inv.current
  rw [here] at holds current
  exact inv.moved (by simp [here])
    ⟨certs, private_, accepts, holds.1, Source.reads_of_content holds.2 read loaded⟩ current

theorem Inv.published (inv : Inv setting state) {modified : SystemTime × SystemTime}
    {made : CertifiedKey} (here : state.pc = .publishing modified made) :
    Inv setting { state.finish (.ok ()) with cached := some ⟨made, modified⟩ } := by
  have madeOf : MadeOf setting state.cert state.key modified made := by
    have holds := inv.holds
    rw [here] at holds
    exact holds
  have stamps : state.undisturbed = true → state.cert.stamp? = some modified.1 ∧
      state.key.stamp? = some modified.2 := by
    have current := inv.current
    rw [here] at current
    exact current
  constructor
  case cached =>
    intro cached same
    obtain rfl := Option.some.inj same
    exact madeOf
  case holds => trivial
  case current => exact fun _ => trivial
  case running => exact fun _ _ => rfl
  case kept =>
    rintro (busy | ⟨error, failed⟩)
    · exact absurd rfl busy
    · cases failed
  case converged =>
    intro _ quiet
    exact ⟨_, rfl, madeOf.onDisk (stamps quiet).1 (stamps quiet).2⟩

theorem Inv.proceed (inv : Inv setting state) (taken : state.proceed setting = some after) :
    Inv setting after := by
  unfold State.proceed at taken
  cases here : state.pc with
  | idle => simp [here] at taken
  | statCert =>
      simp only [here] at taken
      obtain ⟨stamp, asked, rfl⟩ := Option.map_eq_some_iff.mp taken
      exact inv.moved (by simp [here]) (Source.mem_past_of_stamp asked) fun _ => asked
  | statKey certStamp =>
      simp only [here] at taken
      obtain ⟨keyStamp, asked, rfl⟩ := Option.map_eq_some_iff.mp taken
      exact inv.statKey here asked
  | loadCerts modified =>
      simp only [here] at taken
      obtain ⟨content, read, rfl⟩ := Option.map_eq_some_iff.mp taken
      split
      · rename_i certs parsed
        exact inv.loadCerts here read parsed
      · exact inv.failed (by simp [here]) _
  | loadKey modified certs =>
      simp only [here] at taken
      obtain ⟨content, read, rfl⟩ := Option.map_eq_some_iff.mp taken
      split
      · rename_i private_ loaded
        split
        · rename_i made accepts
          exact inv.loadKey here read loaded accepts
        · exact inv.failed (by simp [here]) _
      · exact inv.failed (by simp [here]) _
  | publishing modified made =>
      simp only [here, Option.some.injEq] at taken
      subst taken
      exact inv.published here

/-- A file changes: what was read of the old version stays read of no current one. -/
theorem Inv.disturbed (inv : Inv setting state) {cert key : File}
    (certReads : ∀ stamp (holds : Bytes → Prop), state.cert.Reads stamp holds →
      cert.Reads stamp holds)
    (keyReads : ∀ stamp (holds : Bytes → Prop), state.key.Reads stamp holds →
      key.Reads stamp holds)
    (certPast : ∀ stamp ∈ state.cert.past, stamp ∈ cert.past)
    (keyPast : ∀ stamp ∈ state.key.past, stamp ∈ key.past) :
    Inv setting { state with cert := cert, key := key, undisturbed := false } := by
  have madeOf : ∀ modified made, MadeOf setting state.cert state.key modified made →
      MadeOf setting cert key modified made := by
    rintro modified made ⟨certs, private_, accepts, certRead, keyRead⟩
    exact ⟨certs, private_, accepts, certReads _ _ certRead, keyReads _ _ keyRead⟩
  constructor
  case cached => exact fun cached held => madeOf _ _ (inv.cached cached held)
  case holds =>
    have holds := inv.holds
    show Holds setting cert key state.pc
    cases here : state.pc with
    | idle | statCert => trivial
    | statKey stamp =>
        rw [here] at holds
        exact certPast stamp holds
    | loadCerts modified =>
        rw [here] at holds
        exact ⟨certPast _ holds.1, keyPast _ holds.2⟩
    | loadKey modified certs =>
        rw [here] at holds
        exact ⟨certReads _ _ holds.1, keyPast _ holds.2⟩
    | publishing modified made =>
        rw [here] at holds
        exact madeOf _ _ holds
  case current => exact fun quiet => by cases quiet
  case running => exact inv.running
  case kept => exact inv.kept
  case converged => exact fun _ quiet => by cases quiet

theorem Inv.preserved {action : Action} (inv : Inv setting state)
    (taken : step setting state action = some after) : Inv setting after := by
  have cons : ∀ (file : File) (version : Version SystemTime Bytes),
      ∀ stamp ∈ file.past, stamp ∈ (file.replace version).past :=
    fun _ _ stamp member => List.mem_cons_of_mem _ member
  have same : ∀ (file : File) stamp (holds : Bytes → Prop), file.Reads stamp holds →
      file.Reads stamp holds := fun _ _ _ reads => reads
  cases action with
  | begin =>
      simp only [step] at taken
      split at taken
      · obtain rfl := Option.some.inj taken
        exact ⟨inv.cached, trivial, fun _ => trivial, by simp, fun _ => rfl, by simp⟩
      · cases taken
  | proceed => exact inv.proceed taken
  | unreadable error =>
      simp only [step] at taken
      split at taken
      case h_5 => cases taken
      all_goals
        rename_i here
        obtain rfl := Option.some.inj taken
        exact inv.failed (by simp [here]) error
  | replaceCert version =>
      simp only [step] at taken
      split at taken
      · cases taken
      · rename_i fresh
        obtain rfl := Option.some.inj taken
        exact inv.disturbed (fun _ _ reads => reads.replace fresh) (same _) (cons _ _)
          fun _ member => member
  | replaceKey version =>
      simp only [step] at taken
      split at taken
      · cases taken
      · rename_i fresh
        obtain rfl := Option.some.inj taken
        exact inv.disturbed (same _) (fun _ _ reads => reads.replace fresh)
          (fun _ member => member) (cons _ _)
  | removeCert =>
      obtain rfl := Option.some.inj taken
      exact inv.disturbed (fun _ _ reads => reads.remove) (same _) (fun _ member => member)
        fun _ member => member
  | removeKey =>
      obtain rfl := Option.some.inj taken
      exact inv.disturbed (same _) (fun _ _ reads => reads.remove) (fun _ member => member)
        fun _ member => member

/-- In every state of every interleaving the cached pair was accepted, a call
that returned an error left the cache as it was, and one that returned `Ok` with
no replacement since it began left the pair on disk in the cache. -/
theorem reload_reliable (setting : Setting CertifiedKey) (cert key : File) :
    ∀ state, Reachable (step setting) (initial CertifiedKey cert key) state →
      Reliable setting state := by
  intro state reached
  have inv : Inv setting state :=
    reached.invariant inv_initial fun _ _ _ inv taken => inv.preserved taken
  exact inv.reliable

/-! ## A renewal that overlaps the start -/

/-- The lines of a PEM block. -/
def pemFile (label : String) (lines : List String) : Bytes :=
  utf8 ("-----BEGIN " ++ label ++ "-----\n" ++ String.join (lines.map (· ++ "\n")) ++
    "-----END " ++ label ++ "-----\n")

/-- The bytes of a PEM block. -/
def pemBytes (lines : List String) : Bytes :=
  (Base64.decode Base64.standard true (String.join lines).toList).getD []

/-- A self-signed Ed25519 certificate. -/
def certLines : List String :=
  ["MIIBLDCB36ADAgECAhQGl+HiAELURdF79LMPqKEHDC76BzAFBgMrZXAwDDEKMAgG",
    "A1UEAwwBYTAeFw0yNjExMTkwNDE0MjNaFw0zNjExMTYwNDE0MjNaMAwxCjAIBgNV",
    "BAMMAWEwKjAFBgMrZXADIQBheW+xNZlGvzAEzy4X0AkTcQTbl+1fqRj02MjoRrPd",
    "H6NTMFEwHQYDVR0OBBYEFM4fhZTXVH6SfbyHyOP/2gKAG2e6MB8GA1UdIwQYMBaA",
    "FM4fhZTXVH6SfbyHyOP/2gKAG2e6MA8GA1UdEwEB/wQFMAMBAf8wBQYDK2VwA0EA",
    "WlmIpVvdZn78DOdV3AIZiniRXoq77z1kqdmergmqCPppomD21WDNiwqBtIButr3J",
    "3znybSrNMEC8ZbdxpvTmBw=="]

/-- The private key of `certLines`. -/
def keyLines : List String :=
  ["MC4CAQAwBQYDK2VwBCIEIKxY6ui3k5UrRPu4wOWsU/kjD3fkrz7ZedVZdFnzL3Kv"]

/-- The PEM reader and the pair check on the two files above and on empty ones. -/
def sampleSetting : Setting (List Bytes × PrivateKeyDer) where
  certPath := "fullchain.pem"
  keyPath := "private.key"
  certs content :=
    if content = pemFile "CERTIFICATE" certLines then .ok [pemBytes certLines] else .ok []
  items content :=
    if content = pemFile "PRIVATE KEY" keyLines then [.ok (.pkcs8Key (pemBytes keyLines))] else []
  fromDer certs key := if certs.isEmpty then .error "no certificates" else .ok (certs, key)

/-- The server starts on the pair; the certificate is replaced by an empty file
and put back while a reload runs, which fails, and the next reload succeeds. -/
def renewal : List Action :=
  let start := Action.begin :: List.replicate 5 Action.proceed
  start ++
    [.begin, .replaceCert ⟨2, []⟩, .proceed, .proceed, .proceed, .replaceCert
      ⟨3, pemFile "CERTIFICATE" certLines⟩, .proceed] ++ start

theorem reload_reliable_renewal :
    ∃ state, Reachable (step sampleSetting)
        (initial _ (.new ⟨1, pemFile "CERTIFICATE" certLines⟩)
          (.new ⟨1, pemFile "PRIVATE KEY" keyLines⟩)) state ∧
      state.undisturbed = true ∧ state.outcome.any (·.isOk) = true ∧
      Reliable sampleSetting state := by
  have executed : (exec (step sampleSetting)
      (initial _ (.new ⟨1, pemFile "CERTIFICATE" certLines⟩)
        (.new ⟨1, pemFile "PRIVATE KEY" keyLines⟩)) renewal).any (fun state =>
          state.undisturbed && state.outcome.any (·.isOk)) = true := by
    decide +kernel
  obtain ⟨state, ended, facts⟩ := (Option.any_eq_true _ _).mp executed
  obtain ⟨quiet, ok⟩ := Bool.and_eq_true_iff.mp facts
  have reached := reachable_of_exec ended
  exact ⟨state, reached, quiet, ok, reload_reliable sampleSetting _ _ state reached⟩

end Juicity.Server.CertReload
