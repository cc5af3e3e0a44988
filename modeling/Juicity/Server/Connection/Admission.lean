import Juicity.Client.Socks5Reply
import Juicity.Common.LossyText
import Juicity.Server.Connection.Model

/-!
Owns who is let in: in every interleaving of what a peer does on its streams
with the steps of the server, streams are handled and underlay auths stored for
a user only once his UUID and the token of his password on this connection have
been read, and a connection is refused only for what no user could have sent.
-/

namespace Juicity.Server.Connection

open Juicity.Client (shape_of_readExact)
open Juicity.Common
open Juicity.Common.Protocol
open Juicity.Machine
open Juicity.Server.Users

/-! ## Readers -/

section Readers

theorem incremental_readExact (n : Nat) : Incremental eof (readExact n) where
  leaves := by
    intro input octets rest taken
    rw [readExact] at taken
    split at taken
    · obtain ⟨-, rfl⟩ := Prod.mk.inj (Except.ok.inj taken)
      exact List.drop_suffix n input
    · cases taken
  grows := by
    intro input octets rest more taken
    unfold readExact at taken ⊢
    split at taken
    · rename_i enough
      obtain ⟨rfl, rfl⟩ := Prod.mk.inj (Except.ok.inj taken)
      rw [dif_pos (by rw [List.length_append]; omega)]
      simp only [List.take_append_of_le_length enough, List.drop_append_of_le_length enough]
    · cases taken
  settles := by
    intro input error more failed final
    unfold readExact at failed
    split at failed
    · cases failed
    · exact absurd (Except.error.inj failed).symm final

theorem incremental_readThen {α : Type} (n : Nat) {next : Octets n → Reader α}
    (tail : ∀ octets, Incremental eof (next octets)) : Incremental eof (readExact n >>= next) :=
  (incremental_readExact n).bind tail

variable {text : AddrText}

theorem incremental_readUnderlayMetadata : Incremental eof (readUnderlayMetadata text) := by
  refine incremental_readThen 1 fun typ => ?_
  show Incremental eof (if typ.get 0 = addrTypeIpv4 then _ else _)
  split
  · exact incremental_readThen 6 fun raw => .pure _
  · split
    · exact incremental_readThen 18 fun raw => .pure _
    · split
      · refine incremental_readThen 1 fun dlen => ?_
        show Incremental eof (if (dlen.get 0).toNat = 0 then _ else _)
        split
        · exact (Incremental.throw _).bind fun _ => incremental_readThen _ fun domain => .pure _
        · exact incremental_readThen _ fun domain => .pure _
      · split
        · exact incremental_readThen 1 fun cmd => .throw _
        · exact .throw _

theorem incremental_underlayAuths : Incremental eof (underlayAuths text).read :=
  incremental_readThen 32 fun _ => incremental_readThen underlayPskLen fun _ =>
    incremental_readUnderlayMetadata.bind fun _ => .pure _

/-- `read_exact` fails only at the end of the data. -/
theorem eof_of_readExact {n : Nat} {input : Bytes} {reason : String}
    (failed : readExact n input = .error reason) : reason = eof := by
  unfold readExact at failed
  split at failed
  · cases failed
  · exact (Except.error.inj failed).symm

theorem eof_of_readCommandHead {input : Bytes} {reason : String}
    (failed : readCommandHead input = .error reason) : reason = eof := by
  change Except.bind (readExact 2 input) _ = _ at failed
  cases first : readExact 2 input with
  | error other =>
      rw [first] at failed
      obtain rfl := Except.error.inj failed
      exact eof_of_readExact first
  | ok pair =>
      rw [first] at failed
      cases failed

theorem shape_of_readCommandHead {input rest : Bytes} {head : UInt8 × UInt8}
    (taken : readCommandHead input = .ok (head, rest)) : input = [head.1, head.2] ++ rest := by
  obtain ⟨buf, middle, first, given⟩ := parts_of_bind taken
  obtain ⟨rfl, rfl⟩ := Prod.mk.inj (Except.ok.inj given)
  obtain ⟨bytes, two⟩ := buf
  obtain ⟨version, cmdType, rfl⟩ := List.length_eq_two.mp two
  exact shape_of_readExact first

theorem eof_of_readAuthenticate {input : Bytes} {reason : String}
    (failed : readAuthenticate input = .error reason) : reason = eof := by
  change Except.bind (readExact 16 input) _ = _ at failed
  cases first : readExact 16 input with
  | error other =>
      rw [first] at failed
      obtain rfl := Except.error.inj failed
      exact eof_of_readExact first
  | ok pair =>
      rw [first] at failed
      change Except.bind (readExact 32 pair.2) _ = _ at failed
      cases second : readExact 32 pair.2 with
      | error other =>
          rw [second] at failed
          obtain rfl := Except.error.inj failed
          exact eof_of_readExact second
      | ok last =>
          rw [second] at failed
          cases failed

theorem shape_of_readAuthenticate {input rest : Bytes} {user : Uuid × Token}
    (taken : readAuthenticate input = .ok (user, rest)) :
    input = user.1.val ++ (user.2.val ++ rest) := by
  obtain ⟨uuid, middle, first, taken⟩ := parts_of_bind taken
  obtain ⟨token, last, second, given⟩ := parts_of_bind taken
  obtain ⟨rfl, rfl⟩ := Prod.mk.inj (Except.ok.inj given)
  rw [shape_of_readExact first, shape_of_readExact second]

end Readers

/-! ## What a user can send -/

section Admissible

variable {env : Env} {uuid : Uuid} {token : Token} {bytes rest : Bytes}

/-- The bytes are a part of what some user sends first, or start with it. -/
def Admissible (env : Env) (bytes : Bytes) : Prop :=
  ∃ uuid token password, env.users.lookup uuid = some password ∧
    env.genToken uuid password = .ok token ∧
      (bytes <+: authBuf uuid token ∨ authBuf uuid token <+: bytes)

theorem length_authBuf (uuid : Uuid) (token : Token) : (authBuf uuid token).length = 50 := by
  simp [authBuf]

theorem authBuf_inj {other : Uuid} {otherToken : Token}
    (same : authBuf uuid token = authBuf other otherToken) : uuid = other ∧ token = otherToken := by
  have behind := List.append_cancel_left same
  obtain ⟨uuids, tokens⟩ := List.append_inj behind (by simp)
  exact ⟨Subtype.ext uuids, Subtype.ext tokens⟩

/-- Of two front parts of comparable lists that are as long, one is the other. -/
theorem authBuf_eq_of_comparable {other : Uuid} {otherToken : Token}
    (comparable : authBuf uuid token ++ rest <+: authBuf other otherToken ∨
      authBuf other otherToken <+: authBuf uuid token ++ rest) :
    authBuf uuid token = authBuf other otherToken := by
  have lengths : (authBuf uuid token).length = (authBuf other otherToken).length := by
    rw [length_authBuf, length_authBuf]
  rcases comparable with front | front
  · exact ((List.prefix_append _ rest).trans front).eq_of_length lengths
  · exact (List.prefix_of_prefix_length_le (List.prefix_append _ rest) front
      (Nat.le_of_eq lengths)).eq_of_length lengths

/-- Once the UUID and the token are there, they decide. -/
theorem admissible_authBuf_iff :
    Admissible env (authBuf uuid token ++ rest) ↔
      ∃ password, env.users.lookup uuid = some password ∧ env.genToken uuid password = .ok token := by
  constructor
  · rintro ⟨other, otherToken, password, known, keyed, comparable⟩
    obtain ⟨rfl, rfl⟩ := authBuf_inj (authBuf_eq_of_comparable comparable)
    exact ⟨password, known, keyed⟩
  · rintro ⟨password, known, keyed⟩
    exact ⟨uuid, token, password, known, keyed, .inr (List.prefix_append _ _)⟩

theorem Admissible.of_append {more : Bytes} (admissible : Admissible env (bytes ++ more)) :
    Admissible env bytes := by
  obtain ⟨uuid, token, password, known, keyed, comparable⟩ := admissible
  refine ⟨uuid, token, password, known, keyed, ?_⟩
  rcases comparable with front | front
  · exact .inl ((List.prefix_append _ _).trans front)
  · exact List.prefix_or_prefix_of_prefix (List.prefix_append bytes more) front

/-- The first two bytes of every user. -/
theorem Admissible.head {version cmdType : UInt8}
    (admissible : Admissible env ([version, cmdType] ++ rest)) :
    version = protocolVersion ∧ cmdType = authenticateType := by
  obtain ⟨uuid, token, password, -, -, comparable⟩ := admissible
  have two : [version, cmdType] = [protocolVersion, authenticateType] := by
    rcases comparable with ⟨more, same⟩ | ⟨more, same⟩
    · rw [List.append_assoc] at same
      exact (List.append_inj same rfl).1
    · rw [authBuf, List.append_assoc] at same
      exact (List.append_inj same rfl).1.symm
  simp only [List.cons.injEq, and_true] at two
  exact two

end Admissible

/-! ## What the peer does -/

/-- The peer has sent more, and may have finished or lost something. -/
structure Grown (state after : State) (more : Bytes) : Prop where
  bytes : after.first.bytes = state.first.bytes ++ more
  finished : state.first.finished = true → after.first.finished = true
  lost : state.lost = true → after.lost = true
  now : state.now ≤ after.now
  phase : after.phase = state.phase
  taken : after.taken = state.taken
  reading : after.reading = state.reading
  stored : after.stored = state.stored
  handled : after.handled = state.handled

section Peer

variable {state after : State}

theorem headD_setUni {unis changed : List Uni} {index : Nat} {change : Uni → Uni}
    (set : setUni unis index change = some changed) :
    changed.headD ⟨[], false⟩ = unis.headD ⟨[], false⟩ ∨
      changed.headD ⟨[], false⟩ = change (unis.headD ⟨[], false⟩) := by
  unfold setUni at set
  split at set
  · rename_i uni found
    split at set
    · cases set
    · obtain rfl := Option.some.inj set
      cases unis with
      | nil => cases found
      | cons head tail =>
          cases index with
          | zero =>
              obtain rfl := Option.some.inj found
              exact .inr rfl
          | succ index => exact .inl rfl
  · cases set

theorem headD_openUni (unis : List Uni) :
    (unis ++ [(⟨[], false⟩ : Uni)]).headD ⟨[], false⟩ = unis.headD ⟨[], false⟩ := by
  cases unis with
  | nil => rfl
  | cons head tail => rfl

theorem grown_of_peerStep {action : Action} (taken : peerStep state action = some after) :
    ∃ more, Grown state after more := by
  have still : ∀ next : State, next.first = state.first → next.lost = state.lost →
      next.now = state.now → next.phase = state.phase → next.taken = state.taken →
      next.reading = state.reading → next.stored = state.stored → next.handled = state.handled →
      ∃ more, Grown state next more := by
    intro next first lost now phase taken reading stored handled
    refine ⟨[], by rw [first, List.append_nil], by rw [first]; exact id, by rw [lost]; exact id,
      Nat.le_of_eq now.symm, phase, taken, reading, stored, handled⟩
  cases action with
  | openUni =>
      obtain rfl := Option.some.inj taken
      exact still _ (headD_openUni state.unis) rfl rfl rfl rfl rfl rfl rfl
  | openBi =>
      obtain rfl := Option.some.inj taken
      exact still _ rfl rfl rfl rfl rfl rfl rfl rfl
  | lose =>
      obtain rfl := Option.some.inj taken
      exact ⟨[], (List.append_nil _).symm, id, fun _ => rfl, Nat.le_refl _, rfl, rfl, rfl, rfl, rfl⟩
  | sendUni index bytes =>
      obtain ⟨unis, set, rfl⟩ := Option.map_eq_some_iff.mp taken
      rcases headD_setUni set with same | changed
      · exact still _ same rfl rfl rfl rfl rfl rfl rfl
      · refine ⟨bytes, congrArg Uni.bytes changed, fun finished => ?_, id, Nat.le_refl _, rfl, rfl,
          rfl, rfl, rfl⟩
        exact (congrArg Uni.finished changed).trans finished
  | finishUni index =>
      obtain ⟨unis, set, rfl⟩ := Option.map_eq_some_iff.mp taken
      rcases headD_setUni set with same | changed
      · exact still _ same rfl rfl rfl rfl rfl rfl rfl
      · exact ⟨[], (congrArg Uni.bytes changed).trans (List.append_nil _).symm,
          fun _ => congrArg Uni.finished changed, id, Nat.le_refl _, rfl, rfl, rfl, rfl, rfl⟩
  | tick | acceptUni | readHead | readAuthenticate | verify | fail | expire | readUnderlay |
    acceptBi | leave => cases taken

end Peer

/-! ## The invariant -/

/-- A user has authenticated: what follows on his stream is what is stored of it. -/
structure Admitted (env : Env) (state : State) (uuid : Uuid) : Prop where
  authenticated : ∃ token password behind, env.users.lookup uuid = some password ∧
    env.genToken uuid password = .ok token ∧
    state.first.bytes = authBuf uuid token ++ behind ∧
    FrameReader.Took (underlayAuths env.text) behind state.stored state.unread
  handled : state.handled = (List.range state.handled.length).map fun index => (index, uuid)

/-- Why a connection was closed. -/
def Refused (env : Env) (state : State) (code : UInt32) : Prop :=
  (code = authenticationFailed ∧
    (state.lost = true ∨ state.first.finished = true ∨ ¬ Admissible env state.first.bytes)) ∨
  (code = authenticationTimeout ∧ Consts.authenticateTimeout ≤ state.now)

/-- Nothing was given to a handler or to the table. -/
def Untouched (state : State) : Prop := state.stored = [] ∧ state.handled = []

/-- What is known at each place. -/
def Standing (env : Env) (state : State) : Prop :=
  match state.phase with
  | .accepting | .heading => state.taken = 0 ∧ Untouched state
  | .identifying =>
      state.first.bytes = [protocolVersion, authenticateType] ++ state.unread ∧ Untouched state
  | .verifying uuid token password =>
      state.first.bytes = authBuf uuid token ++ state.unread ∧
        env.users.lookup uuid = some password ∧ Untouched state
  | .serving uuid =>
      Admitted env state uuid ∧
        (state.reading = false → state.first.finished = true ∨
          ∃ reason, reason ≠ eof ∧ readUnderlayAuth env.text state.unread = .error reason)
  | .left uuid => Admitted env state uuid ∧ state.lost = true
  | .closed code _ => Refused env state code ∧ Untouched state

structure Invariant (env : Env) (state : State) : Prop where
  within : state.taken ≤ state.first.bytes.length
  standing : Standing env state

section Invariant

variable {env : Env} {state after : State} {more : Bytes} {uuid : Uuid}

theorem invariant_initial : Invariant env initial := ⟨Nat.le_refl _, rfl, rfl, rfl⟩

theorem Grown.unread (grown : Grown state after more)
    (within : state.taken ≤ state.first.bytes.length) : after.unread = state.unread ++ more := by
  unfold State.unread
  rw [grown.bytes, grown.taken, List.drop_append_of_le_length within]

theorem Grown.untouched (grown : Grown state after more) (untouched : Untouched state) :
    Untouched after :=
  ⟨grown.stored.trans untouched.1, grown.handled.trans untouched.2⟩

theorem Admitted.grow (admitted : Admitted env state uuid) (grown : Grown state after more)
    (within : state.taken ≤ state.first.bytes.length) : Admitted env after uuid where
  authenticated := by
    obtain ⟨token, password, behind, known, keyed, shape, took⟩ := admitted.authenticated
    refine ⟨token, password, behind ++ more, known, keyed, ?_, ?_⟩
    · rw [grown.bytes, shape, List.append_assoc]
    · rw [grown.stored, grown.unread within]
      exact took.append incremental_underlayAuths more
  handled := by
    rw [grown.handled]
    exact admitted.handled

theorem Refused.grow {code : UInt32} (refused : Refused env state code)
    (grown : Grown state after more) : Refused env after code := by
  rcases refused with ⟨failed, lost | finished | inadmissible⟩ | ⟨expired, late⟩
  · exact .inl ⟨failed, .inl (grown.lost lost)⟩
  · exact .inl ⟨failed, .inr (.inl (grown.finished finished))⟩
  · refine .inl ⟨failed, .inr (.inr fun admissible => inadmissible ?_)⟩
    rw [grown.bytes] at admissible
    exact admissible.of_append
  · exact .inr ⟨expired, Nat.le_trans late grown.now⟩

theorem Invariant.grow (inv : Invariant env state) (grown : Grown state after more) :
    Invariant env after where
  within := by
    rw [grown.taken, grown.bytes, List.length_append]
    exact Nat.le_add_right_of_le inv.within
  standing := by
    have standing := inv.standing
    have unread := grown.unread inv.within
    unfold Standing at standing ⊢
    rw [grown.phase]
    split at standing
    · exact ⟨grown.taken.trans standing.1, grown.untouched standing.2⟩
    · exact ⟨grown.taken.trans standing.1, grown.untouched standing.2⟩
    · refine ⟨?_, grown.untouched standing.2⟩
      rw [grown.bytes, unread, standing.1, List.append_assoc]
    · refine ⟨?_, standing.2.1, grown.untouched standing.2.2⟩
      rw [grown.bytes, unread, standing.1, List.append_assoc]
    · refine ⟨standing.1.grow grown inv.within, fun stopped => ?_⟩
      rw [grown.reading] at stopped
      rcases standing.2 stopped with finished | ⟨reason, final, failed⟩
      · exact .inl (grown.finished finished)
      · refine .inr ⟨reason, final, ?_⟩
        rw [unread]
        exact incremental_underlayAuths.settles _ reason more failed final
    · exact ⟨standing.1.grow grown inv.within, grown.lost standing.2⟩
    · exact ⟨standing.1.grow grown, grown.untouched standing.2⟩

/-! ## What the server does -/

theorem ok_of_readUni {α : Type} {read : Reader α} {value : α} {taken : Nat}
    (incremental : Incremental eof read) (done : readUni read state = some (.ok (value, taken))) :
    taken ≤ state.first.bytes.length ∧
      read state.unread = .ok (value, state.first.bytes.drop taken) := by
  unfold readUni at done
  split at done
  · rename_i given rest result
    obtain ⟨rfl, rfl⟩ := Prod.mk.inj (Except.ok.inj (Option.some.inj done))
    have suffix : rest <:+ state.first.bytes :=
      (incremental.leaves _ _ _ result).trans (List.drop_suffix _ _)
    rw [← List.suffix_iff_eq_drop.mp suffix]
    exact ⟨Nat.sub_le _ _, result⟩
  · split at done
    · cases Option.some.inj done
    · cases done

theorem error_of_readUni {α : Type} {read : Reader α} {reason : String}
    (done : readUni read state = some (.error reason)) :
    read state.unread = .error reason ∧ (reason ≠ eof ∨ state.first.finished = true) := by
  unfold readUni at done
  split at done
  · cases Option.some.inj done
  · rename_i failed
    split at done
    · rename_i final
      obtain rfl := Except.error.inj (Option.some.inj done)
      exact ⟨failed, final⟩
    · cases done

theorem refused_of_finished (finished : state.first.finished = true) :
    Refused env state authenticationFailed :=
  .inl ⟨rfl, .inr (.inl finished)⟩

theorem refused_of_inadmissible (inadmissible : ¬ Admissible env state.first.bytes) :
    Refused env state authenticationFailed :=
  .inl ⟨rfl, .inr (.inr inadmissible)⟩

theorem Invariant.close (within : state.taken ≤ state.first.bytes.length)
    (refused : Refused env state authenticationFailed) (untouched : Untouched state)
    (reason : String) : Invariant env (state.close reason) :=
  ⟨within, refused, untouched⟩

theorem Invariant.readHead (inv : Invariant env state) (place : state.phase = .heading)
    {head : UInt8 × UInt8} {taken : Nat}
    (done : readUni readCommandHead state = some (.ok (head, taken))) :
    Invariant env (afterHead state head taken) := by
  have standing := inv.standing
  rw [Standing, place] at standing
  obtain ⟨none, untouched⟩ := standing
  obtain ⟨within, read⟩ := ok_of_readUni (incremental_readThen 2 fun _ => .pure _) done
  have shape := shape_of_readCommandHead read
  rw [State.unread, none, List.drop_zero] at shape
  have refused : ∀ reason, (head.1 ≠ protocolVersion ∨ head.2 ≠ authenticateType) →
      Invariant env (state.close reason) := by
    intro reason wrong
    refine .close inv.within (refused_of_inadmissible fun admissible => ?_) untouched reason
    rw [shape] at admissible
    obtain ⟨version, cmdType⟩ := admissible.head
    rcases wrong with wrong | wrong
    · exact wrong version
    · exact wrong cmdType
  unfold afterHead
  split
  · exact refused _ (.inl ‹_›)
  · split
    · exact refused _ (.inr ‹_›)
    · rename_i version cmdType
      refine ⟨within, ?_, untouched⟩
      rw [Decidable.not_not] at version cmdType
      rw [version, cmdType] at shape
      exact shape

theorem Invariant.readAuthenticate (inv : Invariant env state) (place : state.phase = .identifying)
    {user : Uuid × Token} {taken : Nat}
    (done : readUni readAuthenticate state = some (.ok (user, taken))) :
    Invariant env (afterAuthenticate env state user taken) := by
  have standing := inv.standing
  rw [Standing, place] at standing
  obtain ⟨front, untouched⟩ := standing
  obtain ⟨within, read⟩ := ok_of_readUni
    (incremental_readThen 16 fun _ => incremental_readThen 32 fun _ => .pure _) done
  have shape : state.first.bytes = authBuf user.1 user.2 ++ state.first.bytes.drop taken := by
    have behind := shape_of_readAuthenticate read
    rw [behind, ← List.append_assoc, ← List.append_assoc] at front
    rw [authBuf, ← List.append_assoc]
    exact front
  unfold afterAuthenticate
  split
  · rename_i unknown
    refine .close inv.within (refused_of_inadmissible fun admissible => ?_) untouched _
    rw [shape] at admissible
    obtain ⟨password, known, -⟩ := admissible_authBuf_iff.mp admissible
    cases unknown.symm.trans known
  · rename_i password known
    exact ⟨within, shape, known, untouched⟩

theorem Invariant.verify (inv : Invariant env state) {token : Token} {password : String}
    (place : state.phase = .verifying uuid token password) :
    Invariant env (afterVerify env state uuid token password) := by
  have standing := inv.standing
  rw [Standing, place] at standing
  obtain ⟨shape, known, untouched⟩ := standing
  have refused : ∀ reason, env.genToken uuid password ≠ .ok token →
      Invariant env (state.close reason) := by
    intro reason wrong
    refine .close inv.within (refused_of_inadmissible fun admissible => ?_) untouched reason
    rw [shape] at admissible
    obtain ⟨other, alsoKnown, keyed⟩ := admissible_authBuf_iff.mp admissible
    obtain rfl := Option.some.inj (known.symm.trans alsoKnown)
    exact wrong keyed
  unfold afterVerify
  split
  · rename_i reason failed
    refine refused reason fun keyed => ?_
    cases failed.symm.trans keyed
  · rename_i expected given
    split
    · rename_i same
      subst same
      refine ⟨inv.within, ⟨⟨expected, password, state.unread, known, given, shape, ?_⟩, ?_⟩, ?_⟩
      · rw [untouched.1]
        exact .start _
      · rw [untouched.2]
        rfl
      · intro stopped
        cases stopped
    · rename_i different
      refine refused _ fun keyed => different ?_
      exact Except.ok.inj (given.symm.trans keyed)

theorem Invariant.readUnderlay (inv : Invariant env state) (place : state.phase = .serving uuid)
    (runs : state.reading = true) {auth : UnderlayAuth} {taken : Nat}
    (done : readUni (readUnderlayAuth env.text) state = some (.ok (auth, taken))) :
    Invariant env { state with stored := state.stored ++ [auth], taken := taken } := by
  have standing := inv.standing
  rw [Standing, place] at standing
  obtain ⟨⟨⟨token, password, behind, known, keyed, shape, took⟩, handled⟩, -⟩ := standing
  have incremental : Incremental _ (underlayAuths env.text).read := incremental_underlayAuths
  obtain ⟨within, read⟩ := ok_of_readUni incremental done
  refine ⟨within, ?_⟩
  show Standing env { state with stored := state.stored ++ [auth], taken := taken }
  rw [Standing, place]
  refine ⟨⟨⟨token, password, behind, known, keyed, shape, took.next read⟩, handled⟩, fun stopped => ?_⟩
  cases runs.symm.trans stopped

theorem Invariant.stopReading (inv : Invariant env state) (place : state.phase = .serving uuid)
    {reason : String}
    (done : readUni (readUnderlayAuth env.text) state = some (.error reason)) :
    Invariant env { state with reading := false } := by
  have standing := inv.standing
  rw [Standing, place] at standing
  obtain ⟨admitted, -⟩ := standing
  obtain ⟨failed, final⟩ := error_of_readUni done
  refine ⟨inv.within, ?_⟩
  show Standing env { state with reading := false }
  rw [Standing, place]
  refine ⟨⟨admitted.authenticated, admitted.handled⟩, fun _ => ?_⟩
  rcases final with final | finished
  · exact .inr ⟨reason, final, failed⟩
  · exact .inl finished

theorem Invariant.acceptBi (inv : Invariant env state) (place : state.phase = .serving uuid) :
    Invariant env
      { state with handled := state.handled ++ [(state.handled.length, uuid)] } := by
  have standing := inv.standing
  rw [Standing, place] at standing
  obtain ⟨⟨authenticated, handled⟩, stopped⟩ := standing
  refine ⟨inv.within, ?_⟩
  show Standing env { state with handled := state.handled ++ [(state.handled.length, uuid)] }
  rw [Standing, place]
  refine ⟨⟨authenticated, ?_⟩, stopped⟩
  show state.handled ++ [(state.handled.length, uuid)] =
    (List.range (state.handled ++ [(state.handled.length, uuid)]).length).map _
  rw [List.length_append, List.length_singleton, List.range_succ, List.map_append, ← handled]
  rfl

theorem Invariant.serverStep (inv : Invariant env state) {action : Action}
    (taken : Connection.serverStep env state action = some after) : Invariant env after := by
  cases action with
  | acceptUni =>
      simp only [Connection.serverStep] at taken
      split at taken
      · rename_i place _
        obtain rfl := Option.some.inj taken
        have standing := inv.standing
        rw [Standing, place] at standing
        exact ⟨inv.within, standing⟩
      · cases taken
  | readHead =>
      simp only [Connection.serverStep] at taken
      split at taken
      · obtain rfl := Option.some.inj taken
        exact inv.readHead ‹_› ‹_›
      · rename_i place failed
        obtain rfl := Option.some.inj taken
        have standing := inv.standing
        rw [Standing, place] at standing
        obtain ⟨error, final⟩ := error_of_readUni failed
        rcases final with final | finished
        · exact absurd (eof_of_readCommandHead error) final
        · exact .close inv.within (refused_of_finished finished) standing.2 _
      · cases taken
  | readAuthenticate =>
      simp only [Connection.serverStep] at taken
      split at taken
      · obtain rfl := Option.some.inj taken
        exact inv.readAuthenticate ‹_› ‹_›
      · rename_i place failed
        obtain rfl := Option.some.inj taken
        have standing := inv.standing
        rw [Standing, place] at standing
        obtain ⟨error, final⟩ := error_of_readUni failed
        rcases final with final | finished
        · exact absurd (eof_of_readAuthenticate error) final
        · exact .close inv.within (refused_of_finished finished) standing.2 _
      · cases taken
  | verify =>
      simp only [Connection.serverStep] at taken
      split at taken
      · obtain rfl := Option.some.inj taken
        exact inv.verify ‹_›
      · cases taken
  | readUnderlay =>
      simp only [Connection.serverStep] at taken
      split at taken
      · obtain rfl := Option.some.inj taken
        exact inv.readUnderlay ‹_› ‹_› ‹_›
      · obtain rfl := Option.some.inj taken
        exact inv.stopReading ‹_› ‹_›
      · cases taken
  | acceptBi =>
      simp only [Connection.serverStep] at taken
      split at taken
      · split at taken
        · obtain rfl := Option.some.inj taken
          exact inv.acceptBi ‹_›
        · cases taken
      · cases taken
  | leave =>
      simp only [Connection.serverStep] at taken
      split at taken
      · rename_i place
        split at taken
        · rename_i lost
          obtain rfl := Option.some.inj taken
          have standing := inv.standing
          rw [Standing, place] at standing
          obtain ⟨admitted, -⟩ := standing
          exact ⟨inv.within, ⟨admitted.authenticated, admitted.handled⟩, lost⟩
        · cases taken
      · cases taken
  | tick | openUni | sendUni | finishUni | openBi | lose | fail | expire => cases taken

theorem untouched_of_authenticating (inv : Invariant env state)
    (early : state.authenticating = true) : Untouched state := by
  have standing := inv.standing
  unfold State.authenticating at early
  unfold Standing at standing
  cases place : state.phase with
  | accepting | heading | identifying =>
      rw [place] at standing
      exact standing.2
  | verifying =>
      rw [place] at standing
      exact standing.2.2
  | serving | closed | left =>
      rw [place] at early
      cases early

theorem Invariant.preserved {action : Action} (inv : Invariant env state)
    (taken : step env state action = some after) : Invariant env after := by
  cases action with
  | tick elapsed =>
      obtain rfl := Option.some.inj taken
      exact inv.grow ⟨(List.append_nil _).symm, id, id, Nat.le_add_right _ _, rfl, rfl, rfl, rfl, rfl⟩
  | fail reason =>
      simp only [step] at taken
      split at taken
      · rename_i fails
        obtain rfl := Option.some.inj taken
        obtain ⟨early, lost⟩ := Bool.and_eq_true_iff.mp fails
        exact .close inv.within (.inl ⟨rfl, .inl lost⟩) (untouched_of_authenticating inv early) _
      · cases taken
  | expire =>
      simp only [step] at taken
      split at taken
      · rename_i expires
        obtain rfl := Option.some.inj taken
        obtain ⟨early, late⟩ := Bool.and_eq_true_iff.mp expires
        have untouched := untouched_of_authenticating inv early
        exact ⟨inv.within, .inr ⟨rfl, of_decide_eq_true late⟩, untouched⟩
      · cases taken
  | openUni | sendUni | finishUni | openBi | lose =>
      simp only [step] at taken
      split at taken
      · cases taken
      · obtain ⟨more, grown⟩ := grown_of_peerStep taken
        exact inv.grow grown
  | acceptUni | readHead | readAuthenticate | verify | readUnderlay | acceptBi | leave =>
      simp only [step] at taken
      exact inv.serverStep taken

theorem invariant_of_reachable (reached : Reachable (step env) initial state) :
    Invariant env state :=
  reached.invariant invariant_initial fun _ _ _ inv taken => inv.preserved taken

end Invariant

/-! ## Results -/

/-- Whose streams are handled. -/
def servedUser (state : State) : Option Uuid :=
  match state.phase with
  | .serving uuid | .left uuid => some uuid
  | .accepting | .heading | .identifying | .verifying _ _ _ | .closed _ _ => none

theorem Invariant.admitted {env : Env} {state : State} {uuid : Uuid} (inv : Invariant env state)
    (served : servedUser state = some uuid) : Admitted env state uuid := by
  have standing := inv.standing
  unfold servedUser at served
  unfold Standing at standing
  cases place : state.phase with
  | serving | left =>
      rw [place] at served standing
      obtain rfl := Option.some.inj served
      exact standing.1
  | accepting | heading | identifying | verifying | closed =>
      rw [place] at served
      cases served

theorem Invariant.untouched {env : Env} {state : State} (inv : Invariant env state)
    (unserved : servedUser state = none) : Untouched state := by
  have standing := inv.standing
  unfold servedUser at unserved
  unfold Standing at standing
  cases place : state.phase with
  | accepting | heading | identifying | closed =>
      rw [place] at standing
      exact standing.2
  | verifying =>
      rw [place] at standing
      exact standing.2.2
  | serving | left =>
      rw [place] at unserved
      cases unserved

theorem Invariant.refused {env : Env} {state : State} (inv : Invariant env state) {code : UInt32}
    {reason : String} (place : state.phase = .closed code reason) : Refused env state code := by
  have standing := inv.standing
  rw [Standing, place] at standing
  exact standing.1

/-- In every interleaving a stream is handled or an underlay auth stored only for a user whose
UUID and token were read first; the streams are handled in their order, each once, and the auths
are those that follow on his stream, in order. A connection is refused only when it was lost,
its stream ended, or no user could have sent what it sent; it times out only when it was
late. -/
theorem admission_of_reachable {env : Env} {state : State}
    (reached : Reachable (step env) initial state) :
    (∀ uuid, servedUser state = some uuid →
      ∃ token password behind, env.users.lookup uuid = some password ∧
        env.genToken uuid password = .ok token ∧
        state.first.bytes = authBuf uuid token ++ behind ∧
        state.stored <+: ((underlayAuths env.text).readAll behind).1 ∧
        state.handled = (List.range state.handled.length).map fun index => (index, uuid)) ∧
    (servedUser state = none → state.stored = [] ∧ state.handled = []) ∧
    ∀ code reason, state.phase = .closed code reason →
      (code = authenticationFailed ∧
        (state.lost = true ∨ state.first.finished = true ∨
          ¬ Admissible env state.first.bytes)) ∨
      (code = authenticationTimeout ∧ Consts.authenticateTimeout ≤ state.now) := by
  have inv := invariant_of_reachable reached
  refine ⟨fun uuid served => ?_, inv.untouched, fun code reason place => inv.refused place⟩
  have admitted := inv.admitted served
  obtain ⟨token, password, behind, known, keyed, shape, took⟩ := admitted.authenticated
  exact ⟨token, password, behind, known, keyed, shape, took.values_prefix, admitted.handled⟩

/-! ## A connection of one user -/

def someUser : Uuid := .replicate 16 7

def someToken : Token := .replicate 32 9

/-- One user, whose token is fixed. -/
def someEnv : Env where
  text := LossyText.std
  crate := uuidCrate
  users := (∅ : Table Uuid String).insert someUser "secret"
  genToken := fun _ _ => .ok someToken

/-- The user opens a stream before he authenticates. -/
def someSchedule : List Action :=
  [.openBi, .openUni, .sendUni 0 (authBuf someUser someToken), .acceptUni, .readHead,
    .readAuthenticate, .verify, .acceptBi]

theorem admission_of_reachable_user :
    ∃ final, Reachable (step someEnv) initial final ∧ final.handled = [(0, someUser)] ∧
      ∃ password, someEnv.users.lookup someUser = some password := by
  have executed : (exec (step someEnv) initial someSchedule).any
      (fun final => servedUser final == some someUser &&
        final.handled == [(0, someUser)]) = true := by
    decide +kernel
  obtain ⟨final, ended, facts⟩ := (Option.any_eq_true _ _).mp executed
  simp only [Bool.and_eq_true, beq_iff_eq] at facts
  have reached := reachable_of_exec ended
  obtain ⟨token, password, behind, known, -⟩ := (admission_of_reachable reached).1 _ facts.1
  exact ⟨final, reached, facts.2, password, known⟩

end Juicity.Server.Connection
