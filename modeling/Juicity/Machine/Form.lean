import Juicity.Machine.Hex
import Mathlib.Data.List.TakeWhile

/-!
Contract: `application/x-www-form-urlencoded` texts.

The serializer writes a space as `+` and other reserved bytes with `%`; the
parser undoes both. A parameter list that was written is read back as it was,
and a serialized text has none of the separators of a URL.
-/

namespace Juicity.Machine

/-- The UTF-8 form of a text. -/
def utf8Bytes (text : List Char) : List UInt8 := text.flatMap String.utf8EncodeChar

/-- The text before the first separator, and the text after it. -/
def cut (separator : Char) (text : List Char) : List Char × Option (List Char) :=
  (text.takeWhile (· ≠ separator),
    match text.dropWhile (· ≠ separator) with
    | [] => none
    | _ :: rest => some rest)

/-- The first separator cuts. -/
theorem cut_append {separator : Char} {front : List Char} (free : separator ∉ front)
    (rest : List Char) : cut separator (front ++ separator :: rest) = (front, some rest) := by
  have passes : ∀ char ∈ front, decide (char ≠ separator) = true := by
    intro char member
    exact decide_eq_true (fun same => free (same ▸ member))
  unfold cut
  rw [List.takeWhile_append_of_pos passes, List.dropWhile_append_of_pos passes,
    List.takeWhile_cons_of_neg (by simp), List.dropWhile_cons_of_neg (by simp), List.append_nil]

theorem cut_of_notMem {separator : Char} {text : List Char} (free : separator ∉ text) :
    cut separator text = (text, none) := by
  have passes : ∀ char ∈ text, decide (char ≠ separator) = true := by
    intro char member
    exact decide_eq_true (fun same => free (same ▸ member))
  unfold cut
  rw [List.takeWhile_eq_self_iff.mpr passes, List.dropWhile_eq_nil_iff.mpr passes]

/-- What the first separator cuts. -/
theorem cut_eq_some {separator : Char} {text front rest : List Char}
    (found : cut separator text = (front, some rest)) :
    text = front ++ separator :: rest ∧ separator ∉ front := by
  by_cases member : separator ∈ text
  · obtain ⟨before, after, rfl, free⟩ := List.eq_append_cons_of_mem member
    rw [cut_append free] at found
    cases found
    exact ⟨rfl, free⟩
  · rw [cut_of_notMem member] at found
    cases found

/-! ## UTF-8 -/

theorem utf8Bytes_append (front back : List Char) :
    utf8Bytes (front ++ back) = utf8Bytes front ++ utf8Bytes back := List.flatMap_append

theorem utf8EncodeChar_ascii {char : Char} (ascii : char.toNat < 128) :
    String.utf8EncodeChar char = [UInt8.ofNat char.toNat] := by
  have small : char.val.toNat ≤ 127 := by
    have same : char.val.toNat = char.toNat := rfl
    omega
  exact if_pos small

/-- Only ASCII characters have ASCII bytes. -/
theorem ascii_of_mem_utf8EncodeChar {char : Char} {byte : UInt8}
    (member : byte ∈ String.utf8EncodeChar char) (ascii : byte.toNat < 128) :
    char.toNat < 128 ∧ byte = UInt8.ofNat char.toNat := by
  by_cases small : char.toNat < 128
  · rw [utf8EncodeChar_ascii small, List.mem_singleton] at member
    exact ⟨small, member⟩
  · have large : ¬char.val.toNat ≤ 127 := by
      have same : char.val.toNat = char.toNat := rfl
      omega
    exfalso
    unfold String.utf8EncodeChar at member
    simp only [if_neg large] at member
    split at member
    · simp only [List.mem_cons, List.not_mem_nil, or_false] at member
      rcases member with rfl | rfl
      all_goals
        rw [UInt8.toNat_ofNat'] at ascii
        omega
    · split at member
      · simp only [List.mem_cons, List.not_mem_nil, or_false] at member
        rcases member with rfl | rfl | rfl
        all_goals
          rw [UInt8.toNat_ofNat'] at ascii
          omega
      · simp only [List.mem_cons, List.not_mem_nil, or_false] at member
        rcases member with rfl | rfl | rfl | rfl
        all_goals
          rw [UInt8.toNat_ofNat'] at ascii
          omega

namespace Form

/-! ## The serializer -/

/-- A byte that is written as it is. -/
def isUnreserved (byte : UInt8) : Bool :=
  let code := byte.toNat
  decide ((48 ≤ code ∧ code ≤ 57) ∨ (65 ≤ code ∧ code ≤ 90) ∨ (97 ≤ code ∧ code ≤ 122) ∨
    code = 42 ∨ code = 45 ∨ code = 46 ∨ code = 95)

def serializeByte (byte : UInt8) : List Char :=
  if isUnreserved byte then [Char.ofNat byte.toNat]
  else if byte = 32 then ['+']
  else '%' :: Hex.digits true byte

def serialize (bytes : List UInt8) : List Char := bytes.flatMap serializeByte

/-- A character of a serialized text. -/
def isFormChar (char : Char) : Bool :=
  char = '+' || char = '%' ||
    (decide (char.toNat < 128) && isUnreserved (UInt8.ofNat char.toNat))

/-- A property of the bytes that is checked for each of them. -/
theorem forall_bytes {holds : UInt8 → Prop}
    (checked : ∀ code : Fin 256, holds (UInt8.ofNat code)) (byte : UInt8) : holds byte := by
  have this := checked ⟨byte.toNat, byte.toNat_lt⟩
  rwa [UInt8.ofNat_toNat] at this

theorem all_serializeByte (byte : UInt8) : (serializeByte byte).all isFormChar = true := by
  revert byte
  exact forall_bytes (by decide +kernel)

theorem isFormChar_of_mem_serialize (bytes : List UInt8) :
    ∀ char ∈ serialize bytes, isFormChar char = true := by
  intro char member
  obtain ⟨byte, -, written⟩ := List.mem_flatMap.mp member
  exact List.all_eq_true.mp (all_serializeByte byte) char written

/-- A serialized text has no character that no byte is written with. -/
theorem notMem_serialize {char : Char} (reserved : isFormChar char = false)
    (bytes : List UInt8) : char ∉ serialize bytes := by
  intro member
  rw [isFormChar_of_mem_serialize bytes char member] at reserved
  cases reserved

theorem serialize_ne_nil {bytes : List UInt8} (notEmpty : bytes ≠ []) : serialize bytes ≠ [] := by
  obtain ⟨byte, rest, rfl⟩ := List.exists_cons_of_ne_nil notEmpty
  have front : ∀ byte : UInt8, serializeByte byte ≠ [] := forall_bytes (by decide +kernel)
  intro nil
  rw [serialize, List.flatMap_cons, List.append_eq_nil_iff] at nil
  exact front byte nil.1

/-! ## The parser -/

/-- Two digits after `%` are the byte they stand for. -/
def percentDecode : List Char → List UInt8
  | '%' :: high :: low :: rest =>
      match Hex.byteOf high low with
      | some byte => byte :: percentDecode rest
      | none => 37 :: percentDecode (high :: low :: rest)
  | char :: rest => String.utf8EncodeChar char ++ percentDecode rest
  | [] => []

def plusToSpace (char : Char) : Char := if char = '+' then ' ' else char

def decode (text : List Char) : List UInt8 := percentDecode (text.map plusToSpace)

/-- The pairs of a query. -/
def pairs (query : List Char) : List (List UInt8 × List UInt8) :=
  ((query.splitOn '&').filter (· ≠ [])).map fun piece =>
    let (name, value) := cut '=' piece
    (decode name, decode (value.getD []))

theorem percentDecode_cons {char : Char} (plain : char ≠ '%') (rest : List Char) :
    percentDecode (char :: rest) = String.utf8EncodeChar char ++ percentDecode rest := by
  rw [percentDecode.eq_2]
  intro high low later
  simp [plain]

/-- The digits of a byte are decoded as the byte. -/
theorem percentDecode_digits (upper : Bool) (byte : UInt8) (rest : List Char) :
    percentDecode ('%' :: (Hex.digits upper byte ++ rest)) = byte :: percentDecode rest := by
  show (match Hex.byteOf _ _ with
    | some byte => byte :: percentDecode rest
    | none => 37 :: percentDecode _) = _
  rw [Hex.byteOf_digits]

/-- The unreserved characters pass through the parser. -/
theorem unreserved_passes (byte : UInt8) (unreserved : isUnreserved byte = true) :
    plusToSpace (Char.ofNat byte.toNat) = Char.ofNat byte.toNat ∧
      Char.ofNat byte.toNat ≠ '%' ∧ String.utf8EncodeChar (Char.ofNat byte.toNat) = [byte] := by
  revert byte
  exact forall_bytes (by decide +kernel)

theorem plusToSpace_digits (byte : UInt8) :
    (Hex.digits true byte).map plusToSpace = Hex.digits true byte := by
  revert byte
  exact forall_bytes (by decide +kernel)

theorem decode_serializeByte (byte : UInt8) (rest : List Char) :
    decode (serializeByte byte ++ rest) = byte :: decode rest := by
  unfold serializeByte
  split
  · obtain ⟨same, notPercent, encoded⟩ := unreserved_passes byte ‹_›
    rw [decode, List.map_append, List.map_singleton, same, List.singleton_append,
      percentDecode_cons notPercent, encoded]
    rfl
  · split
    · rename_i space
      rw [space]
      rfl
    · rw [decode, List.map_append, List.map_cons, plusToSpace_digits]
      exact percentDecode_digits true byte (rest.map plusToSpace)

/-- What was serialized is decoded. -/
theorem decode_serialize (bytes : List UInt8) : decode (serialize bytes) = bytes := by
  induction bytes with
  | nil => rfl
  | cons byte rest hypothesis =>
    rw [serialize, List.flatMap_cons, decode_serializeByte]
    exact congrArg _ hypothesis

/-- A text of unreserved characters is decoded as it is. -/
theorem decode_plain {text : List Char}
    (plain : ∀ char ∈ text, isFormChar char = true ∧ char ≠ '+' ∧ char ≠ '%') :
    decode text = utf8Bytes text := by
  induction text with
  | nil => rfl
  | cons char rest hypothesis =>
    obtain ⟨-, notPlus, notPercent⟩ := plain char List.mem_cons_self
    have same : plusToSpace char = char := if_neg notPlus
    rw [decode, List.map_cons, same, percentDecode_cons notPercent]
    exact congrArg _ (hypothesis fun later member => plain later (List.mem_cons_of_mem _ member))

/-! ## Parameter lists -/

/-- One parameter of a query. -/
def parameter (name : List Char) (value : List UInt8) : List Char :=
  name ++ '=' :: serialize value

/-- A name of unreserved characters. -/
def PlainName (name : List Char) : Prop :=
  ∀ char ∈ name, isFormChar char = true ∧ char ≠ '+' ∧ char ≠ '%'

theorem plainName_of_all {name : List Char} (checked : name.all (fun char =>
    isFormChar char && decide (char ≠ '+') && decide (char ≠ '%')) = true) : PlainName name := by
  intro char member
  have plain := List.all_eq_true.mp checked char member
  rw [Bool.and_eq_true, Bool.and_eq_true, decide_eq_true_eq, decide_eq_true_eq] at plain
  exact ⟨plain.1.1, plain.1.2, plain.2⟩

theorem notMem_name {char : Char} (reserved : isFormChar char = false) {name : List Char}
    (plain : PlainName name) : char ∉ name := by
  intro member
  rw [(plain char member).1] at reserved
  cases reserved

/-- The pairs of parameters joined with `&` are the names and values that were written. -/
theorem pairs_parameters (parameters : List (List Char × List UInt8))
    (plain : ∀ parameter ∈ parameters, PlainName parameter.1) (notEmpty : parameters ≠ []) :
    pairs (['&'].intercalate (parameters.map fun each => parameter each.1 each.2)) =
      parameters.map fun each => (utf8Bytes each.1, each.2) := by
  have free : ∀ piece ∈ parameters.map fun each => parameter each.1 each.2, '&' ∉ piece := by
    intro piece member
    obtain ⟨each, listed, rfl⟩ := List.mem_map.mp member
    rw [parameter, List.mem_append, List.mem_cons, not_or, not_or]
    exact ⟨notMem_name (by decide) (plain each listed), by decide, notMem_serialize (by decide) _⟩
  have nonempty : ∀ piece ∈ parameters.map fun each => parameter each.1 each.2,
      decide (piece ≠ []) = true := by
    intro piece member
    obtain ⟨each, -, rfl⟩ := List.mem_map.mp member
    exact decide_eq_true (by simp [parameter])
  unfold pairs
  rw [List.splitOn_intercalate _ free (by simpa using notEmpty),
    List.filter_eq_self.mpr nonempty, List.map_map]
  apply List.map_congr_left
  intro each listed
  have nameFree : '=' ∉ each.1 := notMem_name (by decide) (plain each listed)
  have pieces := cut_append nameFree (serialize each.2)
  show (decode (cut '=' (parameter each.1 each.2)).1,
    decode ((cut '=' (parameter each.1 each.2)).2.getD [])) = _
  rw [parameter, pieces]
  show (decode each.1, decode (serialize each.2)) = _
  rw [decode_serialize, decode_plain (plain each listed)]

end Form

end Juicity.Machine
