import Mathlib.Data.List.Basic
import Mathlib.Data.List.Nodup
import Mathlib.Data.List.Perm.Subperm

/-!
Contract: maps that keep the order of insertion, with removal by swapping.

Keys are distinct by construction. `insert` overwrites in place or appends;
`swapRemove` moves the last entry into the gap. Every entry after an operation
was there before or is the inserted one. An order of the entries survives a
removal exactly if the entries behind the gap are alike in it.
-/

namespace Juicity.Machine

universe u v

/-- Entries in order, without a repeated key. -/
structure IndexMap (Key : Type u) (Value : Type v) where
  entries : List (Key × Value)
  distinct : (entries.map Prod.fst).Nodup

namespace IndexMap

variable {Key : Type u} {Value : Type v}

def empty : IndexMap Key Value := ⟨[], List.nodup_nil⟩

def size (map : IndexMap Key Value) : Nat := map.entries.length

/-- Fill the gap at the head of a list with its last element. -/
def closeGap (rest : List (Key × Value)) : List (Key × Value) :=
  match rest.getLast? with
  | some last => last :: rest.dropLast
  | none => []

theorem closeGap_perm (rest : List (Key × Value)) : (closeGap rest).Perm rest := by
  unfold closeGap
  cases rest.eq_nil_or_concat with
  | inl empty => simp [empty]
  | inr split =>
      obtain ⟨start, last, rfl⟩ := split
      simp only [List.concat_eq_append, List.getLast?_append, List.getLast?_singleton,
        Option.some_or, List.dropLast_concat]
      exact (List.perm_append_singleton last start).symm

variable [DecidableEq Key]

def get (map : IndexMap Key Value) (key : Key) : Option Value :=
  (map.entries.find? fun entry => entry.1 = key).map Prod.snd

/-- The entries after an insertion. -/
def overwrite (key : Key) (value : Value) (entries : List (Key × Value)) : List (Key × Value) :=
  if key ∈ entries.map Prod.fst then
    entries.map fun entry => if entry.1 = key then (key, value) else entry
  else
    entries ++ [(key, value)]

theorem overwrite_distinct (key : Key) (value : Value) {entries : List (Key × Value)}
    (distinct : (entries.map Prod.fst).Nodup) :
    ((overwrite key value entries).map Prod.fst).Nodup := by
  unfold overwrite
  split
  · have same : (entries.map fun entry => if entry.1 = key then (key, value) else entry).map
        Prod.fst = entries.map Prod.fst := by
      rw [List.map_map]
      apply List.map_congr_left
      intro entry _
      by_cases found : entry.1 = key
      · simp [found]
      · simp [found]
    rw [same]
    exact distinct
  · rename_i missing
    rw [List.map_append, List.map_singleton]
    exact List.nodup_append.mpr ⟨distinct, List.nodup_singleton key, by
      intro other among listed listedMember same
      rw [List.mem_singleton.mp listedMember] at same
      rw [same] at among
      exact missing among⟩

def insert (map : IndexMap Key Value) (key : Key) (value : Value) : IndexMap Key Value :=
  ⟨overwrite key value map.entries, overwrite_distinct key value map.distinct⟩

/-- The entries after a removal. -/
def withoutKey (key : Key) : List (Key × Value) → List (Key × Value)
  | [] => []
  | entry :: rest => if entry.1 = key then closeGap rest else entry :: withoutKey key rest

theorem withoutKey_subperm (key : Key) (entries : List (Key × Value)) :
    (withoutKey key entries).Subperm entries := by
  induction entries with
  | nil => exact List.Subperm.refl []
  | cons entry rest inductionHypothesis =>
      unfold withoutKey
      split
      · exact (closeGap_perm rest).subperm.trans (List.sublist_cons_self entry rest).subperm
      · exact (List.subperm_cons entry).mpr inductionHypothesis

/-- `swap_remove`. -/
def swapRemove (map : IndexMap Key Value) (key : Key) : IndexMap Key Value :=
  ⟨withoutKey key map.entries, by
    obtain ⟨kept, perm, sublist⟩ := withoutKey_subperm key map.entries
    exact (perm.map Prod.fst).nodup_iff.mp (map.distinct.sublist (sublist.map Prod.fst))⟩

variable {map : IndexMap Key Value} {key : Key} {value : Value} {entry : Key × Value}

theorem mem_of_get (found : map.get key = some value) : (key, value) ∈ map.entries := by
  obtain ⟨entry, listed, rfl⟩ := Option.map_eq_some_iff.mp found
  have same : entry.1 = key := by simpa using List.find?_some listed
  rw [← same]
  exact List.mem_of_find?_eq_some listed

theorem withoutKey_of_forall_ne {entries : List (Key × Value)}
    (missing : ∀ entry ∈ entries, entry.1 ≠ key) : withoutKey key entries = entries := by
  induction entries with
  | nil => rfl
  | cons entry rest inductionHypothesis =>
      rw [withoutKey, if_neg (missing entry List.mem_cons_self)]
      rw [inductionHypothesis fun other member => missing other (List.mem_cons_of_mem entry member)]

/-- Removing a missing key changes nothing. -/
theorem swapRemove_of_get_eq_none (missing : map.get key = none) : map.swapRemove key = map := by
  have absent : ∀ entry ∈ map.entries, entry.1 ≠ key := by
    intro entry member same
    have unfound := List.find?_eq_none.mp (Option.map_eq_none_iff.mp missing) entry member
    simp [same] at unfound
  have kept := withoutKey_of_forall_ne absent
  cases map with
  | mk entries distinct => simpa [swapRemove] using kept

theorem mem_insert (member : entry ∈ (map.insert key value).entries) :
    entry = (key, value) ∨ entry ∈ map.entries := by
  unfold insert overwrite at member
  dsimp only at member
  split at member
  · obtain ⟨old, oldMember, rfl⟩ := List.mem_map.mp member
    by_cases found : old.1 = key
    · simp [found]
    · simp [found, oldMember]
  · rcases List.mem_append.mp member with old | new
    · exact .inr old
    · exact .inl (List.mem_singleton.mp new)

theorem size_insert_le (map : IndexMap Key Value) (key : Key) (value : Value) :
    (map.insert key value).size ≤ map.size + 1 := by
  unfold size insert overwrite
  dsimp only
  split
  · simp
  · simp

/-- Removing the first key. -/
theorem size_swapRemove_first {rest : List (Key × Value)} (listed : map.entries = entry :: rest) :
    (map.swapRemove entry.1).size = rest.length := by
  show (withoutKey entry.1 map.entries).length = rest.length
  rw [listed, withoutKey, if_pos rfl]
  exact (closeGap_perm rest).length_eq

theorem mem_swapRemove (member : entry ∈ (map.swapRemove key).entries) : entry ∈ map.entries :=
  (withoutKey_subperm key map.entries).subset member

theorem get_eq_none_iff : map.get key = none ↔ ∀ entry ∈ map.entries, entry.1 ≠ key := by
  unfold get
  rw [Option.map_eq_none_iff, List.find?_eq_none]
  simp only [decide_eq_true_eq, ne_eq]

theorem get_insert_of_ne {other : Key} (different : other ≠ key) (missing : map.get other = none) :
    (map.insert key value).get other = none := by
  rw [get_eq_none_iff] at missing ⊢
  intro entry member
  rcases mem_insert member with rfl | old
  · exact different.symm
  · exact missing entry old

theorem get_swapRemove_of_missing {other : Key} (missing : map.get other = none) :
    (map.swapRemove key).get other = none := by
  rw [get_eq_none_iff] at missing ⊢
  exact fun entry member => missing entry (mem_swapRemove member)

theorem ne_of_mem_withoutKey {entries : List (Key × Value)}
    (distinct : (entries.map Prod.fst).Nodup) (member : entry ∈ withoutKey key entries) :
    entry.1 ≠ key := by
  induction entries with
  | nil => cases member
  | cons first rest inductionHypothesis =>
      obtain ⟨unlisted, distinctRest⟩ := List.nodup_cons.mp distinct
      rw [withoutKey] at member
      by_cases found : first.1 = key
      · rw [if_pos found] at member
        rintro rfl
        rw [found] at unlisted
        exact unlisted (List.mem_map_of_mem ((closeGap_perm rest).mem_iff.mp member))
      · rw [if_neg found] at member
        rcases List.mem_cons.mp member with rfl | later
        · exact found
        · exact inductionHypothesis distinctRest later

theorem get_swapRemove (map : IndexMap Key Value) (key : Key) :
    (map.swapRemove key).get key = none :=
  get_eq_none_iff.mpr fun _ member => ne_of_mem_withoutKey map.distinct member

/-! ## Order -/

theorem entries_insert_of_missing (missing : map.get key = none) :
    (map.insert key value).entries = map.entries ++ [(key, value)] := by
  have unlisted : key ∉ map.entries.map Prod.fst := by
    intro listed
    obtain ⟨entry, member, same⟩ := List.mem_map.mp listed
    exact get_eq_none_iff.mp missing entry member same
  exact if_neg unlisted

/-- The entries behind a key. -/
def behind (key : Key) : List (Key × Value) → List (Key × Value)
  | [] => []
  | entry :: rest => if entry.1 = key then rest else behind key rest

section Relation

variable {relation : Key × Value → Key × Value → Prop} {entries rest : List (Key × Value)}

omit [DecidableEq Key] in
theorem pairwise_closeGap
    (related : ∀ left ∈ rest, ∀ right ∈ rest, relation left right) :
    (closeGap rest).Pairwise relation :=
  List.pairwise_of_forall_mem_list fun left leftMember right rightMember =>
    related left ((closeGap_perm rest).mem_iff.mp leftMember)
      right ((closeGap_perm rest).mem_iff.mp rightMember)

omit [DecidableEq Key] in
/-- The last entry of a sorted list can only go first when all are alike. -/
theorem related_of_pairwise_closeGap (reflexive : ∀ entry, relation entry entry)
    (transitive : ∀ {first second third}, relation first second → relation second third →
      relation first third)
    (sorted : rest.Pairwise relation) (closed : (closeGap rest).Pairwise relation) :
    ∀ left ∈ rest, ∀ right ∈ rest, relation left right := by
  rcases List.eq_nil_or_concat rest with rfl | ⟨front, last, rfl⟩
  · intro left member
    cases member
  · rw [List.concat_eq_append] at *
    have moved : closeGap (front ++ [last]) = last :: front := by
      unfold closeGap
      rw [List.getLast?_concat, List.dropLast_concat]
    rw [moved, List.pairwise_cons] at closed
    have upper := (List.pairwise_append.mp sorted).2.2
    have below : ∀ entry ∈ front ++ [last], relation entry last ∧ relation last entry := by
      intro entry member
      rcases List.mem_append.mp member with earlier | final
      · exact ⟨upper entry earlier last List.mem_cons_self, closed.1 entry earlier⟩
      · rw [List.mem_singleton.mp final]
        exact ⟨reflexive last, reflexive last⟩
    intro left leftMember right rightMember
    exact transitive (below left leftMember).1 (below right rightMember).2

/-- A removal keeps the order if the entries behind the gap are alike. -/
theorem pairwise_withoutKey (sorted : entries.Pairwise relation)
    (related : ∀ left ∈ behind key entries, ∀ right ∈ behind key entries, relation left right) :
    (withoutKey key entries).Pairwise relation := by
  induction entries with
  | nil => exact .nil
  | cons entry rest inductionHypothesis =>
      rw [withoutKey]
      rw [behind] at related
      obtain ⟨first, sortedRest⟩ := List.pairwise_cons.mp sorted
      by_cases found : entry.1 = key
      · rw [if_pos found] at related ⊢
        exact pairwise_closeGap related
      · rw [if_neg found] at related ⊢
        refine List.pairwise_cons.mpr ⟨fun other member => ?_, inductionHypothesis sortedRest related⟩
        exact first other ((withoutKey_subperm key rest).subset member)

/-- Otherwise it does not. -/
theorem related_of_pairwise_withoutKey (reflexive : ∀ entry, relation entry entry)
    (transitive : ∀ {first second third}, relation first second → relation second third →
      relation first third)
    (sorted : entries.Pairwise relation) (removed : (withoutKey key entries).Pairwise relation) :
    ∀ left ∈ behind key entries, ∀ right ∈ behind key entries, relation left right := by
  induction entries with
  | nil =>
      intro left member
      cases member
  | cons entry rest inductionHypothesis =>
      rw [withoutKey] at removed
      rw [behind]
      have sortedRest := (List.pairwise_cons.mp sorted).2
      by_cases found : entry.1 = key
      · rw [if_pos found] at removed ⊢
        exact related_of_pairwise_closeGap reflexive transitive sortedRest removed
      · rw [if_neg found] at removed ⊢
        exact inductionHypothesis sortedRest (List.pairwise_cons.mp removed).2

end Relation

end IndexMap

end Juicity.Machine
