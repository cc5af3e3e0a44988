import Mathlib.Data.List.AList

/-!
Contract: finite maps with `retain`.

A table is an association list without repeated keys, so its size is the number
of its keys. Lookup, insertion and erasure are those of `AList`; this module
adds what a bounded table needs: the size, its change under each operation, and
filtering by a predicate together with the values the filter throws away.
-/

namespace Juicity.Machine

universe u v

variable {Key : Type u} {Value : Type v}

/-- A finite map from keys to values. -/
abbrev Table (Key : Type u) (Value : Type v) := AList (fun _ : Key => Value)

namespace Table

/-- Number of entries. -/
def size (table : Table Key Value) : Nat := table.entries.length

/-- Keep the entries that satisfy the predicate. -/
def retain (keep : Key → Value → Bool) (table : Table Key Value) : Table Key Value :=
  ⟨table.entries.filter fun entry => keep entry.1 entry.2,
    table.nodupKeys.sublist List.filter_sublist⟩

/-- The values `retain` throws away. -/
def dropped (keep : Key → Value → Bool) (table : Table Key Value) : List Value :=
  (table.entries.filter fun entry => !keep entry.1 entry.2).map fun entry => entry.2

theorem size_retain_le (keep : Key → Value → Bool) (table : Table Key Value) :
    size (retain keep table) ≤ size table :=
  List.length_filter_le _ _

variable [DecidableEq Key]

theorem mem_of_lookup {table : Table Key Value} {key : Key} {value : Value}
    (found : table.lookup key = some value) : key ∈ table := by
  rw [← AList.lookup_isSome, found]
  rfl

theorem lookup_of_mem {table : Table Key Value} {key : Key} (member : key ∈ table) :
    ∃ value, table.lookup key = some value :=
  Option.isSome_iff_exists.mp (AList.lookup_isSome.mpr member)

theorem lookup_eq_some_iff {table : Table Key Value} {key : Key} {value : Value} :
    table.lookup key = some value ↔ (⟨key, value⟩ : (_ : Key) × Value) ∈ table.entries :=
  AList.mem_lookup_iff

theorem size_erase_le (table : Table Key Value) (key : Key) :
    size (table.erase key) ≤ size table :=
  (List.kerase_sublist key table.entries).length_le

theorem size_insert_le (table : Table Key Value) (key : Key) (value : Value) :
    size (table.insert key value) ≤ size table + 1 := by
  have erased : (List.kerase key table.entries).length ≤ table.entries.length :=
    (List.kerase_sublist key table.entries).length_le
  simp only [size, AList.entries_insert, List.length_cons]
  omega

/-- Overwriting a key does not grow the table. -/
theorem size_insert_of_mem {table : Table Key Value} {key : Key} (member : key ∈ table)
    (value : Value) : size (table.insert key value) = size table := by
  have listed : key ∈ table.entries.keys := member
  have keyCount : (List.kerase key table.entries).keys.length =
      table.entries.keys.length - 1 := by
    rw [List.keys_kerase, List.length_erase_of_mem listed]
  have present : 0 < table.entries.keys.length := List.length_pos_of_mem listed
  simp only [List.keys, List.length_map] at keyCount present
  simp only [size, AList.entries_insert, List.length_cons, keyCount]
  omega

/-- Filtering leaves the entry of a key unless the predicate rejects it. -/
theorem lookup_retain (keep : Key → Value → Bool) (table : Table Key Value) (key : Key) :
    (retain keep table).lookup key = (table.lookup key).filter (keep key) := by
  ext value
  rw [lookup_eq_some_iff, Option.filter_eq_some_iff, lookup_eq_some_iff]
  simp only [retain, List.mem_filter]

theorem lookup_of_lookup_retain {keep : Key → Value → Bool} {table : Table Key Value}
    {key : Key} {value : Value} (found : (retain keep table).lookup key = some value) :
    table.lookup key = some value := by
  rw [lookup_retain, Option.filter_eq_some_iff] at found
  exact found.1

theorem mem_of_mem_retain {keep : Key → Value → Bool} {table : Table Key Value} {key : Key}
    (member : key ∈ retain keep table) : key ∈ table := by
  obtain ⟨value, found⟩ := lookup_of_mem member
  exact mem_of_lookup (lookup_of_lookup_retain found)

/-- An entry survives the filter, or its value is among those thrown away. -/
theorem lookup_retain_or_dropped (keep : Key → Value → Bool) {table : Table Key Value}
    {key : Key} {value : Value} (found : table.lookup key = some value) :
    (retain keep table).lookup key = some value ∨ value ∈ dropped keep table := by
  cases kept : keep key value with
  | true =>
      left
      rw [lookup_retain, found]
      simp [Option.filter, kept]
  | false =>
      right
      have member := lookup_eq_some_iff.mp found
      refine List.mem_map.mpr ⟨⟨key, value⟩, List.mem_filter.mpr ⟨member, ?_⟩, rfl⟩
      simp [kept]

end Table

end Juicity.Machine
