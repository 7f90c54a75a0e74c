import Mathlib.Algebra.GroupWithZero.Nat
import WgMix.Foundation.Table

/-! Sums of a weight over the entries of a table. An assignment changes a sum by the
new entry less the one it replaces, so incremental counters can be compared with it. -/
namespace WgMix.Table

def total {κ ν : Type} (weight : ν → Nat) (table : Table κ ν) : Nat :=
  (table.entries.map fun entry => weight entry.2).sum

theorem length_keys {κ ν : Type} (table : Table κ ν) : table.keys.length = table.total fun _ => 1 := by
  rw [total, AList.keys, List.keys, List.length_map]
  simp

variable {κ ν : Type} [DecidableEq κ]

/-- The weight at one key, none where the key is missing. -/
def weightAt (weight : ν → Nat) (table : Table κ ν) (key : κ) : Nat := ((table.lookup key).map weight).getD 0

variable {weight : ν → Nat} {table : Table κ ν} {key : κ} {value other : ν}

theorem weightAt_some (found : table.lookup key = some value) : table.weightAt weight key = weight value := by
  rw [weightAt, found, Option.map_some, Option.getD_some]

theorem weightAt_none (missing : table.lookup key = none) : table.weightAt weight key = 0 := by
  rw [weightAt, missing, Option.map_none, Option.getD_none]

theorem total_erase (weight : ν → Nat) (table : Table κ ν) (key : κ) :
    total weight (table.erase key) + table.weightAt weight key = table.total weight := by
  by_cases present : key ∈ table
  · obtain ⟨value, found⟩ := Option.isSome_iff_exists.mp (AList.lookup_isSome.mpr present)
    obtain ⟨held, before, after, absent, entries, erased⟩ := List.exists_of_kerase (AList.mem_keys.mp present)
    have here : table.lookup key = some held := by
      rw [AList.mem_lookup_iff.mpr (by rw [entries]; simp : ⟨key, held⟩ ∈ table.entries)]
    rw [weightAt_some here]
    change ((table.entries.kerase key).map fun entry => weight entry.2).sum + weight held =
      (table.entries.map fun entry => weight entry.2).sum
    rw [erased, entries]
    simp only [List.map_append, List.sum_append, List.map_cons, List.sum_cons]
    omega
  · rw [weightAt_none (AList.lookup_eq_none.mpr present), Nat.add_zero]
    change ((table.entries.kerase key).map fun entry => weight entry.2).sum = _
    rw [List.kerase_of_notMem_keys (fun member => present (AList.mem_keys.mpr member))]
    rfl

theorem total_insert_erase (weight : ν → Nat) (table : Table κ ν) (key : κ) (value : ν) :
    total weight (table.insert key value) = weight value + total weight (table.erase key) := by
  change ((AList.insert key value table).entries.map fun entry => weight entry.2).sum = _
  rw [AList.entries_insert, List.map_cons, List.sum_cons]
  rfl

theorem total_insert (weight : ν → Nat) (table : Table κ ν) (key : κ) (value : ν) :
    total weight (table.insert key value) + table.weightAt weight key = table.total weight + weight value := by
  have erased := total_erase weight table key
  rw [total_insert_erase]
  omega

/-- Assigning what is there already. -/
theorem total_reinsert (found : table.lookup key = some value) :
    total weight (table.insert key value) = table.total weight := by
  have moved := total_insert weight table key value
  rw [weightAt_some found] at moved
  omega

theorem length_insert_new (missing : table.lookup key = none) :
    (table.insert key value).keys.length = table.keys.length + 1 := by
  rw [AList.keys_insert, List.length_cons,
    List.erase_of_not_mem fun member => AList.lookup_eq_none.mp missing (AList.mem_keys.mpr member)]

end WgMix.Table
