import Mathlib.Data.List.AList

/-! Finite maps filled by a loop of assignments, where a later entry replaces an
earlier one of the same key. -/
namespace WgMix

abbrev Table (κ ν : Type) := AList fun _ : κ => ν

namespace Table
variable {κ ν : Type} [DecidableEq κ]

def fillFrom (table : Table κ ν) (entries : List (κ × ν)) : Table κ ν :=
  entries.foldl (fun filled entry => filled.insert entry.1 entry.2) table

def fill (entries : List (κ × ν)) : Table κ ν := fillFrom ∅ entries

theorem lookup_fillFrom {table : Table κ ν} {entries : List (κ × ν)}
    (found : (table.fillFrom entries).lookup key = some value) :
    table.lookup key = some value ∨ (key, value) ∈ entries := by
  induction entries generalizing table with
  | nil => exact .inl found
  | cons entry rest ih =>
    rcases ih found with inserted | later
    · by_cases same : key = entry.1
      · subst same
        rw [AList.lookup_insert, Option.some_inj] at inserted
        subst inserted
        exact .inr List.mem_cons_self
      · rw [AList.lookup_insert_ne same] at inserted
        exact .inl inserted
    · exact .inr (List.mem_cons_of_mem _ later)

/-- Whatever a filled map holds was assigned. -/
theorem lookup_fill {entries : List (κ × ν)} (found : (fill entries).lookup key = some value) :
    (key, value) ∈ entries := by
  rcases lookup_fillFrom found with initial | assigned
  · simp at initial
  · exact assigned

/-- Entries computed from the items of a list. -/
theorem lookup_fill_map {ι : Type} {items : List ι} {entry : ι → κ × ν}
    (found : (fill (items.map entry)).lookup key = some value) :
    ∃ item ∈ items, (entry item).1 = key ∧ (entry item).2 = value := by
  obtain ⟨item, member, assigned⟩ := List.mem_map.mp (lookup_fill found)
  exact ⟨item, member, Prod.ext_iff.mp assigned⟩

end Table
end WgMix
