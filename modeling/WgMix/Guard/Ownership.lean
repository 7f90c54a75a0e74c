import WgMix.Foundation.Guard
import WgMix.Guard.Executor

/-! What the executor's answers say about the kernel: a proof of absence is one, and
no operation leaves a project table that the owner record does not name. -/
namespace WgMix.Guard

namespace Host
variable {host committed : Host} {owner : OwnerRecord} {faults : Faults}

def OwnedTableAbsent (host : Host) : Prop := ∀ owner, host.owner = some owner → owner.table ∉ host.tables

theorem mem_projectTables {name : TableName} :
    name ∈ host.projectTables ↔ name ∈ host.tables ∧ isProjectTableName name = true := by
  rw [projectTables, List.mem_filter, AList.mem_keys]

theorem OwnedTableAbsent.of_empty (empty : host.projectTables = []) : host.OwnedTableAbsent := by
  intro owner _ present
  have listed : owner.table ∈ host.projectTables := mem_projectTables.mpr ⟨present, rfl⟩
  rw [empty] at listed
  contradiction

theorem observeOwnedState_absent
    (absent : (host.observeOwnedState owner faults).1.observation = .absent) : host.projectTables = [] := by
  unfold observeOwnedState at absent
  split at absent
  · contradiction
  split at absent
  · contradiction
  split at absent
  · split at absent
    · contradiction
    split at absent <;> contradiction
  · split at absent
    · assumption
    · contradiction

theorem verifyCleanup_host (host : Host) (owner : OwnerRecord) (deleted : Bool) (faults : Faults) :
    (host.verifyCleanup owner deleted faults).host = host := by
  simp only [verifyCleanup]
  split
  · split <;> rfl
  split
  · rfl
  split <;> rfl

theorem verifyCleanup_observation (host : Host) (owner : OwnerRecord) (deleted : Bool) (faults : Faults) :
    (host.verifyCleanup owner deleted faults).outcome.observation =
      (host.observeOwnedState owner faults).1.observation := by
  simp only [verifyCleanup]
  split
  · split <;> rfl
  split
  · rfl
  split <;> rfl

/-- Absence after a cleanup, with or without an error, is absence in the kernel. -/
theorem cleanup_absent {executed : Executed} (cleans : host.cleanup faults = executed)
    (absent : executed.outcome.observation = .absent) : executed.host.projectTables = [] := by
  unfold cleanup at cleans
  split at cleans
  · subst cleans
    contradiction
  split at cleans
  · split at cleans
    · subst cleans
      contradiction
    · rename_i proved
      subst cleans
      exact not_not.mp (not_or.mp proved).2
  split at cleans
  · subst cleans
    contradiction
  · -- The table is already gone; the three ends differ in the error only.
    dsimp only at cleans
    split at cleans
    · subst cleans
      exact observeOwnedState_absent absent
    split at cleans
    all_goals
      subst cleans
      exact observeOwnedState_absent absent
  · split at cleans
    · subst cleans
      contradiction
    · subst cleans
      rw [verifyCleanup_host]
      rw [verifyCleanup_observation] at absent
      exact observeOwnedState_absent absent

end Host
end WgMix.Guard
