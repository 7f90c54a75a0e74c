import Mathlib.Init

/-! Sequences of checks in `Except` and `Option`: what a result that came through
them says. -/
namespace WgMix
variable {ε α : Type}

/-- A result that came through a check passed it. -/
theorem guard_ok {failing : Prop} [Decidable failing] {cause : ε} {rest : Except ε α} {value : α}
    (done : (if failing then .error cause else rest) = .ok value) : ¬failing ∧ rest = .ok value := by
  split at done
  · contradiction
  · exact ⟨‹_›, done⟩

theorem guard_some {failing : Prop} [Decidable failing] {rest : Option α} {value : α}
    (done : (if failing then none else rest) = some value) : ¬failing ∧ rest = some value := by
  split at done
  · contradiction
  · exact ⟨‹_›, done⟩

/-- A computation that may fail has a result, and it stands in this relation to another's. -/
def Yields (good : α → β → Prop) (ours : Option α) (theirs : β) : Prop :=
  ∃ result, ours = some result ∧ good result theirs

namespace Yields
variable {good : α → β → Prop}

theorem done (holds : good result theirs) : Yields good (some result) theirs := ⟨result, rfl, holds⟩

/-- One decision, that each side may spell in its own way. -/
theorem ite {condition other : Prop} [Decidable condition] [Decidable other] (same : condition ↔ other)
    (yes : condition → Yields good first left) (no : ¬condition → Yields good second right) :
    Yields good (if condition then first else second) (if other then left else right) := by
  by_cases holds : condition
  · rw [if_pos holds, if_pos (same.mp holds)]
    exact yes holds
  · rw [if_neg holds, if_neg fun holds' => holds (same.mpr holds')]
    exact no holds

/-- A decision the other side makes, always with the same outcome. -/
theorem skip {other : Prop} [Decidable other] (never : ¬other) (rest : Yields good ours right) :
    Yields good ours (if other then left else right) := by
  rwa [if_neg never]

theorem map {wider : γ → β → Prop} (yields : Yields good ours theirs) (next : α → γ)
    (keeps : ∀ result, good result theirs → wider (next result) theirs) :
    Yields wider (ours.map next) theirs := by
  obtain ⟨result, rfl, holds⟩ := yields
  exact done (keeps result holds)

end Yields

/-- A check that answers with a status of its own. -/
theorem guard_status {σ : Type} {failing : Prop} [Decidable failing] {status good : σ} {cut value : α}
    {rest : σ × α} (done : (if failing then (status, cut) else rest) = (good, value)) (other : status ≠ good) :
    ¬failing ∧ rest = (good, value) := by
  split at done
  · exact absurd (Prod.ext_iff.mp done).1 other
  · exact ⟨‹_›, done⟩

/-- A result that came through two stages came through each. -/
theorem bind_ok {β : Type} {first : Except ε α} {next : α → Except ε β} {value : β}
    (done : first >>= next = .ok value) : ∃ middle, first = .ok middle ∧ next middle = .ok value := by
  cases first with
  | error cause => contradiction
  | ok middle => exact ⟨middle, rfl, done⟩

/-- A missing value answers with a cause. -/
theorem elim_ok {held : Option α} {cause : ε} (done : held.elim (.error cause) .ok = (.ok value : Except ε α)) :
    held = some value := by
  cases held with
  | none => contradiction
  | some other => exact congrArg some (Except.ok.inj done)

/-- What either end of a fallible stage satisfies. -/
def Returns (bad : ε → Prop) (good : α → Prop) : Except ε α → Prop
  | .error cause => bad cause
  | .ok value => good value

theorem Returns.of_cases {bad : ε → Prop} {good : α → Prop} {stage : Except ε α}
    (fails : ∀ cause, stage = .error cause → bad cause) (gives : ∀ value, stage = .ok value → good value) :
    Returns bad good stage := by
  cases stage with
  | error cause => exact fails cause rfl
  | ok value => exact gives value rfl

theorem Returns.bind {β : Type} {bad : ε → Prop} {good : α → Prop} {final : β → Prop} {stage : Except ε α}
    {rest : α → Except ε β} (first : Returns bad good stage)
    (continues : ∀ value, good value → Returns bad final (rest value)) : Returns bad final (stage >>= rest) := by
  cases stage with
  | error cause => exact first
  | ok value => exact continues value first

theorem Returns.mono {bad worse : ε → Prop} {good better : α → Prop} {stage : Except ε α}
    (returns : Returns bad good stage) (fails : ∀ cause, bad cause → worse cause)
    (lifts : ∀ value, good value → better value) : Returns worse better stage := by
  cases stage with
  | error cause => exact fails cause returns
  | ok value => exact lifts value returns

theorem forM_ok {items : List α} {check : α → Except ε Unit} (each : ∀ item ∈ items, check item = .ok ()) :
    items.forM check = .ok () := by
  induction items with
  | nil => rfl
  | cons item rest ih =>
    simp only [List.forM, each item List.mem_cons_self, bind, Except.bind]
    exact ih fun later member => each later (List.mem_cons_of_mem _ member)

end WgMix
