import Mathlib.Data.List.Basic

/-! Items that wait in a queue until they leave it, all at once, emitted or discarded. Whatever the
sequence of such steps, each accepted item has exactly one place, and order of acceptance is order of
emission. -/
namespace WgMix
variable {α : Type}

inductive Fate where
  | emitted
  | discarded
  deriving DecidableEq, Repr

/-- The items with one fate, in the order of their acceptance. -/
def withFate (fate : Fate) (settled : List (α × Fate)) : List α :=
  (settled.filter (·.2 = fate)).map Prod.fst

/-- The accepted items are those that are settled and, behind them, those that wait. -/
def Custody (accepted emitted discarded queue : List α) : Prop :=
  ∃ settled : List (α × Fate), accepted = settled.map Prod.fst ++ queue ∧
    emitted = withFate .emitted settled ∧ discarded = withFate .discarded settled

/-- One step: what it accepts, emits and discards, and the queue before and after. -/
inductive Turnover : (accepted emitted discarded before after : List α) → Prop where
  | keep (queue : List α) : Turnover [] [] [] queue queue
  | enqueue (queue : List α) (item : α) : Turnover [item] [] [] queue (queue ++ [item])
  | release (queue : List α) : Turnover [] queue [] queue []
  | pass (item : α) : Turnover [item] [item] [] [] []
  | discard (queue arriving : List α) : Turnover arriving [] (queue ++ arriving) queue []

theorem withFate_append (fate : Fate) (first second : List (α × Fate)) :
    withFate fate (first ++ second) = withFate fate first ++ withFate fate second := by
  simp only [withFate, List.filter_append, List.map_append]

theorem withFate_same (fate : Fate) (items : List α) : withFate fate (items.map (·, fate)) = items := by
  induction items with
  | nil => rfl
  | cons item rest ih => simpa [withFate] using ih

theorem withFate_other (apart : fate ≠ other) (items : List α) : withFate other (items.map (·, fate)) = [] := by
  induction items with
  | nil => rfl
  | cons item rest _ => simp [withFate, apart]

namespace Custody
variable {accepted emitted discarded queue : List α}

theorem nil : Custody ([] : List α) [] [] [] := ⟨[], rfl, rfl, rfl⟩

/-- The whole queue, and what arrives with it, goes one way. -/
theorem settle (custody : Custody accepted emitted discarded queue) (arriving : List α) (fate : Fate) :
    Custody (accepted ++ arriving)
      (emitted ++ if fate = .emitted then queue ++ arriving else [])
      (discarded ++ if fate = .discarded then queue ++ arriving else []) [] := by
  obtain ⟨settled, all, out, lost⟩ := custody
  have items : ((queue ++ arriving).map (·, fate)).map Prod.fst = queue ++ arriving := by
    rw [List.map_map]
    exact List.map_id _
  refine ⟨settled ++ (queue ++ arriving).map (·, fate), ?_, ?_, ?_⟩
  · rw [List.map_append, items, all, List.append_nil, List.append_assoc]
  · cases fate with
    | emitted => rw [withFate_append, withFate_same, ← out, if_pos rfl]
    | discarded => rw [withFate_append, withFate_other (by decide), ← out, if_neg (by decide)]
  · cases fate with
    | emitted => rw [withFate_append, withFate_other (by decide), ← lost, if_neg (by decide)]
    | discarded => rw [withFate_append, withFate_same, ← lost, if_pos rfl]

theorem turnover (custody : Custody accepted emitted discarded queue)
    (step : Turnover more out lost queue after) :
    Custody (accepted ++ more) (emitted ++ out) (discarded ++ lost) after := by
  cases step with
  | keep => simpa only [List.append_nil] using custody
  | enqueue _ item =>
    obtain ⟨settled, all, sent, dropped⟩ := custody
    refine ⟨settled, ?_, ?_, ?_⟩
    · rw [all, List.append_assoc]
    · rw [List.append_nil, sent]
    · rw [List.append_nil, dropped]
  | release =>
    have settled := custody.settle [] .emitted
    rwa [if_pos rfl, if_neg (by decide), List.append_nil queue] at settled
  | pass item =>
    have settled := custody.settle [item] .emitted
    rwa [if_pos rfl, if_neg (by decide), List.nil_append] at settled
  | discard =>
    have settled := custody.settle more .discarded
    rwa [if_pos rfl, if_neg (by decide)] at settled

theorem emitted_accepted (custody : Custody accepted emitted discarded queue) (member : item ∈ emitted) :
    item ∈ accepted := by
  obtain ⟨settled, all, out, _⟩ := custody
  rw [out, withFate, List.mem_map] at member
  obtain ⟨entry, kept, rfl⟩ := member
  rw [all]
  exact List.mem_append_left _ (List.mem_map_of_mem (List.mem_of_mem_filter kept))

/-- No accepted item is missing and none has two places. -/
theorem length_eq (custody : Custody accepted emitted discarded queue) :
    accepted.length = emitted.length + discarded.length + queue.length := by
  obtain ⟨settled, rfl, rfl, rfl⟩ := custody
  rw [List.length_append, List.length_map]
  congr 1
  induction settled with
  | nil => rfl
  | cons entry rest ih =>
    obtain ⟨item, fate⟩ := entry
    cases fate with
    | emitted => simp [withFate] at ih ⊢; omega
    | discarded => simp [withFate] at ih ⊢; omega

end Custody
end WgMix
