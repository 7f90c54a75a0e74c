import Mathlib.Data.List.Basic

/-! Runs of a deterministic machine over a list of inputs, counted loops that may
stop early, and histories whose events were each permitted when they happened. -/
namespace WgMix.Runs
variable {S : Type*} {I E : Type}

def run (step : S → I → S) (start : S) (inputs : List I) : S := inputs.foldl step start

/-- Every input of a run, in the state it is taken from. -/
def Along (step : S → I → S) (holds : S → I → Prop) : S → List I → Prop
  | _, [] => True
  | state, input :: rest => holds state input ∧ Along step holds (step state input) rest

instance Along.decidable (step : S → I → S) (holds : S → I → Prop)
    [∀ state input, Decidable (holds state input)] :
    ∀ (state : S) (inputs : List I), Decidable (Along step holds state inputs)
  | _, [] => isTrue trivial
  | state, input :: rest =>
    have := Along.decidable step holds (step state input) rest
    inferInstanceAs (Decidable (holds state input ∧ Along step holds (step state input) rest))

/-- What every admissible input preserves holds at the end of a run. -/
theorem invariant {step : S → I → S} {holds : S → I → Prop} {P : S → Prop}
    (preserves : ∀ state input, P state → holds state input → P (step state input)) (initial : P start)
    (along : Along step holds start inputs) : P (run step start inputs) := by
  induction inputs generalizing start with
  | nil => exact initial
  | cons input rest ih =>
    obtain ⟨first, later⟩ := along
    exact ih (preserves start input initial first) later

theorem run_append (step : S → I → S) (start : S) (first second : List I) :
    run step start (first ++ second) = run step (run step start first) second := List.foldl_append

theorem Along.append {step : S → I → S} {holds : S → I → Prop} (along : Along step holds start (first ++ second)) :
    Along step holds start first ∧ Along step holds (run step start first) second := by
  induction first generalizing start with
  | nil => exact ⟨trivial, along⟩
  | cons input rest ih =>
    obtain ⟨here, later⟩ := along
    exact ⟨⟨here, (ih later).1⟩, (ih later).2⟩

/-- What the steps of a run yield, in their order. -/
def collect (step : S → I → S) (yields : S → I → List E) : S → List I → List E
  | _, [] => []
  | state, input :: rest => yields state input ++ collect step yields (step state input) rest

theorem mem_collect {step : S → I → S} {yields : S → I → List E} {inputs : List I}
    (member : item ∈ collect step yields start inputs) :
    ∃ earlier input later, inputs = earlier ++ input :: later ∧ item ∈ yields (run step start earlier) input := by
  induction inputs generalizing start with
  | nil => exact absurd member List.not_mem_nil
  | cons input rest ih =>
    rcases List.mem_append.mp member with here | there
    · exact ⟨[], input, rest, rfl, here⟩
    · obtain ⟨earlier, next, later, split, found⟩ := ih there
      exact ⟨input :: earlier, next, later, by rw [split, List.cons_append], found⟩

theorem collect_snoc (step : S → I → S) (yields : S → I → List E) (start : S) (inputs : List I) (input : I) :
    collect step yields start (inputs ++ [input]) =
      collect step yields start inputs ++ yields (run step start inputs) input := by
  induction inputs generalizing start with
  | nil => exact List.append_nil _
  | cons first rest ih =>
    rw [List.cons_append, collect, ih, collect, List.append_assoc]
    rfl

theorem collect_mem {step : S → I → S} {yields : S → I → List E} {earlier later : List I}
    (member : item ∈ yields (run step start earlier) input) :
    item ∈ collect step yields start (earlier ++ input :: later) := by
  induction earlier generalizing start with
  | nil => exact List.mem_append_left _ member
  | cons first rest ih => exact List.mem_append_right _ (ih member)

/-- What every input preserves holds at the end of every run. -/
theorem always {step : S → I → S} {P : S → Prop} (preserves : ∀ state input, P state → P (step state input))
    (initial : P start) (inputs : List I) : P (run step start inputs) := by
  induction inputs generalizing start with
  | nil => exact initial
  | cons input rest ih => exact ih (preserves start input initial)

/-- A loop over the indices below a bound that stops at the first failing turn. -/
def loop (body : Nat → S → Option S) : (count : Nat) → S → Option S
  | 0, state => some state
  | count + 1, state => (loop body count state).bind (body count)

/-- Every event was allowed by what came before it. -/
def Permitted (allowed : List E → E → Prop) (history : List E) : Prop :=
  ∀ before event after, history = before ++ event :: after → allowed before event

namespace Permitted
variable {allowed : List E → E → Prop} {history events : List E}

theorem nil : Permitted allowed [] := by
  intro before event after split
  simp at split

theorem snoc (permitted : Permitted allowed history) (next : allowed history event) :
    Permitted allowed (history ++ [event]) := by
  intro before other after split
  rcases List.eq_nil_or_concat after with rfl | ⟨rest, last, rfl⟩
  · obtain ⟨rfl, same⟩ := List.append_inj' split rfl
    cases same
    exact next
  · rw [List.concat_eq_append, ← List.cons_append, ← List.append_assoc] at split
    obtain ⟨same, _⟩ := List.append_inj' split rfl
    exact permitted before other rest same

theorem earlier {more : List E} (permitted : Permitted allowed (history ++ more)) : Permitted allowed history := by
  intro before event after split
  refine permitted before event (after ++ more) ?_
  rw [split, List.append_assoc, List.cons_append]

/-- Events that are allowed at any time. -/
theorem append_free (permitted : Permitted allowed history)
    (free : ∀ event ∈ events, ∀ before, allowed before event) : Permitted allowed (history ++ events) := by
  induction events generalizing history with
  | nil => rwa [List.append_nil]
  | cons event rest ih =>
    rw [← List.singleton_append, ← List.append_assoc]
    apply ih
    · exact permitted.snoc (free event List.mem_cons_self history)
    · intro later member
      exact free later (List.mem_cons_of_mem _ member)

end Permitted

end WgMix.Runs
