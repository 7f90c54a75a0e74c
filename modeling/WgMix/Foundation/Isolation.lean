import Mathlib.Data.List.Forall2

/-! A machine that answers inputs with outputs, and one component of it: whatever the component does
not hear neither changes it nor makes it speak. Two runs in which it hears alike then look alike. -/
namespace WgMix.Isolation
variable {S I O V L : Type}

def run (step : S → I → S × List O) : S → List I → S × List O
  | state, [] => (state, [])
  | state, input :: rest =>
    let next := step state input
    let later := run step next.1 rest
    (later.1, next.2 ++ later.2)

/-- What a component hears along a run. -/
def heard (step : S → I → S × List O) (hears : S → I → Option L) : S → List I → List L
  | _, [] => []
  | state, input :: rest => (hears state input).toList ++ heard step hears (step state input).1 rest

theorem heard_append (step : S → I → S × List O) (hears : S → I → Option L) (state : S) (first second : List I) :
    heard step hears state (first ++ second) =
      heard step hears state first ++ heard step hears (run step state first).1 second := by
  induction first generalizing state with
  | nil => rfl
  | cons input rest ih =>
    simp only [List.cons_append, heard, run, ih, List.append_assoc]

/-- What one step preserves holds at the end of every run. -/
theorem run_invariant {step : S → I → S × List O} {P : S → Prop}
    (keeps : ∀ state input, P state → P (step state input).1) (holds : P state) (inputs : List I) :
    P (run step state inputs).1 := by
  induction inputs generalizing state with
  | nil => exact holds
  | cons input rest ih => exact ih (keeps state input holds)

/-- In the states of an invariant, what a component hears decides its view and its own outputs. -/
structure Component (step : S → I → S × List O) (invariant : S → Prop) (view : S → V) (own : O → Bool)
    (hears : S → I → Option L) (react : V → L → V × List O) : Prop where
  keeps : ∀ state input, invariant state → invariant (step state input).1
  silent : ∀ state input, invariant state → hears state input = none →
    view (step state input).1 = view state ∧ (step state input).2.filter own = []
  reacts : ∀ state input message, invariant state → hears state input = some message →
    react (view state) message = (view (step state input).1, (step state input).2.filter own)

section Component
variable {step : S → I → S × List O} {invariant : S → Prop} {view : S → V} {own : O → Bool}
variable {hears : S → I → Option L} {react : V → L → V × List O}

/-- The component alone, on what it hears, does what the machine does of it. -/
theorem Component.run (component : Component step invariant view own hears react) (holds : invariant state)
    (inputs : List I) :
    Isolation.run react (view state) (heard step hears state inputs) =
      (view (Isolation.run step state inputs).1, (Isolation.run step state inputs).2.filter own) := by
  induction inputs generalizing state with
  | nil => rfl
  | cons input rest ih =>
    have later := ih (component.keeps state input holds)
    cases message : hears state input with
    | none =>
      obtain ⟨same, quiet⟩ := component.silent state input holds message
      simp only [heard, message, Option.toList_none, List.nil_append, Isolation.run, List.filter_append, quiet]
      rw [← same]
      exact later
    | some message' =>
      have reacts := component.reacts state input message' holds message
      simp only [heard, message, Option.toList_some, List.singleton_append, Isolation.run, List.filter_append,
        reacts, later]

/-- Messages that a component cannot tell apart leave equal traces. -/
theorem run_similar {fits : V → Prop} {proper : L → Prop} {similar : L → L → Prop}
    (respects : ∀ seen one two, fits seen → proper one → similar one two →
      react seen one = react seen two ∧ fits (react seen one).1)
    (fit : fits seen) (all : ∀ message ∈ first, proper message) (alike : List.Forall₂ similar first second) :
    Isolation.run react seen first = Isolation.run react seen second := by
  induction alike generalizing seen with
  | nil => rfl
  | cons near _ ih =>
    obtain ⟨same, next⟩ := respects seen _ _ fit (all _ List.mem_cons_self) near
    simp only [Isolation.run, ← same, ih next fun message member => all message (List.mem_cons_of_mem _ member)]

theorem Component.heard_proper (component : Component step invariant view own hears react) {proper : L → Prop}
    (each : ∀ state input message, invariant state → hears state input = some message → proper message)
    (holds : invariant state) (inputs : List I) : ∀ message ∈ heard step hears state inputs, proper message := by
  induction inputs generalizing state with
  | nil => exact nofun
  | cons input rest ih =>
    intro message member
    rcases List.mem_append.mp member with now | later
    · exact each state input message holds (Option.mem_toList.mp now)
    · exact ih (component.keeps state input holds) message later

/-- Two runs in which a component hears alike: equal views and equal outputs of its own. -/
theorem Component.isolated (component : Component step invariant view own hears react) {fits : V → Prop}
    {proper : L → Prop} {similar : L → L → Prop}
    (each : ∀ state input message, invariant state → hears state input = some message → proper message)
    (respects : ∀ seen one two, fits seen → proper one → similar one two →
      react seen one = react seen two ∧ fits (react seen one).1)
    (holds : invariant state) (fit : fits (view state))
    (alike : List.Forall₂ similar (heard step hears state first) (heard step hears state second)) :
    (Isolation.run step state first).2.filter own = (Isolation.run step state second).2.filter own ∧
      view (Isolation.run step state first).1 = view (Isolation.run step state second).1 := by
  have same := run_similar respects fit (component.heard_proper each holds first) alike
  rw [component.run holds first, component.run holds second] at same
  exact ⟨congrArg Prod.snd same, congrArg Prod.fst same⟩

end Component
end WgMix.Isolation
