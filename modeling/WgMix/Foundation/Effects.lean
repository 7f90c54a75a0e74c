import Mathlib.Init

/-! Programs that may fail half way: what they did before the failure stays done.
`EStateM` returns the state with the error, so a program's effect is a relation
between the two states, whatever the outcome. -/
namespace WgMix.Effects
variable {ε S α β : Type}

/-- The state a program leaves, by returning or by failing. -/
def after (program : EStateM ε S α) (state : S) : S :=
  match program state with
  | .ok _ left => left
  | .error _ left => left

theorem seq_ok {program : EStateM ε S α} {next : α → EStateM ε S β}
    (done : (program >>= next) state = .ok result left) :
    ∃ value middle, program state = .ok value middle ∧ next value middle = .ok result left := by
  simp only [bind, EStateM.bind] at done
  split at done
  · exact ⟨_, _, ‹_›, done⟩
  · contradiction

/-- One operation: the state it leaves, and the error it may return. -/
def perform (effect : S → S × Option ε) : EStateM ε S Unit := fun state =>
  match effect state with
  | (left, none) => .ok () left
  | (left, some cause) => .error cause left

theorem perform_ok {effect : S → S × Option ε} (done : perform effect state = .ok () left) :
    effect state = (left, none) := by
  unfold perform at done
  split at done
  · rename_i same
    cases done
    exact same
  · contradiction

theorem after_perform (effect : S → S × Option ε) (state : S) :
    after (perform effect) state = (effect state).1 := by
  unfold after perform
  rcases effect state with ⟨left, _ | cause⟩ <;> rfl

/-- One operation that returns a value or an error. -/
def obtained (effect : S → S × Except ε α) : EStateM ε S α := fun state =>
  match effect state with
  | (left, .ok value) => .ok value left
  | (left, .error cause) => .error cause left

def check (failing : Bool) (cause : ε) : EStateM ε S Unit := if failing then throw cause else pure ()

/-- An invariant of the state holds however the program ends. -/
def Keeps (P : S → Prop) (program : EStateM ε S α) : Prop := ∀ state, P state → P (after program state)

namespace Keeps
variable {P : S → Prop}

theorem pure (value : α) : Keeps P (pure value : EStateM ε S α) := fun _ holds => holds

theorem throw (cause : ε) : Keeps P (throw cause : EStateM ε S α) := fun _ holds => holds

theorem check (failing : Bool) (cause : ε) : Keeps P (check failing cause : EStateM ε S Unit) := by
  cases failing with
  | true => exact throw cause
  | false => exact pure ()

theorem perform {effect : S → S × Option ε} (each : ∀ state, P state → P (effect state).1) :
    Keeps P (perform effect) := by
  intro state holds
  rw [after_perform]
  exact each state holds

theorem obtained {effect : S → S × Except ε α} (each : ∀ state, P state → P (effect state).1) :
    Keeps P (obtained effect) := by
  intro state holds
  have kept := each state holds
  rw [after, Effects.obtained]
  generalize effect state = ran at kept ⊢
  rcases ran with ⟨left, cause | value⟩ <;> exact kept

theorem ok {program : EStateM ε S α} (keeps : Keeps P program) (holds : P state)
    (done : program state = .ok value left) : P left := by
  have kept := keeps state holds
  rw [after, done] at kept
  exact kept

theorem bind {program : EStateM ε S α} {next : α → EStateM ε S β} (first : Keeps P program)
    (later : ∀ value, Keeps P (next value)) : Keeps P (program >>= next) := by
  intro state holds
  have middle := first state holds
  unfold after at middle ⊢
  simp only [Bind.bind, EStateM.bind]
  split at middle
  · rename_i value left ran
    rw [ran]
    exact later value left middle
  · rename_i ran
    rw [ran]
    exact middle

end Keeps

/-- From `pre`, returning gives `post` and failing gives `fail`. -/
def Ensures (pre : S → Prop) (program : EStateM ε S α) (post : α → S → Prop) (fail : S → Prop) : Prop :=
  ∀ state, pre state →
    match program state with
    | .ok value left => post value left
    | .error _ left => fail left

namespace Ensures
variable {pre fail : S → Prop} {post : α → S → Prop}

theorem pure {value : α} (given : ∀ state, pre state → post value state) :
    Ensures pre (pure value : EStateM ε S α) post fail := given

theorem throw {cause : ε} (given : ∀ state, pre state → fail state) :
    Ensures pre (throw cause : EStateM ε S α) post fail := given

theorem check {failing : Bool} {cause : ε} {post : Unit → S → Prop} (kept : ∀ state, pre state → fail state)
    (given : ∀ state, failing = false → pre state → post () state) :
    Ensures pre (check failing cause : EStateM ε S Unit) post fail := by
  cases failing with
  | true => exact throw kept
  | false => exact pure fun state holds => given state rfl holds

theorem perform {effect : S → S × Option ε} {post : Unit → S → Prop}
    (done : ∀ state, pre state → (effect state).2 = none → post () (effect state).1)
    (failed : ∀ state, pre state → fail (effect state).1) : Ensures pre (perform effect) post fail := by
  intro state holds
  have returned := done state holds
  have stopped := failed state holds
  rw [Effects.perform]
  generalize effect state = ran at returned stopped ⊢
  rcases ran with ⟨left, _ | cause⟩
  · exact returned rfl
  · exact stopped

theorem obtained {effect : S → S × Except ε α}
    (done : ∀ state value, pre state → (effect state).2 = .ok value → post value (effect state).1)
    (failed : ∀ state, pre state → fail (effect state).1) : Ensures pre (obtained effect) post fail := by
  intro state holds
  have returned (value : α) := done state value holds
  have stopped := failed state holds
  rw [Effects.obtained]
  generalize effect state = ran at returned stopped ⊢
  rcases ran with ⟨left, cause | value⟩
  · exact stopped
  · exact returned value rfl

theorem bind {program : EStateM ε S α} {next : α → EStateM ε S β} {middle : α → S → Prop}
    {post : β → S → Prop} (first : Ensures pre program middle fail)
    (later : ∀ value, Ensures (middle value) (next value) post fail) :
    Ensures pre (program >>= next) post fail := by
  intro state holds
  have ran := first state holds
  simp only [Bind.bind, EStateM.bind]
  split at ran
  · rename_i value left same
    rw [same]
    exact later value left ran
  · rename_i same
    rw [same]
    exact ran

theorem weaken {weaker : S → Prop} {program : EStateM ε S α} (given : ∀ state, pre state → weaker state)
    (ensured : Ensures weaker program post fail) : Ensures pre program post fail :=
  fun state holds => ensured state (given state holds)

theorem relax {program : EStateM ε S α} {looser : α → S → Prop} (ensured : Ensures pre program post fail)
    (given : ∀ value state, post value state → looser value state) : Ensures pre program looser fail := by
  intro state holds
  have ran := ensured state holds
  cases result : program state with
  | ok value left =>
    rw [result] at ran
    exact given value left ran
  | error cause left =>
    rw [result] at ran
    exact ran

theorem of_after {program : EStateM ε S α} (given : ∀ state, pre state → fail (Effects.after program state)) :
    Ensures pre program (fun _ => fail) fail := by
  intro state holds
  have left := given state holds
  rw [Effects.after] at left
  cases result : program state with
  | ok value ended =>
    rw [result] at left
    exact left
  | error cause ended =>
    rw [result] at left
    exact left

/-- The state a program leaves, when both outcomes give the same. -/
theorem after {program : EStateM ε S α} (ensured : Ensures pre program (fun _ => fail) fail)
    (holds : pre state) : fail (after program state) := by
  have ran := ensured state holds
  rw [Effects.after]
  split at ran
  · exact ran
  · exact ran

end Ensures

end WgMix.Effects
