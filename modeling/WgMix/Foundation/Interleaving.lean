import WgMix.Foundation.Runs

/-! Threads over one shared state: each turn lets one thread take one atomic
step, and new threads may start at any time. -/
namespace WgMix.Interleaving
variable {G L C : Type}

structure System (G L : Type) where
  shared : G
  threads : List L

inductive Turn (L C : Type) where
  | spawn (thread : L)
  | act (index : Nat) (choice : C)

/-- A turn for a thread that does not exist changes nothing. -/
def step (act : C → G → L → G × L) (system : System G L) : Turn L C → System G L
  | .spawn thread => { system with threads := system.threads ++ [thread] }
  | .act index choice =>
    match system.threads[index]? with
    | none => system
    | some thread =>
      { shared := (act choice system.shared thread).1,
        threads := system.threads.set index (act choice system.shared thread).2 }

/-- The two ways in which a turn changes a system. -/
theorem step_cases (act : C → G → L → G × L) (system : System G L) (turn : Turn L C) :
    step act system turn = system ∨
      (∃ thread, turn = .spawn thread ∧
        step act system turn = { system with threads := system.threads ++ [thread] }) ∨
      ∃ index choice thread, turn = .act index choice ∧ system.threads[index]? = some thread ∧
        step act system turn = { shared := (act choice system.shared thread).1,
                                 threads := system.threads.set index (act choice system.shared thread).2 } := by
  cases turn with
  | spawn thread => exact .inr (.inl ⟨thread, rfl, rfl⟩)
  | act index choice =>
    cases found : system.threads[index]? with
    | none =>
      left
      simp only [step, found]
    | some thread =>
      refine .inr (.inr ⟨index, choice, thread, rfl, found, ?_⟩)
      simp only [step, found]

/-- Replacing one thread moves a count by what the two threads add to it. -/
theorem countP_set (holds : L → Bool) {threads : List L} (at_ : threads[index]? = some thread) (other : L) :
    (threads.set index other).countP holds + (if holds thread then 1 else 0) =
      threads.countP holds + (if holds other then 1 else 0) := by
  induction threads generalizing index with
  | nil => contradiction
  | cons first rest ih =>
    cases index with
    | zero =>
      cases at_
      simp only [List.set_cons_zero, List.countP_cons]
      omega
    | succ index =>
      have moved := ih at_
      simp only [List.set_cons_succ, List.countP_cons]
      omega

/-- A thread that is there is counted. -/
theorem countP_pos {holds : L → Bool} {threads : List L} {index : Nat} (at_ : threads[index]? = some thread)
    (counted : holds thread = true) : 0 < threads.countP holds :=
  List.countP_pos_iff.mpr ⟨thread, List.mem_of_getElem? at_, counted⟩

/-- A thread that only the wider of two properties counts. -/
theorem countP_lt {narrow wide : L → Bool} (wider : ∀ thread, narrow thread = true → wide thread = true)
    {threads : List L} {index : Nat} (at_ : threads[index]? = some thread) (outside : narrow thread = false)
    (counted : wide thread = true) : threads.countP narrow < threads.countP wide := by
  have rest (others : List L) : others.countP narrow ≤ others.countP wide :=
    List.countP_mono_left fun other _ => wider other
  induction threads generalizing index with
  | nil => contradiction
  | cons first others ih =>
    rw [List.countP_cons, List.countP_cons]
    cases index with
    | zero =>
      cases at_
      have bound := rest others
      simp only [outside, counted, Bool.false_eq_true, if_false, if_true]
      omega
    | succ index =>
      have below := ih at_
      by_cases inner : narrow first = true
      · simp only [inner, wider first inner, if_true]
        omega
      · rw [if_neg inner]
        omega

end WgMix.Interleaving
