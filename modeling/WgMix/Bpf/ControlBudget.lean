import Mathlib.Algebra.Group.Nat.Defs
import WgMix.Foundation.Interleaving
import WgMix.Foundation.Spacing

/-! The budget for control events: a cursor in virtual time that callers on any number of CPUs advance
by compare-and-swap. Every load and every swap of the cursor is a turn of its own; each caller has its
own clock. -/
namespace WgMix.Bpf.ControlBudget
open Interleaving

def controlMinIntervalNanos : UInt64 := 10000000
def controlMaxIntervalNanos : UInt64 := 10000000000
def controlMaxBurst : UInt32 := 4096
def controlCasAttempts : Nat := 4

structure Policy where
  intervalNanos : UInt64
  burst : UInt32

def Policy.valid (policy : Policy) : Bool :=
  ¬(policy.intervalNanos < controlMinIntervalNanos ∨ policy.intervalNanos > controlMaxIntervalNanos ∨
    policy.burst = 0 ∨ policy.burst > controlMaxBurst)

/-- An operation on 64-bit words. -/
inductive Arith where
  | add (left right : UInt64)
  | sub (left right : UInt64)
  | mul (left right : UInt64)

namespace Arith

def value : Arith → UInt64
  | .add left right => left + right
  | .sub left right => left - right
  | .mul left right => left * right

def exact : Arith → Int
  | .add left right => left.toNat + right.toNat
  | .sub left right => left.toNat - right.toNat
  | .mul left right => left.toNat * right.toNat

/-- The word is not the number that the operation stands for. -/
def Wraps (arith : Arith) : Prop := (arith.value.toNat : Int) ≠ arith.exact

end Arith

def allOnes : UInt64 := 0xffffffffffffffff

def Policy.window (policy : Policy) : Arith := .mul policy.intervalNanos policy.burst.toUInt64

/-- Where a call stands, in front of its next access to the cursor. -/
inductive Location where
  | start (now : UInt64)
  | load (now : UInt64) (attempt : Nat)
  | swap (now : UInt64) (attempt : Nat) (old candidate : UInt64)
  | returned (now : UInt64) (admitted : Bool)
  deriving DecidableEq

/-- The cursor, and a record of everything that was computed. -/
structure Shared where
  virtualTimeNanos : UInt64 := 0
  computed : List Arith := []

/-- The checks in front of the loop. -/
def enter (policy : Policy) (now : UInt64) : Location × List Arith :=
  if policy.valid = false then (.returned now false, [])
  else
    let room := Arith.sub allOnes policy.window.value
    if now > room.value then (.returned now false, [policy.window, room])
    else (.load now 0, [policy.window, room])

/-- One turn of the loop, up to its swap. -/
def choose (policy : Policy) (now : UInt64) (attempt : Nat) (old : UInt64) : Location × List Arith :=
  let limit := Arith.add now policy.window.value
  if old = 0 then
    let candidate := Arith.add now policy.intervalNanos
    (.swap now attempt old candidate.value, [limit, candidate])
  else
    let base := if old > now then old else now
    let room := Arith.sub allOnes policy.intervalNanos
    if base > room.value then (.returned now false, [limit, room])
    else
      let candidate := Arith.add base policy.intervalNanos
      if candidate.value > limit.value then (.returned now false, [limit, room, candidate])
      else (.swap now attempt old candidate.value, [limit, room, candidate])

/-- `faketcp_take_control_budget`, one access to the cursor at a time. -/
def act (policy : Policy) (_ : Unit) (shared : Shared) : Location → Shared × Location
  | .start now =>
    ({ shared with computed := shared.computed ++ (enter policy now).2 }, (enter policy now).1)
  | .load now attempt =>
    let chosen := choose policy now attempt shared.virtualTimeNanos
    ({ shared with computed := shared.computed ++ chosen.2 }, chosen.1)
  | .swap now attempt old candidate =>
    if shared.virtualTimeNanos = old then ({ shared with virtualTimeNanos := candidate }, .returned now true)
    else (shared, if attempt + 1 < controlCasAttempts then .load now (attempt + 1) else .returned now false)
  | .returned now admitted => (shared, .returned now admitted)

inductive Turn where
  | call (now : UInt64)
  | act (index : Nat)

def step (policy : Policy) (system : System Shared Location) : Turn → System Shared Location
  | .call now => Interleaving.step (act policy) system (.spawn (.start now))
  | .act index => Interleaving.step (act policy) system (.act index ())

/-- A generation starts with a zero cursor. -/
def run (policy : Policy) (turns : List Turn) : System Shared Location := Runs.run (step policy) ⟨{}, []⟩ turns

/-- A call that was admitted at a time that counts. -/
def Location.admittedWhen (counts : UInt64 → Bool) : Location → Bool
  | .returned now true => counts now
  | _ => false

@[simp] theorem admittedWhen_swap : (Location.swap now attempt old candidate).admittedWhen counts = false := rfl

@[simp] theorem admittedWhen_returned : (Location.returned now true).admittedWhen counts = counts now := rfl

section Arithmetic
variable {policy : Policy}

theorem valid_bounds (valid : policy.valid = true) :
    0 < policy.intervalNanos.toNat ∧ policy.intervalNanos.toNat ≤ 10000000000 ∧
      0 < policy.burst.toNat ∧ policy.burst.toNat ≤ 4096 := by
  simp only [Policy.valid, decide_eq_true_eq, not_or, controlMinIntervalNanos, controlMaxIntervalNanos,
    controlMaxBurst] at valid
  obtain ⟨low, high, some, few⟩ := valid
  rw [UInt64.lt_iff_toNat_lt] at low
  rw [gt_iff_lt, UInt64.lt_iff_toNat_lt] at high
  rw [gt_iff_lt, UInt32.lt_iff_toNat_lt] at few
  have nonzero : policy.burst.toNat ≠ 0 := fun zero => some (UInt32.toNat.inj zero)
  simp only [UInt64.reduceToNat, UInt32.reduceToNat] at low high few
  omega

/-- The burst in virtual time. -/
def Policy.span (policy : Policy) : Nat := policy.intervalNanos.toNat * policy.burst.toNat

theorem span_bounds (valid : policy.valid = true) :
    policy.intervalNanos.toNat ≤ policy.span ∧ policy.span ≤ 10000000000 * 4096 := by
  obtain ⟨_, high, some, few⟩ := valid_bounds valid
  exact ⟨Nat.le_mul_of_pos_right _ some, Nat.mul_le_mul high few⟩

theorem window_value (valid : policy.valid = true) : policy.window.value.toNat = policy.span := by
  have bounds := (span_bounds valid).2
  rw [Policy.span] at bounds
  simp only [Policy.window, Arith.value, UInt64.toNat_mul, UInt32.toNat_toUInt64]
  exact Nat.mod_eq_of_lt (by omega)

theorem window_exact (valid : policy.valid = true) : ¬policy.window.Wraps := by
  have value := window_value valid
  simp only [Arith.Wraps, not_not, value]
  simp [Arith.exact, Policy.window, Policy.span]

theorem sub_value (word : UInt64) : (Arith.sub allOnes word).value.toNat = 2 ^ 64 - 1 - word.toNat := by
  have bound := word.toNat_lt
  simp only [Arith.value]
  rw [UInt64.toNat_sub_of_le _ _ (UInt64.le_iff_toNat_le.mpr (by simp only [allOnes]; simp; omega))]
  rfl

theorem sub_exact (word : UInt64) : ¬(Arith.sub allOnes word).Wraps := by
  have bound := word.toNat_lt
  simp only [Arith.Wraps, not_not, sub_value]
  simp only [Arith.exact, allOnes, UInt64.reduceToNat]
  omega

theorem add_value {left right : UInt64} (fits : left.toNat + right.toNat < 2 ^ 64) :
    (Arith.add left right).value.toNat = left.toNat + right.toNat := by
  simp only [Arith.value, UInt64.toNat_add]
  exact Nat.mod_eq_of_lt fits

theorem add_exact {left right : UInt64} (fits : left.toNat + right.toNat < 2 ^ 64) :
    ¬(Arith.add left right).Wraps := by
  simp only [Arith.Wraps, not_not, add_value fits]
  simp [Arith.exact]

end Arithmetic

/-- A call whose limit is a word. -/
def Fits (policy : Policy) (now : UInt64) : Prop := policy.valid = true ∧ now.toNat + policy.span < 2 ^ 64

/-- A place in virtual time that a call at this time may take. -/
def Slot (policy : Policy) (now candidate : UInt64) : Prop :=
  now.toNat + policy.intervalNanos.toNat ≤ candidate.toNat ∧ candidate.toNat ≤ now.toNat + policy.span

def Placed (policy : Policy) : Location → Prop
  | .start _ | .returned .. => True
  | .load now _ => Fits policy now
  | .swap now _ old candidate => Fits policy now ∧ Slot policy now candidate ∧
      old.toNat + policy.intervalNanos.toNat ≤ candidate.toNat

theorem enter_placed (policy : Policy) (now : UInt64) :
    Placed policy (enter policy now).1 ∧ ∀ arith ∈ (enter policy now).2, ¬arith.Wraps := by
  rw [enter]
  by_cases invalid : policy.valid = false
  · rw [if_pos invalid]
    exact ⟨trivial, by simp⟩
  · rw [if_neg invalid]
    have valid : policy.valid = true := by simpa using invalid
    have exacts : ∀ arith ∈ [policy.window, Arith.sub allOnes policy.window.value], ¬arith.Wraps := by
      simp [window_exact valid, sub_exact]
    by_cases late : now > (Arith.sub allOnes policy.window.value).value
    · simp only [if_pos late]
      exact ⟨trivial, exacts⟩
    · simp only [if_neg late]
      refine ⟨⟨valid, ?_⟩, exacts⟩
      have bound := (span_bounds valid).2
      rw [gt_iff_lt, UInt64.lt_iff_toNat_lt, sub_value, window_value valid] at late
      omega

theorem choose_placed {now : UInt64} (fits : Fits policy now) (attempt : Nat) (old : UInt64) :
    Placed policy (choose policy now attempt old).1 ∧ ∀ arith ∈ (choose policy now attempt old).2, ¬arith.Wraps := by
  obtain ⟨valid, room⟩ := fits
  obtain ⟨short, _⟩ := span_bounds valid
  have limited : now.toNat + policy.window.value.toNat < 2 ^ 64 := by rwa [window_value valid]
  have limit := add_value limited
  rw [window_value valid] at limit
  rw [choose]
  by_cases fresh : old = 0
  · subst fresh
    have first : now.toNat + policy.intervalNanos.toNat < 2 ^ 64 := by omega
    refine ⟨⟨⟨valid, room⟩, ⟨?_, ?_⟩, ?_⟩, by simp [add_exact limited, add_exact first]⟩
    · exact Nat.le_of_eq (add_value first).symm
    · rw [add_value first]
      omega
    · rw [add_value first]
      simp
  · simp only [if_neg fresh]
    -- Both sides of the maximum are below the candidate.
    have later : old.toNat ≤ (if old > now then old else now).toNat ∧
        now.toNat ≤ (if old > now then old else now).toNat := by
      split_ifs with ahead
      · rw [gt_iff_lt, UInt64.lt_iff_toNat_lt] at ahead
        omega
      · rw [gt_iff_lt, UInt64.lt_iff_toNat_lt] at ahead
        omega
    generalize (if old > now then old else now) = base at later ⊢
    by_cases last : base > (Arith.sub allOnes policy.intervalNanos).value
    · simp only [if_pos last]
      exact ⟨trivial, by simp [add_exact limited, sub_exact]⟩
    · simp only [if_neg last]
      rw [gt_iff_lt, UInt64.lt_iff_toNat_lt, sub_value] at last
      have bounds := (valid_bounds valid).2.1
      have next : base.toNat + policy.intervalNanos.toNat < 2 ^ 64 := by omega
      have exacts : ∀ arith ∈ [Arith.add now policy.window.value, Arith.sub allOnes policy.intervalNanos,
          Arith.add base policy.intervalNanos], ¬arith.Wraps := by
        simp [add_exact limited, sub_exact, add_exact next]
      by_cases spent : (Arith.add base policy.intervalNanos).value > (Arith.add now policy.window.value).value
      · simp only [if_pos spent]
        exact ⟨trivial, exacts⟩
      · simp only [if_neg spent]
        rw [gt_iff_lt, UInt64.lt_iff_toNat_lt, add_value next, limit] at spent
        refine ⟨⟨⟨valid, room⟩, ⟨?_, ?_⟩, ?_⟩, exacts⟩
        · rw [add_value next]
          omega
        · rw [add_value next]
          omega
        · rw [add_value next]
          omega

/-- The places that were taken, the newest first: they keep the interval from one another, and the cursor
is beyond all of them. -/
structure Taken (policy : Policy) (slots : List (UInt64 × UInt64)) (system : System Shared Location) : Prop where
  placed : ∀ location ∈ system.threads, Placed policy location
  exact : ∀ arith ∈ system.shared.computed, ¬arith.Wraps
  counted : ∀ counts, system.threads.countP (·.admittedWhen counts) = slots.countP fun slot => counts slot.1
  valid : slots ≠ [] → policy.valid = true
  slot : ∀ slot ∈ slots, Slot policy slot.1 slot.2
  spaced : Spaced policy.intervalNanos.toNat (slots.map (·.2.toNat))
  below : ∀ slot ∈ slots, slot.2 ≤ system.shared.virtualTimeNanos

namespace Taken
variable {system : System Shared Location} {slots : List (UInt64 × UInt64)}

/-- A thread that returns nothing new. -/
theorem quiet (taken : Taken policy slots system) (held : system.threads[index]? = some location)
    (next : Location) (pending : ∀ counts, location.admittedWhen counts = next.admittedWhen counts)
    (stands : Placed policy next) (computed : List Arith) (arithmetic : ∀ arith ∈ computed, ¬arith.Wraps) :
    Taken policy slots ⟨{ system.shared with computed := system.shared.computed ++ computed },
      system.threads.set index next⟩ where
  placed := by
    intro other member
    rcases List.mem_or_eq_of_mem_set member with kept | rfl
    · exact taken.placed other kept
    · exact stands
  exact := by
    intro arith member
    rcases List.mem_append.mp member with before | now
    · exact taken.exact arith before
    · exact arithmetic arith now
  counted := by
    intro counts
    have moved := countP_set (·.admittedWhen counts) held next
    rw [pending counts] at moved
    exact (Nat.add_right_cancel moved).trans (taken.counted counts)
  valid := taken.valid
  slot := taken.slot
  spaced := taken.spaced
  below := taken.below

/-- A swap that found the cursor where it was loaded. -/
theorem swapped (taken : Taken policy slots system)
    (held : system.threads[index]? = some (.swap now attempt system.shared.virtualTimeNanos candidate)) :
    Taken policy ((now, candidate) :: slots)
      ⟨{ system.shared with virtualTimeNanos := candidate }, system.threads.set index (.returned now true)⟩ := by
  obtain ⟨⟨valid, _⟩, slot, ahead⟩ := taken.placed _ (List.mem_of_getElem? held)
  have behind : ∀ slot ∈ slots, slot.2.toNat + policy.intervalNanos.toNat ≤ candidate.toNat := by
    intro slot member
    have below := UInt64.le_iff_toNat_le.mp (taken.below slot member)
    omega
  constructor
  case placed =>
    intro other member
    rcases List.mem_or_eq_of_mem_set member with kept | rfl
    · exact taken.placed other kept
    · trivial
  case exact => exact taken.exact
  case counted =>
    intro counts
    have moved := countP_set (·.admittedWhen counts) held (.returned now true)
    simp only [admittedWhen_swap, admittedWhen_returned, Bool.false_eq_true, if_false, Nat.add_zero] at moved
    rw [List.countP_cons, ← taken.counted counts]
    exact moved
  case valid => exact fun _ => valid
  case slot =>
    rintro other (_ | ⟨_, member⟩)
    · exact slot
    · exact taken.slot other member
  case spaced =>
    rw [List.map_cons]
    refine .cons ?_ taken.spaced
    intro number member
    obtain ⟨slot, earlier, rfl⟩ := List.mem_map.mp member
    exact behind slot earlier
  case below =>
    rintro other (_ | ⟨_, member⟩)
    · exact UInt64.le_refl _
    · exact UInt64.le_iff_toNat_le.mpr (Nat.le_trans (Nat.le_add_right _ _) (behind other member))

/-- One step of a thread takes a place or none, and never moves the cursor back. -/
theorem acted (taken : Taken policy slots system) (held : system.threads[index]? = some location) :
    (∃ more, Taken policy (more ++ slots) ⟨(act policy () system.shared location).1,
        system.threads.set index (act policy () system.shared location).2⟩) ∧
      system.shared.virtualTimeNanos ≤ (act policy () system.shared location).1.virtualTimeNanos := by
  have stands := taken.placed location (List.mem_of_getElem? held)
  cases location with
  | start now =>
    obtain ⟨placed, exacts⟩ := enter_placed policy now
    refine ⟨⟨[], taken.quiet held _ ?_ placed _ exacts⟩, UInt64.le_refl _⟩
    intro counts
    simp only [enter]
    split_ifs <;> rfl
  | load now attempt =>
    obtain ⟨placed, exacts⟩ := choose_placed stands attempt system.shared.virtualTimeNanos
    refine ⟨⟨[], taken.quiet held _ ?_ placed _ exacts⟩, UInt64.le_refl _⟩
    intro counts
    simp only [choose]
    split_ifs <;> rfl
  | swap now attempt old candidate =>
    by_cases found : system.shared.virtualTimeNanos = old
    · subst found
      rw [act, if_pos rfl]
      refine ⟨⟨[(now, candidate)], taken.swapped held⟩, ?_⟩
      have ahead := stands.2.2
      exact UInt64.le_iff_toNat_le.mpr (by simp only; omega)
    · rw [act, if_neg found]
      refine ⟨⟨[], ?_⟩, UInt64.le_refl _⟩
      have places : Placed policy
          (if attempt + 1 < controlCasAttempts then .load now (attempt + 1) else .returned now false) := by
        split_ifs
        · exact stands.1
        · trivial
      have kept := taken.quiet held _ (by intro counts; split_ifs <;> rfl) places [] (by simp)
      simpa using kept
  | returned now admitted =>
    refine ⟨⟨[], ?_⟩, UInt64.le_refl _⟩
    have kept := taken.quiet held _ (fun _ => rfl) stands [] (by simp)
    simpa [act] using kept

theorem stepped (taken : Taken policy slots system) (turn : Turn) :
    (∃ more, Taken policy (more ++ slots) (step policy system turn)) ∧
      system.shared.virtualTimeNanos ≤ (step policy system turn).shared.virtualTimeNanos := by
  cases turn with
  | call now =>
    refine ⟨⟨[], ?_, taken.exact, ?_, taken.valid, taken.slot, taken.spaced, taken.below⟩, UInt64.le_refl _⟩
    · intro location member
      rcases List.mem_append.mp member with before | started
      · exact taken.placed location before
      · cases List.mem_singleton.mp started
        trivial
    · intro counts
      rw [List.nil_append, ← taken.counted counts, step, Interleaving.step, List.countP_append]
      rfl
  | act index =>
    rw [step, Interleaving.step]
    cases held : system.threads[index]? with
    | none => exact ⟨⟨[], taken⟩, UInt64.le_refl _⟩
    | some location => exact taken.acted held

end Taken

/-- Every state of every interleaving. -/
theorem run_taken (policy : Policy) (turns : List Turn) : ∃ slots, Taken policy slots (run policy turns) := by
  refine Runs.always (P := fun system => ∃ slots, Taken policy slots system) ?_ ?_ turns
  · rintro system turn ⟨slots, taken⟩
    obtain ⟨more, after⟩ := (taken.stepped turn).1
    exact ⟨more ++ slots, after⟩
  · exact ⟨[], by simp, by simp, by simp, by simp, by simp, .nil, by simp⟩

theorem run_later (policy : Policy) (turns later : List Turn) :
    (run policy turns).shared.virtualTimeNanos ≤ (run policy (turns ++ later)).shared.virtualTimeNanos := by
  obtain ⟨slots, taken⟩ := run_taken policy turns
  rw [run, run, Runs.run_append]
  rw [run] at taken
  refine (Runs.always (P := fun system => (∃ slots, Taken policy slots system) ∧
    (Runs.run (step policy) ⟨{}, []⟩ turns).shared.virtualTimeNanos ≤ system.shared.virtualTimeNanos) ?_ ?_ later).2
  · rintro system turn ⟨⟨slots, taken⟩, before⟩
    obtain ⟨⟨more, after⟩, forward⟩ := taken.stepped turn
    exact ⟨⟨_, after⟩, UInt64.le_trans before forward⟩
  · exact ⟨⟨slots, taken⟩, UInt64.le_refl _⟩

/-- The places of calls in an interval of time are in an interval of virtual time. -/
theorem Taken.counted_le (taken : Taken policy slots system) (from_ width : Nat) :
    slots.countP (fun slot => decide (from_ ≤ slot.1.toNat ∧ slot.1.toNat ≤ from_ + width)) ≤
      policy.burst.toNat + width / policy.intervalNanos.toNat := by
  by_cases empty : slots = []
  · subst empty
    exact Nat.zero_le _
  obtain ⟨positive, _, some, _⟩ := valid_bounds (taken.valid empty)
  have spaced : Spaced policy.intervalNanos.toNat ((slots.filter fun slot =>
      decide (from_ ≤ slot.1.toNat ∧ slot.1.toNat ≤ from_ + width)).map (·.2.toNat)) :=
    List.Pairwise.sublist (List.filter_sublist.map _) taken.spaced
  have within : ∀ number ∈ (slots.filter fun slot =>
      decide (from_ ≤ slot.1.toNat ∧ slot.1.toNat ≤ from_ + width)).map (·.2.toNat),
      from_ + policy.intervalNanos.toNat ≤ number ∧ number ≤ from_ + policy.intervalNanos.toNat +
        (width + policy.intervalNanos.toNat * (policy.burst.toNat - 1)) := by
    intro number member
    obtain ⟨slot, kept, rfl⟩ := List.mem_map.mp member
    obtain ⟨held, inside⟩ := List.mem_filter.mp kept
    obtain ⟨above, under⟩ := taken.slot slot held
    have window :
        policy.intervalNanos.toNat * (policy.burst.toNat - 1) + policy.intervalNanos.toNat = policy.span := by
      rw [← Nat.mul_succ, Nat.succ_eq_add_one, Nat.sub_add_cancel some, Policy.span]
    rw [decide_eq_true_eq] at inside
    omega
  have fits := spaced.length_le positive within
  rw [List.length_map, Nat.add_mul_div_left _ _ positive] at fits
  rw [List.countP_eq_length_filter]
  omega

/-- What holds of the budget in every state. -/
structure Bounded (policy : Policy) (turns : List Turn) : Prop where
  admitted : ∀ from_ width : Nat,
    (run policy turns).threads.countP
        (·.admittedWhen fun now => from_ ≤ now.toNat ∧ now.toNat ≤ from_ + width) ≤
      policy.burst.toNat + width / policy.intervalNanos.toNat
  exact : ∀ arith ∈ (run policy turns).shared.computed, ¬arith.Wraps
  advances : ∀ later,
    (run policy turns).shared.virtualTimeNanos ≤ (run policy (turns ++ later)).shared.virtualTimeNanos
  stays : ∀ later, (run policy turns).shared.virtualTimeNanos ≠ 0 →
    (run policy (turns ++ later)).shared.virtualTimeNanos ≠ 0

/-- Calls at any times of their own, in any interleaving. -/
theorem control_budget_bounded (policy : Policy) (turns : List Turn) : Bounded policy turns where
  admitted := by
    intro from_ width
    obtain ⟨slots, taken⟩ := run_taken policy turns
    rw [taken.counted]
    exact taken.counted_le from_ width
  exact := by
    obtain ⟨slots, taken⟩ := run_taken policy turns
    exact taken.exact
  advances := run_later policy turns
  stays := by
    intro later started stopped
    have forward := UInt64.le_iff_toNat_le.mp (run_later policy turns later)
    rw [stopped] at forward
    exact started (UInt64.toNat.inj (Nat.le_zero.mp forward))

/-- A burst of one: of two calls that load the same cursor only one is admitted. -/
example : (run ⟨10000000, 1⟩
    [.call 5, .call 7, .act 0, .act 1, .act 0, .act 1, .act 1, .act 0, .act 0]).threads =
      [.returned 5 false, .returned 7 true] := by decide +kernel

end WgMix.Bpf.ControlBudget
