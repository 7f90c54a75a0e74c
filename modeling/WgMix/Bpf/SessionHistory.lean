import Mathlib.Data.List.Chain
import Mathlib.Data.List.Pairwise
import WgMix.Bpf.Session

/-! The history of one session entry. A call of the mutation takes place at once, under the lock of the
entry, so a history lists the calls with the value that each of them found and left. -/
namespace WgMix.Bpf

def SessionMutation.ofCode (code : UInt32) : Option SessionMutation :=
  if code = 1 then some .tx else if code = 2 then some .rx else if code = 3 then some .touch else none

/-- The arguments of one call; the pointers may be missing. -/
structure MutationCall where
  generation : UInt64
  now : UInt64
  operation : UInt32
  argument : UInt32
  expectedAuthority : Option SessionAuthority
  expectedProjection : Option SessionProjection
  result : Bool

/-- `faketcp_session_mutate` on an entry, with what the result holds when the call succeeds: only TX
fills it. -/
def SessionValue.mutateCall (session : SessionValue) (call : MutationCall) :
    SessionValue × Option SessionMutationResult :=
  match SessionMutation.ofCode call.operation, call.expectedAuthority, call.expectedProjection with
  | some operation, some authority, some projection =>
    if operation = .tx ∧ call.result = false then (session, none)
    else
      match session.mutate call.generation call.now operation call.argument authority projection with
      | none => (session, none)
      | some (after, result) => (after, some (if operation = .tx then result else ⟨0, 0, 0⟩))
  | _, _, _ => (session, none)

structure Mutated where
  call : MutationCall
  before : SessionValue
  after : SessionValue
  answer : Option SessionMutationResult

def SessionValue.history (session : SessionValue) : List MutationCall → List Mutated
  | [] => []
  | call :: rest =>
    ⟨call, session, (session.mutateCall call).1, (session.mutateCall call).2⟩ ::
      (session.mutateCall call).1.history rest

/-- The sequence numbers from one on. -/
structure Allocation where
  sequence : UInt32
  length : UInt32
  deriving DecidableEq

namespace Allocation

def Covers (allocation : Allocation) (number : UInt32) : Prop :=
  (number - allocation.sequence).toNat < allocation.length.toNat

/-- Each allocation begins where the one before it ends. -/
def Contiguous (start : UInt32) : List Allocation → Prop
  | [] => True
  | allocation :: rest => allocation.sequence = start ∧ Contiguous (start + allocation.length) rest

def total (allocations : List Allocation) : Nat := (allocations.map (·.length.toNat)).sum

theorem Contiguous.append (contiguous : Contiguous start (first ++ second)) :
    ∃ middle, Contiguous middle second := by
  induction first generalizing start with
  | nil => exact ⟨start, contiguous⟩
  | cons allocation rest ih => exact ih contiguous.2

theorem Contiguous.left (contiguous : Contiguous start (first ++ second)) : Contiguous start first := by
  induction first generalizing start with
  | nil => trivial
  | cons allocation rest ih => exact ⟨contiguous.1, ih contiguous.2⟩

/-- The distance from a later start, without a turn around the number space. -/
theorem distance_add (number start length : UInt32)
    (bounded : (number - (start + length)).toNat + length.toNat < 2 ^ 32) :
    (number - start).toNat = (number - (start + length)).toNat + length.toNat := by
  have split : number - start = number - (start + length) + length := by
    grind
  rw [split, UInt32.toNat_add, Nat.mod_eq_of_lt bounded]

theorem Contiguous.covered (contiguous : Contiguous start allocations) (bounded : total allocations < 2 ^ 32)
    (member : allocation ∈ allocations) (covers : allocation.Covers number) :
    (number - start).toNat < total allocations := by
  induction allocations generalizing start with
  | nil => cases member
  | cons first rest ih =>
    obtain ⟨begins, later⟩ := contiguous
    simp only [total, List.map_cons, List.sum_cons] at bounded ⊢
    rcases List.mem_cons.mp member with rfl | inner
    · rw [Covers, begins] at covers
      omega
    · have distance := ih later (by rw [total]; omega) inner
      rw [total] at distance
      rw [distance_add number start first.length (by omega)]
      omega

/-- No number is allocated twice before the number space is used up. -/
theorem Contiguous.disjoint (contiguous : Contiguous start allocations) (bounded : total allocations < 2 ^ 32) :
    allocations.Pairwise fun one other => ∀ number, ¬(one.Covers number ∧ other.Covers number) := by
  induction allocations generalizing start with
  | nil => exact .nil
  | cons first rest ih =>
    obtain ⟨begins, later⟩ := contiguous
    simp only [total, List.map_cons, List.sum_cons] at bounded
    have inner : total rest < 2 ^ 32 := by
      rw [total]
      omega
    refine .cons ?_ (ih later inner)
    rintro other member number ⟨here, there⟩
    have distance := later.covered inner member there
    rw [total] at distance
    rw [Covers, begins, distance_add number start first.length (by omega)] at here
    omega

end Allocation

namespace Mutated

/-- What a successful TX call allocated. -/
def allocation (mutated : Mutated) : Option Allocation :=
  if SessionMutation.ofCode mutated.call.operation = some .tx then
    mutated.answer.map fun result => ⟨result.sequence, mutated.call.argument⟩
  else none

/-- One call: refused and without any effect, or successful. -/
structure Lawful (mutated : Mutated) : Prop where
  refused : mutated.answer = none → mutated.after = mutated.before
  answered : ∀ result, mutated.answer = some result → SessionMutation.ofCode mutated.call.operation = some .tx →
    result = ⟨mutated.before.txSequence, mutated.before.rxSequence, mutated.before.window⟩
  transmitted : mutated.after.txSequence =
    mutated.before.txSequence + (mutated.allocation.map (·.length)).getD 0
  received : mutated.after.rxSequence = mutated.before.rxSequence ∨
    serialAfter mutated.after.rxSequence mutated.before.rxSequence = true
  seen : mutated.before.lastSeenNanos ≤ mutated.after.lastSeenNanos
  unseen : SessionMutation.ofCode mutated.call.operation = some .tx →
    mutated.after.lastSeenNanos = mutated.before.lastSeenNanos
  identity : mutated.after.authority = mutated.before.authority ∧
    mutated.after.projection = mutated.before.projection
  counted : mutated.answer.isSome →
    mutated.after.revision.toNat = mutated.before.revision.toNat + 1

end Mutated

/-- What a call may do. -/
theorem SessionValue.mutateCall_cases (session : SessionValue) (call : MutationCall) :
    session.mutateCall call = (session, none) ∨
      ∃ operation, SessionMutation.ofCode call.operation = some operation ∧
        session.revision ≠ 0xffffffffffffffff ∧
        session.mutateCall call = ({ session with
          txSequence := if operation = .tx then session.txSequence + call.argument else session.txSequence
          rxSequence := if operation = .rx ∧ serialAfter call.argument session.rxSequence then call.argument
            else session.rxSequence
          lastSeenNanos := if operation ≠ .tx ∧ call.now > session.lastSeenNanos then call.now
            else session.lastSeenNanos
          revision := session.revision + 1 },
          some (if operation = .tx then ⟨session.txSequence, session.rxSequence, session.window⟩
            else ⟨0, 0, 0⟩)) := by
  rw [mutateCall]
  split
  · rename_i operation authority projection code _ _
    by_cases missing : operation = .tx ∧ call.result = false
    · exact .inl (if_pos missing)
    · rw [if_neg missing]
      by_cases admitted : session.authorityMatches call.generation authority projection ∧
          session.revision ≠ 0xffffffffffffffff
      · right
        refine ⟨operation, code, admitted.2, ?_⟩
        simp only [mutate, if_pos admitted]
      · left
        simp only [mutate, if_neg admitted]
  · exact .inl rfl

namespace SessionValue

theorem mutateCall_lawful (session : SessionValue) (call : MutationCall) :
    Mutated.Lawful ⟨call, session, (session.mutateCall call).1, (session.mutateCall call).2⟩ := by
  rcases session.mutateCall_cases call with same | ⟨operation, code, room, moved⟩
  · rw [same]
    refine ⟨fun _ => rfl, by simp, ?_, .inl rfl, UInt64.le_refl _, fun _ => rfl, ⟨rfl, rfl⟩, by simp⟩
    simp [Mutated.allocation]
  · rw [moved]
    refine ⟨by simp, ?_, ?_, ?_, ?_, ?_, ⟨rfl, rfl⟩, fun _ => ?_⟩
    · intro result answer transmits
      cases code.symm.trans transmits
      simpa using answer.symm
    · by_cases transmits : operation = .tx
      · simp [Mutated.allocation, code, transmits]
      · simp [Mutated.allocation, code, transmits]
    · by_cases newer : operation = .rx ∧ serialAfter call.argument session.rxSequence
      · right
        simp only [if_pos newer]
        exact newer.2
      · left
        simp only [if_neg newer]
    · by_cases newer : operation ≠ .tx ∧ call.now > session.lastSeenNanos
      · simp only [if_pos newer]
        exact UInt64.le_of_lt newer.2
      · simp only [if_neg newer]
        exact UInt64.le_refl _
    · intro transmits
      cases code.symm.trans transmits
      rfl
    · have below : session.revision.toNat ≠ 2 ^ 64 - 1 := fun last => room (UInt64.toNat.inj last)
      have bound := session.revision.toNat_lt
      simp only [UInt64.toNat_add]
      rw [Nat.mod_eq_of_lt (by simp; omega)]
      rfl

/-- Either nothing changed, or the revision is a later one. -/
def Precedes (one other : SessionValue) : Prop := one = other ∨ one.revision < other.revision

theorem Precedes.trans (first : Precedes one two) (second : Precedes two three) : Precedes one three := by
  rcases first with rfl | first
  · exact second
  · rcases second with rfl | second
    · exact .inr first
    · exact .inr (UInt64.lt_trans first second)

theorem mutateCall_precedes (session : SessionValue) (call : MutationCall) :
    Precedes session (session.mutateCall call).1 := by
  have lawful := session.mutateCall_lawful call
  cases answer : (session.mutateCall call).2 with
  | none => exact .inl (lawful.refused answer).symm
  | some result =>
    have counted := lawful.counted (by simp [answer])
    exact .inr (UInt64.lt_iff_toNat_lt.mpr (by simp only at counted; omega))

variable (session : SessionValue) (calls : List MutationCall)

/-- The values that an entry takes, its first one included. -/
def values : List SessionValue :=
  session :: (session.history calls).map (·.after)

theorem history_precedes : ∀ mutated ∈ session.history calls, Precedes session mutated.after := by
  induction calls generalizing session with
  | nil => simp [history]
  | cons call rest ih =>
    rintro mutated (_ | ⟨_, member⟩)
    · exact session.mutateCall_precedes call
    · exact (session.mutateCall_precedes call).trans (ih _ mutated member)

theorem values_ordered : (session.values calls).Pairwise Precedes := by
  induction calls generalizing session with
  | nil => simp [values, history]
  | cons call rest ih =>
    refine .cons ?_ (ih _)
    intro value member
    obtain ⟨mutated, held, rfl⟩ := List.mem_map.mp member
    exact session.history_precedes (call :: rest) mutated held

/-- What holds over the whole history of an entry. -/
structure Linear (history : List Mutated) : Prop where
  lawful : ∀ mutated ∈ history, mutated.Lawful
  starts : ∀ mutated ∈ history.head?, mutated.before = session
  chained : history.IsChain fun one next => next.before = one.after
  identity : ∀ mutated ∈ history,
    mutated.after.authority = session.authority ∧ mutated.after.projection = session.projection
  contiguous : Allocation.Contiguous session.txSequence (history.filterMap (·.allocation))
  disjoint : ∀ earlier window later, history.filterMap (·.allocation) = earlier ++ window ++ later →
    Allocation.total window < 2 ^ 32 →
    window.Pairwise fun one other => ∀ number, ¬(one.Covers number ∧ other.Covers number)
  versions : ∀ one ∈ session :: history.map (·.after), ∀ other ∈ session :: history.map (·.after),
    one.revision = other.revision → one = other

theorem history_lawful : ∀ mutated ∈ session.history calls, mutated.Lawful := by
  induction calls generalizing session with
  | nil => simp [history]
  | cons call rest ih =>
    rintro mutated (_ | ⟨_, member⟩)
    · exact session.mutateCall_lawful call
    · exact ih _ mutated member

theorem history_starts : ∀ mutated ∈ (session.history calls).head?, mutated.before = session := by
  cases calls with
  | nil => simp [history]
  | cons call rest => simp [history]

theorem history_chained : (session.history calls).IsChain fun one next => next.before = one.after := by
  induction calls generalizing session with
  | nil => exact .nil
  | cons call rest ih => exact List.isChain_cons.mpr ⟨history_starts _ rest, ih _⟩

theorem history_identity : ∀ mutated ∈ session.history calls,
      mutated.after.authority = session.authority ∧ mutated.after.projection = session.projection := by
  induction calls generalizing session with
  | nil => simp [history]
  | cons call rest ih =>
    have here := (session.mutateCall_lawful call).identity
    rintro mutated (_ | ⟨_, member⟩)
    · exact here
    · obtain ⟨authority, projection⟩ := ih _ mutated member
      exact ⟨authority.trans here.1, projection.trans here.2⟩

/-- The allocations of a history begin at the sequence number of its entry. -/
theorem history_contiguous :
    Allocation.Contiguous session.txSequence ((session.history calls).filterMap (·.allocation)) := by
  induction calls generalizing session with
  | nil => trivial
  | cons call rest ih =>
    have lawful := session.mutateCall_lawful call
    have later := ih (session.mutateCall call).1
    rw [lawful.transmitted] at later
    rw [history, List.filterMap_cons]
    split
    · rename_i none
      simpa [none] using later
    · rename_i allocation made
      refine ⟨?_, by simpa [made] using later⟩
      rw [Mutated.allocation] at made
      split_ifs at made with transmits
      obtain ⟨result, answer, rfl⟩ := Option.map_eq_some_iff.mp made
      rw [lawful.answered result answer transmits]

theorem history_versions :
    ∀ one ∈ session.values calls, ∀ other ∈ session.values calls, one.revision = other.revision → one = other := by
  have ordered := session.values_ordered calls
  have same : (session.values calls).Pairwise fun one other => one.revision = other.revision → one = other :=
    ordered.imp fun precedes equal => precedes.resolve_right (by rw [equal]; exact UInt64.lt_irrefl _)
  have : Std.Symm fun one other : SessionValue => one.revision = other.revision → one = other :=
    ⟨fun _ _ equals swapped => (equals swapped.symm).symm⟩
  exact fun one first other second => List.Pairwise.forall_of_forall (fun _ _ _ => rfl) same first second

/-- Calls of the mutation on one entry are linear: the allocated numbers follow one another, the receive
side and the time of the peer only advance, and a revision names one value. -/
theorem session_mutations_linear (session : SessionValue) (calls : List MutationCall) :
    session.Linear (session.history calls) where
  lawful := session.history_lawful calls
  starts := session.history_starts calls
  chained := session.history_chained calls
  identity := session.history_identity calls
  contiguous := session.history_contiguous calls
  disjoint := by
    intro earlier window later split bounded
    have contiguous := session.history_contiguous calls
    rw [split] at contiguous
    obtain ⟨_, inner⟩ := contiguous.left.append
    exact inner.disjoint bounded
  versions := session.history_versions calls

end SessionValue
end WgMix.Bpf
