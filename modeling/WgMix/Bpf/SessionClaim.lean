import Mathlib.Logic.Function.Basic
import WgMix.Bpf.Session

/-! The compare-claim program. Moving an entry from ESTABLISHED to
DELETE_CLAIMED under its lock is where a deletion takes place; removing the
tombstone afterwards only reclaims the slot. -/
namespace WgMix.Bpf

abbrev SessionMap := SessionKey → Option SessionValue

namespace SessionValue

def claimed (session : SessionValue) : SessionValue := { session with state := .deleteClaimed }

def matchesExpected (session expected : SessionValue) (permitClaimedState : Bool) : Bool :=
  session.generation = expected.generation ∧ session.lastSeenNanos = expected.lastSeenNanos ∧
    session.txSequence = expected.txSequence ∧ session.rxSequence = expected.rxSequence ∧
    session.localIsn = expected.localIsn ∧ session.remoteIsn = expected.remoteIsn ∧
    session.window = expected.window ∧ session.flags = expected.flags ∧
    session.kernelReserved = expected.kernelReserved ∧ session.revision = expected.revision ∧
    session.sessionId = expected.sessionId ∧
    (session.state = expected.state ∨
      (permitClaimedState ∧ session.state = .deleteClaimed ∧ expected.state = .established)) ∧
    session.pad.difference expected.pad = 0 ∧
    session.runtimeIncarnation.difference expected.runtimeIncarnation = 0

end SessionValue

def claimRequestValid (key : SessionKey) (expected : SessionValue) : Bool :=
  key.valid ∧ key.generation = expected.generation ∧ expected.state = .established ∧
    expected.flags = 0 ∧ expected.pad.aggregate = 0 ∧ expected.kernelReserved = 0 ∧
    expected.revision ≠ 0 ∧ expected.sessionId ≠ 0 ∧ expected.runtimeIncarnation.aggregate ≠ 0

inductive ClaimResult where
  | malformed
  | absent
  | different
  | claimed
  deriving DecidableEq, Repr

/-- One run of `wg_faketcp_session_claim`. A repeated run on its own tombstone
answers `claimed` again. -/
def sessionClaim (sessions : SessionMap) (key : SessionKey) (expected : SessionValue) :
    SessionMap × ClaimResult :=
  if claimRequestValid key expected = false then (sessions, .malformed)
  else
    match sessions key with
    | none => (sessions, .absent)
    | some session =>
      if session.matchesExpected expected true then
        (if session.state = .established then Function.update sessions key (some session.claimed)
          else sessions, .claimed)
      else (sessions, .different)

namespace SessionValue
variable {session expected : SessionValue}

/-- Every field is compared: only the expected value and its tombstone match. -/
theorem matchesExpected_iff (established : expected.state = .established) :
    session.matchesExpected expected true = true ↔ session = expected ∨ session = expected.claimed := by
  simp only [matchesExpected, decide_eq_true_eq, FixedBytes.difference_eq_zero, true_and, established,
    and_true, claimed]
  constructor
  · rintro ⟨generation, lastSeen, tx, rx, localIsn, remoteIsn, window, flags, reserved, revision,
      sessionId, state | state, pad, incarnation⟩
    · left
      cases session
      cases expected
      simp_all
    · right
      cases session
      cases expected
      simp_all
  · rintro (rfl | rfl)
    · simp [established]
    · simp

/-- No packet path accepts an entry that is not established. -/
theorem metadataValid_established {current : UInt64} (valid : session.metadataValid current = true) :
    session.state = .established := by
  simp only [metadataValid, decide_eq_true_eq] at valid
  exact valid.2.1

theorem mutate_spec {current now : UInt64} {expectedAuthority : SessionAuthority}
    {expectedProjection : SessionProjection}
    (done : session.mutate current now operation argument expectedAuthority expectedProjection =
      some (after, result)) :
    session.state = .established ∧ after.state = .established ∧ session.revision < after.revision := by
  unfold mutate at done
  split at done
  · rename_i admitted
    obtain ⟨matching, room⟩ := admitted
    simp only [authorityMatches, decide_eq_true_eq] at matching
    have established := metadataValid_established matching.1
    have written := (Prod.mk.inj (Option.some.inj done)).1
    subst written
    refine ⟨established, established, ?_⟩
    rw [UInt64.lt_iff_toNat_lt, UInt64.toNat_add]
    have below := session.revision.toNat_lt
    have ne : session.revision.toNat ≠ 0xffffffffffffffff := fun same => room (UInt64.toNat_inj.mp same)
    have one : (1 : UInt64).toNat = 1 := rfl
    omega
  · cases done

/-- A tombstone refuses every packet path. -/
structure Fenced (session : SessionValue) : Prop where
  mutation : ∀ current now operation argument expectedAuthority expectedProjection,
    session.mutate current now operation argument expectedAuthority expectedProjection = none
  snapshot : ∀ current, snapshotEstablished (some session) current = none
  authority : ∀ current expectedAuthority expectedProjection,
    session.authorityMatches current expectedAuthority expectedProjection = false
  compact : ∀ current expectedAuthority,
    compactAuthorityMatches (some session) current expectedAuthority = false

theorem fenced (tombstone : session.state = .deleteClaimed) : session.Fenced := by
  have refused : ∀ current, session.metadataValid current = false := by
    intro current
    rw [← Bool.not_eq_true]
    intro valid
    have established := metadataValid_established valid
    rw [tombstone] at established
    cases established
  have unmatched : ∀ current expectedAuthority expectedProjection,
      session.authorityMatches current expectedAuthority expectedProjection = false := by
    intro current expectedAuthority expectedProjection
    simp [authorityMatches, refused current]
  constructor
  · intro current now operation argument expectedAuthority expectedProjection
    simp [mutate, unmatched current expectedAuthority expectedProjection]
  · intro current
    simp [snapshotEstablished, refused current]
  · exact unmatched
  · intro current expectedAuthority
    simp [compactAuthorityMatches, refused current]

end SessionValue

section Claim
variable {sessions after : SessionMap} {key : SessionKey} {expected : SessionValue}

/-- What one claim run does, by what the map holds. -/
theorem sessionClaim_cases (done : sessionClaim sessions key expected = (after, result)) :
    (after = sessions ∧ result = .malformed ∧ claimRequestValid key expected = false) ∨
    (after = sessions ∧ result = .absent ∧ sessions key = none) ∨
    (after = sessions ∧ result = .different ∧ ∃ session, sessions key = some session ∧
      session ≠ expected ∧ session ≠ expected.claimed) ∨
    (result = .claimed ∧ (sessions key = some expected ∨ sessions key = some expected.claimed) ∧
      after = Function.update sessions key (some expected.claimed)) := by
  unfold sessionClaim at done
  split at done
  · cases done
    exact .inl ⟨rfl, rfl, ‹_›⟩
  · rename_i valid
    have established : expected.state = .established := by
      simp only [claimRequestValid, Bool.not_eq_false, decide_eq_true_eq] at valid
      exact valid.2.2.1
    split at done
    · cases done
      exact .inr (.inl ⟨rfl, rfl, ‹_›⟩)
    · rename_i session found
      split at done
      · rename_i matching
        rcases (SessionValue.matchesExpected_iff established).mp matching with rfl | rfl
        · rw [if_pos established] at done
          cases done
          exact .inr (.inr (.inr ⟨rfl, .inl found, rfl⟩))
        · have tombstone : expected.claimed.state ≠ .established := by simp [SessionValue.claimed]
          rw [if_neg tombstone] at done
          cases done
          refine .inr (.inr (.inr ⟨rfl, .inr found, ?_⟩))
          rw [← found, Function.update_eq_self]
      · rename_i differs
        cases done
        rw [SessionValue.matchesExpected_iff established, not_or] at differs
        exact .inr (.inr (.inl ⟨rfl, rfl, session, found, differs⟩))

end Claim

end WgMix.Bpf
