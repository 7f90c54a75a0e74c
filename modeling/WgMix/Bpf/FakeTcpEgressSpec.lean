import WgMix.Foundation.Guard
import WgMix.Bpf.FakeTcpEgress

/-! Inversion of the FakeTCP egress chain: what each stage can do, stated once. -/
namespace WgMix.Bpf
open L3

/-- The preparation may pull the buffer together, and changes nothing else of it. -/
theorem ChecksumModule.prepareUdp_skb {skb after : Skb} {before left : SkbMeta}
    (prepared : ChecksumModule.prepareUdp allocation skb before networkOff transportOff udpLength =
      .ok (accepted, after, left)) : ∃ linear, after = { skb with linear } := by
  rw [ChecksumModule.prepareUdp] at prepared
  obtain ⟨_, _, prepared⟩ := bind_ok prepared
  split at prepared
  · obtain ⟨_, _, prepared⟩ := bind_ok prepared
    obtain ⟨_, prepared⟩ := guard_ok prepared
    obtain ⟨_, _, prepared⟩ := bind_ok prepared
    split at prepared
    · cases prepared
      exact ⟨skb.linear, rfl⟩
    · cases prepared
      exact ⟨skb.linear, rfl⟩
  · obtain ⟨_, _, prepared⟩ := bind_ok prepared
    obtain ⟨_, prepared⟩ := guard_ok prepared
    obtain ⟨_, _, prepared⟩ := bind_ok prepared
    obtain ⟨_, prepared⟩ := guard_ok prepared
    obtain ⟨_, _, prepared⟩ := bind_ok prepared
    obtain ⟨_, _, prepared⟩ := bind_ok prepared
    cases prepared
    exact ⟨skb.data.length, rfl⟩

namespace Flight

/-- A segment that is transformed under the progress its token has bound. -/
structure Transforms (helpers : EgressHelpers) (maps : PolicyMaps) (segment : Nat) (flight : Flight)
    (loaded context : Tc.XorContext) (cipher : CipherValue) (skb : Skb) (more : Bool) : Prop where
  read : Tc.loadXorContext flight.tc.skb = some loaded
  continued : loaded.continueFakeTcp = true
  bound : bindXorProgress flight loaded = some context
  found : maps.lookupCipher context.cipherId context.generation = some cipher
  transformed : Tc.xorSegmentFor helpers.toHelpers context.checksumMode flight.tc.skb cipher context.payloadOff
    context.target segment 0 = .ok (skb, more)

/-- One XOR program of the chain: the baseline way without a token, a drop that consumes
the token, one transformed segment on the way to the next, or the last one, whose
completed token is handed to the continuation. -/
inductive SegmentRun (helpers : EgressHelpers) (env : Env) (maps : PolicyMaps) (tailCalls segment : Nat)
    (flight : Flight) (result : Flight × TcVerdict) : Prop where
  | baseline (context : Tc.XorContext) (loaded : Tc.loadXorContext flight.tc.skb = some context)
      (plain : context.continueFakeTcp = false)
      (same : result = flight.liftTc (Tc.runXorEgressSegment helpers.toHelpers maps tailCalls segment flight.tc))
  | dropped (tc : Tc) (same : result = ({ flight.consumeAdmission with tc }, .shot))
  | next (loaded context : Tc.XorContext) (cipher : CipherValue) (skb : Skb) (remaining : Nat)
      (runs : Transforms helpers maps segment flight loaded context cipher skb true)
      (budget : tailCalls = remaining + 1)
      (present : helpers.xorEgressPrograms (Tc.xorProgramIndex context.generation (segment + 1)) = true)
      (same : result = runXorEgressSegment helpers env maps remaining
        (Tc.xorProgramIndex context.generation (segment + 1) % Tc.xorSegmentCount) (flight.setSkb skb))
  | completed (loaded context : Tc.XorContext) (cipher : CipherValue) (skb : Skb) (complete : Flight)
      (remaining : Nat)
      (runs : Transforms helpers maps segment flight loaded context cipher skb false)
      (moved : completeXor ((flight.setSkb skb).incTcStat .xorEgressOk) context.admissionNonce = some complete)
      (budget : tailCalls = remaining + 1)
      (installed : helpers.faketcpEgressPrograms (context.generation.toNat % 2) = true)
      (same : result = continueEgress helpers env maps complete)

/-- Completion touches the token only, so consuming it afterwards forgets the completion. -/
theorem completeXor_some {flight complete : Flight} (moved : completeXor flight nonce = some complete) :
    ∃ active, flight.activeAdmission nonce = some active ∧ active.tokenState = .armed ∧
      active.featureMask = requiredFeatures ||| featureXor ∧ active.cipherId ≠ 0 ∧
      complete = { flight with slot := flight.slot.map fun slot =>
        { slot with active := some { active with tokenState := .xorComplete } } } := by
  rw [completeXor] at moved
  split at moved
  · contradiction
  rename_i active found
  obtain ⟨ready, moved⟩ := guard_some moved
  simp only [not_or, Decidable.not_not] at ready
  exact ⟨active, found, ready.2.2.2, ready.1, ready.2.1, (Option.some.inj moved).symm⟩

theorem completeXor_consumed {flight complete : Flight} (moved : completeXor flight nonce = some complete) :
    complete.consumeAdmission = flight.consumeAdmission := by
  obtain ⟨active, _, _, _, _, rfl⟩ := completeXor_some moved
  simp only [consumeAdmission, Option.map_map]
  rfl

theorem runXorEgressSegment_cases (helpers : EgressHelpers) (env : Env) (maps : PolicyMaps)
    (tailCalls segment : Nat) (flight : Flight) :
    SegmentRun helpers env maps tailCalls segment flight
      (runXorEgressSegment helpers env maps tailCalls segment flight) := by
  unfold runXorEgressSegment
  split
  · exact .dropped _ rfl
  rename_i context loaded
  split
  · rename_i plain
    exact .baseline context loaded plain rfl
  rename_i continued
  split
  · exact .dropped _ rfl
  rename_i progress bound
  split
  · exact .dropped _ rfl
  rename_i cipher found
  split
  · exact .dropped _ rfl
  · rename_i skb transformed
    dsimp only
    split
    · exact .dropped _ rfl
    · split
      · rename_i present
        exact .next context progress cipher skb _ ⟨loaded, by simpa using continued, bound, found, transformed⟩ rfl
          present rfl
      · exact .dropped _ rfl
  · rename_i skb transformed
    dsimp only
    split
    · rename_i complete remaining moved
      split
      · rename_i installed
        exact .completed context progress cipher skb complete remaining
          ⟨loaded, by simpa using continued, bound, found, transformed⟩ moved rfl installed rfl
      · refine .dropped (complete.tc.xorDispatchFail .xorEgressDispatchError).1 ?_
        rw [dispatchFail, completeXor_consumed moved]
        rfl
    · exact .dropped _ rfl

end Flight
end WgMix.Bpf
