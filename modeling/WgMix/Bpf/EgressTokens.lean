import WgMix.Bpf.EgressSpec
import WgMix.Bpf.EncoderSpec
import WgMix.Bpf.FakeTcpEgressSpec

/-! The continuation token over whole sequences of egress programs on one CPU. Only the
per-CPU slot passes from one execution to the next; packet, scratch words, maps and
helper answers are new each time, so a forged continuation is an execution that starts
at a tail-called program. -/
namespace WgMix.Bpf
open L3

/-- Where an execution starts: at the TC hook or at a tail-called program. -/
inductive EgressEntry where
  | egress
  | xorSegment (tailCalls segment : Nat)
  | continuation
  deriving DecidableEq, Repr

/-- One execution of the egress programs. The scratch entry is a slot of a per-CPU array,
whose lookup does not fail. -/
structure Execution where
  entry : EgressEntry
  helpers : EgressHelpers
  env : Env
  maps : PolicyMaps
  kernel : Kernel
  tc : Tc
  hidden : SkbMeta
  captureSequence : Option UInt64 := some 0
  cpu : UInt32 := 0
  scratch : env.scratch = true

namespace Execution

def flight (execution : Execution) (slot : Option AdmissionSlot) : Flight where
  kernel := execution.kernel
  tc := execution.tc
  hidden := execution.hidden
  slot := slot
  captureSequence := execution.captureSequence
  cpu := execution.cpu

def run (execution : Execution) (slot : Option AdmissionSlot) : Flight × TcVerdict :=
  match execution.entry with
  | .egress => Flight.wgMixEgress execution.helpers execution.env execution.maps (execution.flight slot)
  | .xorSegment tailCalls segment =>
    Flight.runXorEgressSegment execution.helpers execution.env execution.maps tailCalls segment
      (execution.flight slot)
  | .continuation => Flight.continueEgress execution.helpers execution.env execution.maps (execution.flight slot)

/-- The slot that the next execution on this CPU finds. -/
def after (slot : Option AdmissionSlot) (execution : Execution) : Option AdmissionSlot := (execution.run slot).1.slot

end Execution

/-- The same answers, with no program in the continuation array. -/
abbrev EgressHelpers.withoutContinuation (helpers : EgressHelpers) : EgressHelpers :=
  { helpers with faketcpEgressPrograms := fun _ => false }

/-! ### What happens to the slot -/

/-- A token that no tail-called program accepts: it was armed for an aggregate. -/
def EgressAdmission.Resting (token : EgressAdmission) : Prop :=
  token.tokenState = .armed ∧ token.featureMask ≠ requiredFeatures ||| featureXor

theorem no_token (token : EgressAdmission) (held : none = some token) : token.Resting :=
  absurd held.symm (Option.some_ne_none token)

/-- The slot between two executions. -/
def AtRest (slot : Option AdmissionSlot) : Prop :=
  ∃ held, slot = some held ∧ ∀ token, held.active = some token → token.Resting

/-- All that an execution does to the slot: nothing, a consumption, or one fresh nonce for
a token that is gone or resting at the end. -/
inductive Settles (before : Option AdmissionSlot) : Option AdmissionSlot → Prop where
  | kept : Settles before before
  | cleared : Settles before (before.map fun slot => { slot with active := none })
  | issued (nextNonce : UInt64) (active : Option EgressAdmission) (free : before = some ⟨nextNonce, none⟩)
      (room : nextNonce ≠ 0xffffffffffffffff) (resting : ∀ token, active = some token → token.Resting) :
      Settles before (some ⟨nextNonce + 1, active⟩)

/-- The counter refuses to wrap, so a fresh nonce is larger than all before it. -/
theorem fresh_nonce {nextNonce : UInt64} (room : nextNonce ≠ 0xffffffffffffffff) :
    nextNonce < nextNonce + 1 ∧ nextNonce + 1 ≠ 0 := by
  grind

theorem Settles.atRest (settles : Settles before after) (rest : AtRest before) : AtRest after := by
  cases settles with
  | kept => exact rest
  | cleared =>
    obtain ⟨held, rfl, _⟩ := rest
    exact ⟨_, rfl, no_token⟩
  | issued nextNonce active free room resting => exact ⟨_, rfl, resting⟩

theorem atRest_zeroed : AtRest (some {}) := by
  exact ⟨{}, rfl, no_token⟩

namespace Flight

/-- The XOR programs from one segment on, up to the completed token that is handed to the
continuation, with the segments that ran. -/
inductive XorChain (helpers : EgressHelpers) (maps : PolicyMaps) :
    (tailCalls segment : Nat) → Flight → List Nat → Flight → Prop where
  | next {segment : Nat} (loaded context : Tc.XorContext) (cipher : CipherValue) (skb : Skb)
      (runs : Transforms helpers maps segment flight loaded context cipher skb true)
      (present : helpers.xorEgressPrograms (Tc.xorProgramIndex context.generation (segment + 1)) = true)
      (rest : XorChain helpers maps tailCalls
        (Tc.xorProgramIndex context.generation (segment + 1) % Tc.xorSegmentCount) (flight.setSkb skb) segments
        complete) :
      XorChain helpers maps (tailCalls + 1) segment flight (segment :: segments) complete
  | last {segment : Nat} (loaded context : Tc.XorContext) (cipher : CipherValue) (skb : Skb)
      (runs : Transforms helpers maps segment flight loaded context cipher skb false)
      (moved : completeXor ((flight.setSkb skb).incTcStat .xorEgressOk) context.admissionNonce = some complete)
      (installed : helpers.faketcpEgressPrograms (context.generation.toNat % 2) = true) :
      XorChain helpers maps (tailCalls + 1) segment flight [segment] complete

section
variable {helpers : EgressHelpers} {env : Env} {maps : PolicyMaps} {flight armed : Flight} {packet : EgressPacket}
  {policy : EgressPolicy} {status : ParseStatus} {type : TypeChange} {admission : EgressAdmission} {segment : Nat}

/-- A stage whose drops leave a settled slot. -/
abbrev Stops {α : Type} (before : Flight) (ended : Except Flight α) (good : α → Prop) : Prop :=
  Returns (fun dropped : Flight => Settles before.slot dropped.slot) good ended

/-- The token of a stage is still there or has been consumed. -/
def Spends (before after : Flight) : Prop := after.slot = before.slot ∨ after.slot = before.consumeAdmission.slot

theorem prepareUdp_slot (helpers : EgressHelpers) (flight : Flight) (info : PacketInfo) (expectGso : Bool) :
    Stops flight (prepareUdp helpers flight info expectGso) fun prepared =>
      prepared.slot = flight.slot ∧ ∃ linear, prepared.tc.skb = { flight.tc.skb with linear } := by
  rw [prepareUdp]
  split
  · exact .kept
  · rename_i accepted skb hidden done
    obtain ⟨linear, rfl⟩ := ChecksumModule.prepareUdp_skb done
    dsimp only
    split
    · exact ⟨rfl, linear, rfl⟩
    · exact ⟨rfl, linear, rfl⟩
    · exact ⟨rfl, linear, rfl⟩
    · exact .kept

theorem captureFirstPacket_slot (helpers : EgressHelpers) (env : Env) (maps : PolicyMaps) (flight : Flight)
    (packet : EgressPacket) (rule : EgressRuleValue) (key : SessionKey) :
    (captureFirstPacket helpers env maps flight packet rule key).1.slot = flight.slot := by
  rw [captureFirstPacket]
  dsimp only
  repeat' split
  all_goals rfl

theorem missesSession_slot {α : Type} {good : α → Prop} (helpers : EgressHelpers) (env : Env) (maps : PolicyMaps)
    (flight : Flight) (packet : EgressPacket) (rule : EgressRuleValue) (key : SessionKey) (captures : Bool) :
    Stops flight (missesSession helpers env maps flight packet rule key captures) good := by
  rw [missesSession]
  split
  · exact .kept
  cases captures with
  | false => exact .kept
  | true =>
    have captured : Settles flight.slot
        (captureFirstPacket helpers env maps (flight.incStat .sessionMiss) packet rule key).1.slot := by
      rw [captureFirstPacket_slot]
      exact .kept
    dsimp only
    rw [if_neg nofun]
    split
    · exact captured
    · exact captured

/-- A token that the checkpoint has just armed in a free slot. -/
structure Armed (nextNonce : UInt64) (flight : Flight) (packet : EgressPacket) (policy : EgressPolicy)
    (admission : EgressAdmission) (armed : Flight) : Prop where
  free : flight.slot = some ⟨nextNonce, none⟩
  room : nextNonce ≠ 0xffffffffffffffff
  nonce : admission.nonce = nextNonce + 1
  state : admission.tokenState = .armed
  features : admission.featureMask = featureMask policy.rule (flight.tc.skb.gsoSize ≠ 0)
  result : armed = { flight with slot := some ⟨nextNonce + 1, some admission⟩ }
  placed : packet.info.payloadOff = packet.info.udpOff + udphdrSize

theorem admissionCheckpoint_slot (helpers : EgressHelpers) (env : Env) (maps : PolicyMaps) (flight : Flight)
    (packet : EgressPacket) (policy : EgressPolicy) (status : ParseStatus) (type : TypeChange)
    (checksumMode : Tc.XorChecksum) :
    Stops flight (admissionCheckpoint helpers env maps flight packet policy status type checksumMode)
      fun admitted => ∃ nextNonce, Armed nextNonce flight packet policy admitted.1 admitted.2 := by
  rw [admissionCheckpoint]
  split
  · exact .kept
  split
  · exact .kept
  rename_i snapshot
  split
  · exact .kept
  split
  · exact .kept
  split
  · exact .kept
  generalize (if flight.tc.skb.gsoSize ≠ 0 then Gso.maxPayload else maxPlainPayload) = limit
  split
  · exact .kept
  split
  · exact .kept
  dsimp only
  split
  · exact missesSession_slot ..
  split
  · rename_i nextNonce free
    split
    · exact .kept
    rename_i usable
    obtain ⟨shape, _⟩ := guard_some snapshot
    refine ⟨nextNonce, free, fun exhausted => usable (.inr exhausted), rfl, rfl, rfl, rfl, ?_⟩
    simp only [not_or, Nat.not_lt, Decidable.not_not] at shape
    omega
  · exact .cleared

theorem admissionCheckpoint_armed (admitted : admissionCheckpoint helpers env maps flight packet policy status type
    checksumMode = .ok (admission, armed)) : ∃ nextNonce, Armed nextNonce flight packet policy admission armed := by
  have checked := admissionCheckpoint_slot helpers env maps flight packet policy status type checksumMode
  rw [admitted] at checked
  exact checked

/-! ### The ways that never reach a tail-called program -/

theorem featureMask_aggregate (rule : EgressRuleValue) : featureMask rule true ≠ requiredFeatures ||| featureXor := by
  rw [featureMask]
  split <;> decide

/-- Behind the checkpoint of an aggregate the token is kept or consumed. -/
theorem Armed.settles {nextNonce : UInt64} {prepared dropped : Flight}
    (token : Armed nextNonce prepared packet policy admission armed)
    (same : prepared.slot = flight.slot) (aggregate : prepared.tc.skb.gsoSize ≠ 0)
    (spent : Spends armed dropped) :
    Settles flight.slot dropped.slot := by
  have resting : admission.Resting := by
    refine ⟨token.state, ?_⟩
    rw [token.features, decide_eq_true aggregate]
    exact featureMask_aggregate policy.rule
  have free := same ▸ token.free
  rcases spent with kept | consumed
  · rw [kept, token.result]
    exact .issued nextNonce (some admission) free token.room fun _ held => Option.some.inj held ▸ resting
  · rw [consumed, token.result]
    exact .issued nextNonce none free token.room no_token

theorem aggregateCipher_slot : Returns (Spends flight) (fun _ => True) (aggregateCipher maps flight policy) := by
  rw [aggregateCipher]
  split
  · exact .inr rfl
  split
  · exact .inr rfl
  · trivial

theorem transformSegments_slot (context : Gso.LoopContext) :
    Returns (Spends flight) (fun transformed => transformed.slot = flight.slot)
      (transformSegments helpers env flight context) := by
  rw [transformSegments]
  split
  · exact .inr rfl
  split
  · rfl
  split
  · exact .inr rfl
  · rfl

theorem commitSegments_slot (info : PacketInfo) (generation nonce : UInt64) :
    Returns (Spends flight) (Spends flight) (commitSegments env flight info generation nonce) := by
  rw [commitSegments]
  split
  · exact .inl rfl
  split
  · exact .inr rfl
  split
  · exact .inr rfl
  dsimp only
  split
  · exact .inr rfl
  · exact .inr rfl

theorem Spends.of_slot {before middle after : Flight} (same : middle.slot = before.slot) (spent : Spends middle after) :
    Spends before after := by
  simpa only [Spends, consumeAdmission, same] using spent

theorem encodeGsoSegments_slot (helpers : EgressHelpers) (env : Env) (maps : PolicyMaps) (packet : EgressPacket)
    (policy : EgressPolicy) (status : ParseStatus) (type : TypeChange) (aggregate : flight.tc.skb.gsoSize ≠ 0) :
    Stops flight (encodeGsoSegments helpers env maps flight packet policy status type)
      fun sent => Settles flight.slot sent.slot := by
  rw [encodeGsoSegments]
  split
  · exact .kept
  split
  · exact .kept
  refine (prepareUdp_slot helpers flight packet.info true).bind fun prepared ⟨same, linear, pulled⟩ => ?_
  have checked := admissionCheckpoint_slot helpers env maps prepared packet policy status type .none
  rw [Stops, same] at checked
  refine checked.bind fun (admission, armed) ⟨nextNonce, token⟩ => ?_
  have settles {after : Flight} (spent : Spends armed after) : Settles flight.slot after.slot :=
    token.settles same (by rw [pulled]; exact aggregate) spent
  dsimp only
  split
  · exact settles (.inl rfl)
  refine (aggregateCipher_slot.mono (fun _ => settles) fun _ => id).bind fun cipher _ => ?_
  refine ((transformSegments_slot _).mono (fun _ => settles) fun _ => id).bind fun transformed kept => ?_
  exact (commitSegments_slot _ _ _).mono (fun _ spent => settles (spent.of_slot kept))
    fun _ spent => settles (spent.of_slot kept)

theorem directCheckpoint_slot (helpers : EgressHelpers) (env : Env) (maps : PolicyMaps) (flight : Flight)
    (packet : EgressPacket) (policy : EgressPolicy) (status : ParseStatus) (type : TypeChange) :
    Stops flight (directCheckpoint helpers env maps flight packet policy status type) fun _ => True := by
  rw [directCheckpoint]
  split
  · exact .kept
  split
  · exact .kept
  split
  · exact .kept
  split
  · exact .kept
  split
  · exact .kept
  dsimp only
  split
  · exact missesSession_slot ..
  split
  · exact .kept
  · trivial

theorem directEgress_slot :
    Settles flight.slot (directEgress helpers env maps flight packet policy status type).1.slot := by
  have checked := directCheckpoint_slot helpers env maps flight packet policy status type
  rw [directEgress]
  split
  · rename_i dropped stopped
    rw [Stops, stopped] at checked
    exact checked
  split
  · exact .kept
  rw [encodeDirect]
  split
  · exact .kept
  · exact .kept

/-! ### The XOR programs -/

theorem XorChain.run (chain : XorChain helpers maps tailCalls segment flight segments complete) (env : Env) :
    runXorEgressSegment helpers env maps tailCalls segment flight = continueEgress helpers env maps complete := by
  induction chain with
  | next loaded context cipher skb runs present rest ih =>
    rw [runXorEgressSegment]
    simp only [runs.read, runs.continued, runs.bound, runs.found, runs.transformed, present, Bool.true_eq_false,
      if_false, if_true]
    exact ih
  | last loaded context cipher skb runs moved installed =>
    rw [runXorEgressSegment]
    simp only [runs.read, runs.continued, runs.bound, runs.found, runs.transformed, moved, installed,
      Bool.true_eq_false, if_false, if_true]

theorem activeAdmission_some (found : flight.activeAdmission nonce = some admission) :
    nonce ≠ 0 ∧ flight.slot.bind (·.active) = some admission ∧ admission.nonce = nonce := by
  obtain ⟨issued, found⟩ := guard_some found
  obtain ⟨held, same⟩ := Option.filter_eq_some_iff.mp found
  exact ⟨issued, held, of_decide_eq_true same⟩

theorem bindXorProgress_some {loaded context : Tc.XorContext} (bound : bindXorProgress flight loaded = some context) :
    ∃ active, flight.activeAdmission loaded.admissionNonce = some active ∧ active.tokenState = .armed ∧
      active.featureMask = requiredFeatures ||| featureXor ∧ udphdrSize ≤ active.payloadOff ∧
      active.xorTarget ≤ maxXorBytes ∧ context = { loaded with
        generation := active.key.generation
        cipherId := active.cipherId
        payloadOff := active.payloadOff
        target := active.xorTarget
        checksumMode := active.xorChecksumMode } := by
  rw [bindXorProgress] at bound
  split at bound
  · contradiction
  rename_i active found
  obtain ⟨ready, bound⟩ := guard_some bound
  simp only [not_or, Decidable.not_not, Nat.not_lt] at ready
  exact ⟨active, found, ready.1, ready.2.1, ready.2.2.2.2.1, ready.2.2.2.2.2.2, (Option.some.inj bound).symm⟩

/-- A resting token binds no XOR program. -/
theorem bindXorProgress_atRest (rest : AtRest flight.slot) : bindXorProgress flight loaded ≠ some context := by
  intro bound
  obtain ⟨active, found, _, features, _⟩ := bindXorProgress_some bound
  obtain ⟨_, held, _⟩ := activeAdmission_some found
  obtain ⟨slot, same, resting⟩ := rest
  rw [same] at held
  exact (resting active held).2 features

theorem XorChain.not_atRest (chain : XorChain helpers maps tailCalls segment flight segments complete) :
    ¬AtRest flight.slot := by
  intro rest
  cases chain with
  | next loaded context cipher skb runs => exact bindXorProgress_atRest rest runs.bound
  | last loaded context cipher skb runs => exact bindXorProgress_atRest rest runs.bound

theorem runXorEgressSegment_atRest (rest : AtRest flight.slot) :
    Settles flight.slot (runXorEgressSegment helpers env maps tailCalls segment flight).1.slot := by
  cases runXorEgressSegment_cases helpers env maps tailCalls segment flight with
  | baseline context loaded plain same =>
    rw [same]
    exact .kept
  | dropped tc same =>
    rw [same]
    exact .cleared
  | next loaded context cipher skb remaining runs =>
    exact absurd runs.bound (bindXorProgress_atRest rest)
  | completed loaded context cipher skb complete remaining runs =>
    exact absurd runs.bound (bindXorProgress_atRest rest)

theorem encodeEstablished_slot (info : PacketInfo) :
    (encodeEstablished helpers env flight info policy admission).1.slot = flight.slot := by
  rw [encodeEstablished]
  generalize requiredFeatures ||| (if admission.cipherId ≠ 0 then featureXor else 0) = features
  split
  · rfl
  · rfl

/-- Whatever the continuation finds, the token is gone. -/
theorem continueEgress_slot (scratch : env.scratch = true) :
    (continueEgress helpers env maps flight).1.slot = flight.consumeAdmission.slot := by
  rw [continueEgress, if_neg (by rw [scratch]; nofun)]
  dsimp only
  split
  · split
    · rfl
    split
    · rfl
    split
    · rfl
    split
    · rfl
    split
    · rfl
    exact encodeEstablished_slot _
  · rfl

/-- A packet on its way through the XOR programs. -/
structure Carries (admission : EgressAdmission) (flight : Flight) : Prop where
  slot : flight.slot = some ⟨admission.nonce, some admission⟩
  marked : flight.tc.skb.cb = (setFakeTcpXorContext flight.tc.skb admission.nonce).cb
  nonce : admission.nonce ≠ 0

theorem Carries.loaded (carries : Carries admission flight) :
    Tc.loadXorContext flight.tc.skb =
      some { admissionNonce := admission.nonce, continueFakeTcp := true } := by
  have word (index : Fin 5) : flight.tc.skb.cb index = (setFakeTcpXorContext flight.tc.skb admission.nonce).cb index :=
    congrFun carries.marked index
  have nonce : UInt64.ofNat (flight.tc.skb.cb 1 <<< 32 ||| flight.tc.skb.cb 0) = admission.nonce := by
    rw [word, word]
    exact Tc.nonce_words admission.nonce
  have metadata : flight.tc.skb.cb 4 = Tc.xorContextMagic ||| 0x4000 := word 4
  have keyed : flight.tc.skb.cb 2 = 0 := word 2
  have placed : flight.tc.skb.cb 3 = 0 := word 3
  rw [Tc.loadXorContext]
  dsimp only
  rw [nonce, metadata, keyed, placed, if_neg (by decide), if_pos (by decide), if_neg (by simp [carries.nonce])]
  rfl

theorem Carries.transformed {flight : Flight} (carries : Carries admission flight) (keeps : flight.tc.skb.Keeps skb) :
    Carries admission (flight.setSkb skb) :=
  ⟨carries.slot, keeps.cb.trans carries.marked, carries.nonce⟩

/-- The only token that a program of the chain can bind is the one it carries. -/
theorem Carries.bound {flight : Flight} {loaded context : Tc.XorContext} (carries : Carries admission flight)
    (read : Tc.loadXorContext flight.tc.skb = some loaded) (bound : bindXorProgress flight loaded = some context) :
    admission.tokenState = .armed ∧ admission.featureMask = requiredFeatures ||| featureXor ∧
      udphdrSize ≤ admission.payloadOff ∧ admission.xorTarget ≤ maxXorBytes ∧ context = {
        generation := admission.key.generation
        cipherId := admission.cipherId
        payloadOff := admission.payloadOff
        target := admission.xorTarget
        checksumMode := admission.xorChecksumMode
        continueFakeTcp := true
        admissionNonce := admission.nonce } := by
  rw [carries.loaded] at read
  cases read
  obtain ⟨active, found, state, features, placed, bounded, rfl⟩ := bindXorProgress_some bound
  obtain ⟨_, held, _⟩ := activeAdmission_some found
  rw [carries.slot] at held
  cases held
  exact ⟨state, features, placed, bounded, rfl⟩

/-- However far the chain gets, its token is consumed at the end. -/
theorem Carries.consumed {flight : Flight} (carries : Carries admission flight) (scratch : env.scratch = true)
    (tailCalls segment : Nat) :
    (runXorEgressSegment helpers env maps tailCalls segment flight).1.slot = some ⟨admission.nonce, none⟩ := by
  induction tailCalls using Nat.strong_induction_on generalizing segment flight with
  | h tailCalls ih =>
    cases runXorEgressSegment_cases helpers env maps tailCalls segment flight with
    | baseline context loaded plain same =>
      rw [carries.loaded] at loaded
      cases loaded
      cases plain
    | dropped tc same =>
      rw [same]
      simp only [consumeAdmission, carries.slot, Option.map_some]
    | next loaded context cipher skb remaining runs budget present same =>
      obtain ⟨_, _, placed, _, rfl⟩ := carries.bound runs.read runs.bound
      obtain ⟨_, keeps, _⟩ := Tc.xorSegmentFor_ok placed runs.transformed
      rw [same]
      exact ih remaining (by omega) (carries.transformed keeps) _
    | completed loaded context cipher skb complete remaining runs moved budget installed same =>
      rw [same, continueEgress_slot scratch, completeXor_consumed moved]
      simp only [consumeAdmission, incTcStat, setSkb, carries.slot, Option.map_some]

/-- What the chain has done when it reaches the continuation: consecutive segments up to
the token's target, each masked once, and the token completed at the end. -/
structure Completed (admission : EgressAdmission) (cipher : CipherValue) (segment : Nat) (flight : Flight)
    (segments : List Nat) (complete : Flight) : Prop where
  armed : admission.tokenState = .armed
  consecutive : segments = List.range' segment segments.length
  enough : admission.xorTarget ≤ (segment + segments.length) * Tc.xorSegmentBytes
  needed : (segment + segments.length) * Tc.xorSegmentBytes < admission.xorTarget + Tc.xorSegmentBytes
  payload : complete.tc.skb.behind admission.payloadOff = (flight.tc.skb.behind admission.payloadOff).mask
    cipher.keyByte (segment * Tc.xorSegmentBytes) admission.xorTarget
  slot : complete.slot = some ⟨admission.nonce, some { admission with tokenState := .xorComplete }⟩

theorem XorChain.completed {flight : Flight} (chain : XorChain helpers maps tailCalls segment flight segments complete)
    (carries : Carries admission flight) :
    ∃ cipher, maps.lookupCipher admission.cipherId admission.key.generation = some cipher ∧
      Completed admission cipher segment flight segments complete := by
  have bytes : Tc.xorSegmentBytes = 256 := rfl
  have count : Tc.xorSegmentCount = 8 := rfl
  have limit : maxXorBytes = 2048 := rfl
  induction chain with
  | @next flight tailCalls segments complete segment loaded context cipher skb runs present rest ih =>
    obtain ⟨read, _, bound, found, transformed⟩ := runs
    obtain ⟨armed, features, placed, bounded, rfl⟩ := carries.bound read bound
    dsimp only at found ih
    obtain ⟨masked, keeps, within, started, more⟩ := Tc.xorSegmentFor_ok placed transformed
    have beyond := of_decide_eq_true more.symm
    dsimp only at masked started beyond
    have follows : Tc.xorProgramIndex admission.key.generation (segment + 1) % Tc.xorSegmentCount = segment + 1 := by
      have below : segment + 1 < Tc.xorSegmentCount := by
        rw [bytes] at beyond
        omega
      rw [Tc.xorProgramIndex, Nat.mul_add_mod_of_lt below]
    obtain ⟨held, same, completed⟩ := ih (carries.transformed keeps)
    rw [follows] at completed
    rw [found] at same
    cases same
    have shift : segment + (segments.length + 1) = segment + 1 + segments.length := by omega
    refine ⟨cipher, found, armed, ?_, ?_, ?_, ?_, completed.slot⟩
    · rw [List.length_cons, List.range'_succ, ← completed.consecutive]
    · rw [List.length_cons, shift]
      exact completed.enough
    · rw [List.length_cons, shift]
      exact completed.needed
    · have rest := completed.payload
      have reached : (segment + 1) * Tc.xorSegmentBytes = segment * Tc.xorSegmentBytes + Tc.xorSegmentBytes :=
        Nat.succ_mul _ _
      have first : skb.behind admission.payloadOff = (flight.tc.skb.behind admission.payloadOff).mask cipher.keyByte
          (segment * Tc.xorSegmentBytes) ((segment + 1) * Tc.xorSegmentBytes) := by
        rw [masked, reached, Nat.min_eq_right (by omega)]
      rw [rest, setSkb]
      dsimp only
      rw [first, Bytes.mask_mask (by omega) (by omega)]
  | @last flight complete tailCalls segment loaded context cipher skb runs moved installed =>
    obtain ⟨read, _, bound, found, transformed⟩ := runs
    obtain ⟨armed, features, placed, bounded, rfl⟩ := carries.bound read bound
    obtain ⟨masked, keeps, within, started, more⟩ := Tc.xorSegmentFor_ok placed transformed
    have reached := of_decide_eq_false more.symm
    dsimp only at found masked started reached
    obtain ⟨active, held, _, _, _, rfl⟩ := completeXor_some moved
    obtain ⟨_, held, _⟩ := activeAdmission_some held
    have same : some admission = some active := by
      rw [← held]
      exact (congrArg (Option.bind · (·.active)) carries.slot).symm
    cases same
    refine ⟨cipher, found, armed, rfl, ?_, ?_, ?_, ?_⟩
    · rw [List.length_singleton, Nat.succ_mul]
      omega
    · rw [List.length_singleton, Nat.succ_mul]
      omega
    · rw [Nat.min_eq_left (by omega)] at masked
      exact masked
    · simp only [incTcStat, setSkb, carries.slot, Option.map_some]

end

/-! ### From the egress program to the chain -/

/-- The egress program has armed a token for this packet and hands both to the first XOR
program. -/
inductive Hands (helpers : EgressHelpers) (env : Env) (maps : PolicyMaps) (flight : Flight)
    (admission : EgressAdmission) (handed : Flight) : Prop where
  | intro (prepared armed : Flight) (packet : EgressPacket) (policy : EgressPolicy) (status : ParseStatus)
      (type : TypeChange) (skb : Skb) (slot : prepared.slot = flight.slot)
      (buffer : ∃ linear, prepared.tc.skb = { flight.tc.skb with linear })
      (admitted : admissionCheckpoint helpers env maps prepared packet policy status type
        (Tc.xorChecksumMode packet.info) = .ok (admission, armed))
      (written : Tc.updateTypeWord helpers.toHelpers (setFakeTcpXorContext armed.tc.skb admission.nonce) packet.info
        type.standardWire type.mixedWire true = .ok skb)
      (same : handed = armed.setSkb skb)

theorem Hands.carries (hands : Hands helpers env maps flight admission handed) :
    ∃ nextNonce, flight.slot = some ⟨nextNonce, none⟩ ∧ nextNonce ≠ 0xffffffffffffffff ∧
      admission.nonce = nextNonce + 1 ∧ Carries admission handed := by
  obtain ⟨prepared, armed, packet, policy, status, type, skb, slot, _, admitted, written, rfl⟩ := hands
  obtain ⟨nextNonce, token⟩ := admissionCheckpoint_armed admitted
  obtain ⟨_, _, keeps⟩ := Tc.updateTypeWord_ok written token.placed
  refine ⟨nextNonce, slot ▸ token.free, token.room, token.nonce, ?_, keeps.cb, ?_⟩
  · rw [token.nonce, token.result]
    rfl
  · rw [token.nonce]
    exact (fresh_nonce token.room).2

/-- One execution of the egress program, with the continuation installed and without. -/
inductive EgressRun (helpers : EgressHelpers) (env : Env) (maps : PolicyMaps) (flight : Flight)
    (result blocked : Flight × TcVerdict) : Prop where
  | aside (same : blocked = result) (settles : Settles flight.slot result.1.slot)
  | handed (admission : EgressAdmission) (handed : Flight) (hands : Hands helpers env maps flight admission handed)
      (ran : result = runXorEgressSegment helpers env maps (Tc.maxTailCalls - 1) 0 handed)
      (stopped : blocked = runXorEgressSegment helpers.withoutContinuation env maps (Tc.maxTailCalls - 1) 0 handed)

section
variable (helpers : EgressHelpers) (env : Env) (maps : PolicyMaps) (flight : Flight) (packet : EgressPacket)
  (policy : EgressPolicy) (status : ParseStatus) (type : TypeChange)

theorem EgressRun.of_stage {helpers : EgressHelpers} {env : Env} {maps : PolicyMaps} {stage flight : Flight}
    {result blocked : Flight × TcVerdict} (slot : stage.slot = flight.slot)
    (buffer : ∃ linear, stage.tc.skb = { flight.tc.skb with linear })
    (run : EgressRun helpers env maps stage result blocked) : EgressRun helpers env maps flight result blocked := by
  cases run with
  | aside same settles => exact .aside same (slot ▸ settles)
  | handed admission handed hands ran stopped =>
    obtain ⟨prepared, armed, packet, policy, status, type, skb, kept, ⟨linear, pulled⟩, admitted, written, same⟩ := hands
    obtain ⟨_, earlier⟩ := buffer
    refine .handed admission handed ⟨prepared, armed, packet, policy, status, type, skb, kept.trans slot,
      ⟨linear, ?_⟩, admitted, written, same⟩ ran stopped
    rw [pulled, earlier]

theorem cipherEgress_run :
    EgressRun helpers env maps flight (cipherEgress helpers env maps flight packet policy status type)
      (cipherEgress helpers.withoutContinuation env maps flight packet policy status type) := by
  have checked := admissionCheckpoint_slot helpers env maps flight packet policy status type
    (Tc.xorChecksumMode packet.info)
  have unmoved : admissionCheckpoint helpers.withoutContinuation env maps flight packet policy status type
      (Tc.xorChecksumMode packet.info) = admissionCheckpoint helpers env maps flight packet policy status type
        (Tc.xorChecksumMode packet.info) := rfl
  simp only [cipherEgress, unmoved]
  cases admitted : admissionCheckpoint helpers env maps flight packet policy status type
      (Tc.xorChecksumMode packet.info) with
  | error dropped =>
    rw [admitted] at checked
    exact .aside rfl checked
  | ok armed =>
    obtain ⟨admission, armed⟩ := armed
    obtain ⟨nextNonce, token⟩ := admissionCheckpoint_armed admitted
    -- every drop behind the checkpoint leaves the fresh nonce and no token
    have spent : Settles flight.slot armed.consumeAdmission.slot := by
      rw [token.result]
      exact .issued nextNonce none token.free token.room no_token
    dsimp only
    split
    · exact .aside rfl spent
    rename_i skb written
    split
    · have start : Tc.xorProgramIndex policy.generation 0 % Tc.xorSegmentCount = 0 := Nat.mul_mod_left _ _
      rw [start]
      exact .handed admission _ ⟨flight, armed, packet, policy, status, type, skb, rfl, ⟨_, rfl⟩, admitted, written,
        rfl⟩ rfl rfl
    · exact .aside rfl spent

theorem fakeTcpEgress_run (info : PacketInfo) :
    EgressRun helpers env maps flight (fakeTcpEgress helpers env maps flight info policy status type)
      (fakeTcpEgress helpers.withoutContinuation env maps flight info policy status type) := by
  have aggregates (packet : EgressPacket) :
      encodeGsoSegments helpers.withoutContinuation env maps flight packet policy status type =
        encodeGsoSegments helpers env maps flight packet policy status type := rfl
  have prepares : prepareUdp helpers.withoutContinuation flight info false = prepareUdp helpers flight info false := rfl
  have direct (flight : Flight) (packet : EgressPacket) :
      directEgress helpers.withoutContinuation env maps flight packet policy status type =
        directEgress helpers env maps flight packet policy status type := rfl
  simp only [fakeTcpEgress, aggregates, prepares, direct]
  split
  · exact .aside rfl .kept
  split
  · rename_i aggregate
    have ended := encodeGsoSegments_slot helpers env maps ⟨info, (projectIpv4Udp flight.tc.skb info).2⟩ policy status
      type aggregate
    split
    · rename_i dropped stopped
      rw [stopped] at ended
      exact .aside rfl ended
    · rename_i sent done
      rw [done] at ended
      exact .aside rfl ended
  · have prepared := prepareUdp_slot helpers flight info false
    split
    · rename_i dropped stopped
      rw [stopped] at prepared
      exact .aside rfl prepared
    · rename_i ready done
      rw [done] at prepared
      obtain ⟨same, buffer⟩ := prepared
      split
      · exact .of_stage same buffer (cipherEgress_run ..)
      · exact .aside rfl (same ▸ directEgress_slot)

theorem rewriteEgress_run (generation : UInt64) (info : PacketInfo) (managed : ManagedFwmarkValue)
    (rule : EgressRuleValue) :
    EgressRun helpers env maps flight (rewriteEgress helpers env maps flight generation info managed rule status)
      (rewriteEgress helpers.withoutContinuation env maps flight generation info managed rule status) := by
  simp only [rewriteEgress]
  split
  · exact .aside rfl .kept
  split
  · exact .aside rfl .kept
  split
  · exact .aside rfl .kept
  split
  · exact .aside rfl .kept
  split
  · exact .aside rfl .kept
  split
  · exact fakeTcpEgress_run ..
  · exact .aside rfl .kept

theorem wgMixEgress_run :
    EgressRun helpers env maps flight (wgMixEgress helpers env maps flight)
      (wgMixEgress helpers.withoutContinuation env maps flight) := by
  have controls (flight : Flight) (generation : UInt64) :
      authorizeUserspaceControl helpers.withoutContinuation env maps flight generation =
        authorizeUserspaceControl helpers env maps flight generation := rfl
  simp only [wgMixEgress, controls]
  split
  · exact .aside rfl .kept
  split
  · exact .aside rfl .kept
  split
  · exact .aside rfl .kept
  split
  · exact .aside rfl .kept
  · exact .aside rfl .kept
  split
  · exact .aside rfl .kept
  split
  · exact .aside rfl .kept
  split
  · exact .aside rfl .kept
  split
  · exact .aside rfl .kept
  split
  · exact .aside rfl .kept
  split
  · exact .aside rfl .kept
  split
  · exact .aside rfl .kept
  refine EgressRun.of_stage ?_ ?_ (rewriteEgress_run ..)
  · rfl
  · exact ⟨flight.tc.skb.linear, by simp only [Tc.incStatIf_skb]⟩

/-- A chain that never reaches the continuation does not notice whether one is there. -/
theorem runXorEgressSegment_stuck {helpers : EgressHelpers} {maps : PolicyMaps} {flight : Flight}
    {segment : Nat} (stuck : ∀ segments complete, ¬XorChain helpers maps tailCalls segment flight segments complete) :
    runXorEgressSegment helpers.withoutContinuation env maps tailCalls segment flight =
      runXorEgressSegment helpers env maps tailCalls segment flight := by
  induction tailCalls generalizing segment flight with
  | zero =>
    unfold runXorEgressSegment
    dsimp only
    split
    · rfl
    split
    · rfl
    split
    · rfl
    split
    · rfl
    split
    · rfl
    · rfl
    · cases completeXor _ _ <;> rfl
  | succ tailCalls ih =>
    unfold runXorEgressSegment
    dsimp only
    split
    · rfl
    rename_i loaded read
    split
    · rfl
    rename_i continued
    have marked : loaded.continueFakeTcp = true := by simpa using continued
    split
    · rfl
    rename_i context bound
    split
    · rfl
    rename_i cipher found
    split
    · rfl
    · rename_i skb transformed
      split
      · rename_i present
        refine ih fun segments complete rest => stuck (segment :: segments) complete ?_
        exact .next loaded context cipher skb ⟨read, marked, bound, found, transformed⟩ present rest
      · rfl
    · rename_i skb transformed
      cases moved : completeXor ((flight.setSkb skb).incTcStat .xorEgressOk) context.admissionNonce with
      | none => rfl
      | some complete =>
        simp only [Bool.false_eq_true, if_false]
        split
        · rename_i installed
          cases stuck _ _ (.last loaded context cipher skb ⟨read, marked, bound, found, transformed⟩ moved installed)
        · rfl

end

/-! ### The continuation -/

/-- What a continuation that encodes has found in the slot and compared. -/
structure Accepted (helpers : EgressHelpers) (env : Env) (maps : PolicyMaps) (complete sent : Flight)
    (admission : EgressAdmission) (policy : EgressPolicy) : Prop where
  held : complete.slot.bind (·.active) = some admission
  running : maps.activeGeneration = some policy.generation
  found : currentPolicy maps complete.tc.skb admission.key.localPort policy.generation = some policy
  bound : admissionMatches helpers env maps
    (complete.consumeAdmission.setSkb (Tc.clearXorContext complete.tc.skb)) (packetOfAdmission admission) policy
    .xorComplete admission = true
  encoded : encodeAuthorized helpers env (complete.consumeAdmission.setSkb (Tc.clearXorContext complete.tc.skb))
    (packetOfAdmission admission).info policy.generation admission.key admission.sessionAuthority
    admission.sessionProjection = (sent, .ok)

theorem continueEgress_ok {complete sent : Flight} (done : continueEgress helpers env maps complete = (sent, .ok)) :
    ∃ admission policy, Accepted helpers env maps complete sent admission policy := by
  rw [continueEgress] at done
  split at done
  · cases done
  dsimp only at done
  split at done
  · rename_i context admission _ held
    split at done
    · cases done
    split at done
    · cases done
    rename_i generation running
    split at done
    · cases done
    split at done
    · cases done
    rename_i policy found
    split at done
    · cases done
    rename_i matched
    rw [encodeEstablished] at done
    generalize requiredFeatures ||| (if admission.cipherId ≠ 0 then featureXor else 0) = features at done
    split at done
    · cases done
    have same : policy.generation = generation := by
      rw [currentPolicy] at found
      split at found
      · obtain ⟨profile, _, rfl⟩ := Option.map_eq_some_iff.mp found
        rfl
      · cases found
    cases same
    exact ⟨admission, policy, held, running, found, by simpa using matched, done⟩
  · cases done

theorem admissionMatches_true {packet : EgressPacket} {policy : EgressPolicy} {required : TokenState}
    {admission : EgressAdmission}
    (matched : admissionMatches helpers env maps flight packet policy required admission = true) :
    ∃ headers, Encoder.loadIpv4UdpSnapshot helpers.toHelpers flight.tc.skb packet.info.ipOff packet.info.udpOff
        packet.info.payloadOff = some headers ∧ admission.tokenState = required ∧
      bindsPacket flight.tc.skb packet.info headers admission = true ∧ bindsPolicy policy admission = true ∧
      bindsFlow (tcKey flight.tc.skb packet.info headers policy.generation policy.rule.wgId) admission = true := by
  rw [admissionMatches] at matched
  split at matched
  · cases matched
  split at matched
  · cases matched
  rename_i headers loaded
  split at matched
  · cases matched
  split at matched
  · cases matched
  split at matched
  · cases matched
  simp only [decide_eq_true_eq] at matched
  obtain ⟨_, state, _, _, bytes, ruled, _, flow, _⟩ := matched
  exact ⟨headers, loaded, state, bytes, ruled, flow⟩

/-- The encoded packet and the policy and session it was encoded for are those of the
token. -/
structure Bound (env : Env) (maps : PolicyMaps) (complete sent : Flight) (admission : EgressAdmission) : Prop where
  generation : maps.activeGeneration = some admission.key.generation
  mark : complete.tc.skb.mark = admission.fwmark
  underlay : complete.tc.skb.ifindex = admission.key.underlayIndex
  policy : ∃ policy, currentPolicy maps complete.tc.skb admission.key.localPort admission.key.generation = some policy ∧
    policy.managed.actionOnMiss = admission.managedAction ∧ policy.rule.action = admission.ruleAction ∧
    policy.rule.transportMode = admission.transportMode ∧ policy.rule.wgId = admission.wgId ∧
    policy.rule.profileId = admission.profileId ∧ policy.rule.cipherId = admission.cipherId ∧
    policy.profile.policyFlags = admission.profilePolicyFlags
  session : ∃ held, (complete.kernel.sessions admission.key).map env.racing = some held ∧
    held.authority = admission.sessionAuthority ∧ held.projection = admission.sessionProjection
  admitted : complete.tc.skb.data.length = admission.skbLen
  length : sent.tc.skb.data.length = admission.skbLen + headerDelta
  total : sent.tc.skb.data.be16 (admission.networkOff + 2) = admission.ipTotalLen + headerDelta
  source : sent.tc.skb.data.le32 (admission.networkOff + 12) = admission.key.localIpv4
  destination : sent.tc.skb.data.le32 (admission.networkOff + 16) = admission.key.remoteIpv4
  sourcePort : sent.tc.skb.data.be16 (admission.networkOff + 20) = admission.key.localPort.toNat
  destinationPort : sent.tc.skb.data.be16 (admission.networkOff + 22) = admission.key.remotePort.toNat

theorem Bound.of_state {state : TokenState}
    (bound : Bound env maps complete sent { admission with tokenState := state }) :
    Bound env maps complete sent admission :=
  ⟨bound.generation, bound.mark, bound.underlay, bound.policy, bound.session, bound.admitted, bound.length,
    bound.total, bound.source, bound.destination, bound.sourcePort, bound.destinationPort⟩

theorem Accepted.binds (accepted : Accepted helpers env maps complete sent admission policy) :
    Bound env maps complete sent admission := by
  obtain ⟨headers, snapshot, _, bytes, ruled, flow⟩ := admissionMatches_true accepted.bound
  have encoded := accepted.encoded
  rw [encodeAuthorized] at encoded
  split at encoded
  rename_i kernel tc verdict written
  cases encoded
  obtain ⟨grown, total, same⟩ := Encoder.encode_flow written
  obtain ⟨⟨current, loaded, source, destination, sourcePort, destinationPort⟩, session⟩ :=
    Encoder.encode_admits written
  rw [loaded] at snapshot
  cases snapshot
  obtain ⟨_, loaded⟩ := guard_some loaded
  obtain ⟨_, rfl⟩ := Skb.loadBytes_some loaded
  simp only [bindsPacket, decide_eq_true_eq] at bytes
  simp only [bindsPolicy, decide_eq_true_eq] at ruled
  simp only [bindsFlow, decide_eq_true_eq] at flow
  obtain ⟨mark, length, _, _, _, _, declared, _⟩ := bytes
  obtain ⟨generation, managed, action, transport, wgId, profileId, cipherId, flags, _⟩ := ruled
  rw [Bytes.be16_slice (by decide)] at declared sourcePort destinationPort
  rw [Bytes.le32_slice (by decide)] at source destination
  have word (index : Nat) (within : index + 4 ≤ 12) :
      tc.skb.data.le32 (admission.networkOff + 12 + index) =
        complete.tc.skb.data.le32 (admission.networkOff + 12 + index) := by
    rw [← Bytes.le32_slice within, ← Bytes.le32_slice within]
    exact congrArg (Bytes.le32 · index) same
  have port (index : Nat) (within : index + 1 < 12) :
      tc.skb.data.be16 (admission.networkOff + 12 + index) =
        complete.tc.skb.data.be16 (admission.networkOff + 12 + index) := by
    rw [← Bytes.be16_slice within, ← Bytes.be16_slice within]
    exact congrArg (Bytes.be16 · index) same
  refine ⟨generation ▸ accepted.running, mark.symm, flow.2.2.1, ⟨policy, generation ▸ accepted.found, managed.symm,
    action.symm, transport.symm, wgId.symm, profileId.symm, cipherId.symm, flags.symm⟩, session, length.symm, ?_, ?_,
    (word 0 (by omega)).trans source, (word 4 (by omega)).trans destination, (port 8 (by omega)).trans sourcePort,
    (port 10 (by omega)).trans destinationPort⟩
  · rw [length]
    exact grown
  · rw [declared]
    exact total

end Flight

/-! ### Sequences of executions -/

namespace Execution

/-- Everything but the continuation program. -/
def withoutContinuation (execution : Execution) : Execution :=
  { execution with helpers := execution.helpers.withoutContinuation }

/-- How an execution reaches the continuation: at its entry, through forged scratch words
at a XOR program, or in the chain of the egress program. -/
inductive Attempt (execution : Execution) (slot : Option AdmissionSlot) (complete : Flight) : Prop where
  | direct (entered : execution.entry = .continuation) (same : complete = execution.flight slot)
  | forged (tailCalls segment : Nat) (segments : List Nat) (entered : execution.entry = .xorSegment tailCalls segment)
      (chain : Flight.XorChain execution.helpers execution.maps tailCalls segment (execution.flight slot) segments
        complete)
  | chained (admission : EgressAdmission) (handed : Flight) (segments : List Nat) (entered : execution.entry = .egress)
      (hands : Flight.Hands execution.helpers execution.env execution.maps (execution.flight slot) admission handed)
      (ran : execution.run slot = Flight.runXorEgressSegment execution.helpers execution.env execution.maps
        (Tc.maxTailCalls - 1) 0 handed)
      (chain : Flight.XorChain execution.helpers execution.maps (Tc.maxTailCalls - 1) 0 handed segments complete)

theorem Attempt.reaches {execution : Execution} (attempt : Attempt execution slot complete) :
    execution.run slot = Flight.continueEgress execution.helpers execution.env execution.maps complete := by
  cases attempt with
  | direct entered same => rw [run, entered, same]
  | forged tailCalls segment segments entered chain =>
    rw [run, entered]
    exact chain.run execution.env
  | chained admission handed segments entered hands ran chain =>
    rw [ran]
    exact chain.run execution.env

/-- Every other execution runs as if there were no continuation. -/
theorem run_without_attempt {execution : Execution} (never : ∀ complete, ¬Attempt execution slot complete) :
    execution.withoutContinuation.run slot = execution.run slot := by
  cases entered : execution.entry with
  | continuation => cases never _ (.direct entered rfl)
  | xorSegment tailCalls segment =>
    simp only [run, withoutContinuation, entered]
    exact Flight.runXorEgressSegment_stuck _ fun segments complete chain =>
      never complete (.forged tailCalls segment segments entered chain)
  | egress =>
    have egress : execution.run slot = Flight.wgMixEgress execution.helpers execution.env execution.maps
        (execution.flight slot) := by rw [run, entered]
    have blocked : execution.withoutContinuation.run slot = Flight.wgMixEgress execution.helpers.withoutContinuation
        execution.env execution.maps (execution.flight slot) := by simp only [run, withoutContinuation, entered]; rfl
    rw [blocked, egress]
    cases Flight.wgMixEgress_run execution.helpers execution.env execution.maps (execution.flight slot) with
    | aside same settles => exact same
    | handed admission handed hands ran stopped =>
      rw [ran, stopped]
      exact Flight.runXorEgressSegment_stuck _ fun segments complete chain =>
        never complete (.chained admission handed segments entered hands (egress.trans ran) chain)

theorem settles (execution : Execution) (rest : AtRest slot) : Settles slot (execution.after slot) := by
  cases entered : execution.entry with
  | continuation =>
    rw [after, run, entered]
    dsimp only
    rw [Flight.continueEgress_slot execution.scratch]
    exact .cleared
  | xorSegment tailCalls segment =>
    have resting : AtRest (execution.flight slot).slot := rest
    rw [after, run, entered]
    exact Flight.runXorEgressSegment_atRest resting
  | egress =>
    rw [after, run, entered]
    cases Flight.wgMixEgress_run execution.helpers execution.env execution.maps (execution.flight slot) with
    | aside same settles => exact settles
    | handed admission handed hands ran stopped =>
      obtain ⟨nextNonce, free, room, issued, carries⟩ := hands.carries
      dsimp only
      rw [ran, carries.consumed execution.scratch, issued]
      exact .issued nextNonce none free room no_token

/-- The slot of a CPU after some executions, from the zeroed map on. -/
def slotAfter (executions : List Execution) : Option AdmissionSlot := Runs.run after (some {}) executions

theorem atRest_after (executions : List Execution) : AtRest (slotAfter executions) := by
  refine Runs.always (P := AtRest) (fun slot execution rest => ?_) atRest_zeroed executions
  exact (execution.settles rest).atRest rest

def counter (slot : Option AdmissionSlot) : UInt64 := (slot.map (·.nextNonce)).getD 0

/-- The nonces that the slot has issued, in order. -/
def issuedNonces : Option AdmissionSlot → List Execution → List UInt64
  | _, [] => []
  | slot, execution :: rest =>
    (if counter (execution.after slot) = counter slot then [] else [counter (execution.after slot)]) ++
      issuedNonces (execution.after slot) rest

theorem settles_counter (settles : Settles before settled) :
    counter settled = counter before ∨ counter before < counter settled := by
  cases settles with
  | kept => exact .inl rfl
  | cleared =>
    refine .inl ?_
    cases before <;> rfl
  | issued nextNonce active free room resting =>
    rw [free]
    exact .inr (fresh_nonce room).1

theorem issuedNonces_increasing (executions : List Execution) (rest : AtRest slot) :
    (∀ nonce ∈ issuedNonces slot executions, counter slot < nonce) ∧
      (issuedNonces slot executions).Pairwise (· < ·) := by
  induction executions generalizing slot with
  | nil => exact ⟨nofun, .nil⟩
  | cons execution executions ih =>
    have settled := execution.settles rest
    obtain ⟨later, increasing⟩ := ih (settled.atRest rest)
    rw [issuedNonces]
    split
    · rename_i same
      rw [same] at later
      exact ⟨later, increasing⟩
    · rename_i moved
      have fresh := (settles_counter settled).resolve_left moved
      constructor
      · intro nonce member
        rcases List.mem_cons.mp member with rfl | member
        · exact fresh
        · exact UInt64.lt_trans fresh (later nonce member)
      · exact .cons later increasing

/-- A packet that the continuation has encoded: its token was armed by this execution in a
free slot, with a nonce above all earlier ones, was completed once behind its last segment,
and describes the encoded packet. -/
structure Continued (execution : Execution) (slot : Option AdmissionSlot) (complete sent : Flight)
    (admission : EgressAdmission) : Prop where
  entered : execution.entry = .egress
  fresh : ∃ nextNonce, slot = some ⟨nextNonce, none⟩ ∧ nextNonce < admission.nonce
  chain : ∃ handed segments cipher,
    Flight.Hands execution.helpers execution.env execution.maps (execution.flight slot) admission handed ∧
    Flight.XorChain execution.helpers execution.maps (Tc.maxTailCalls - 1) 0 handed segments complete ∧
    execution.maps.lookupCipher admission.cipherId admission.key.generation = some cipher ∧
    Flight.Completed admission cipher 0 handed segments complete
  bound : Flight.Bound execution.env execution.maps complete sent admission

/-- The token of an attempt from a slot at rest is the one its own execution has armed. -/
theorem Attempt.continued {execution : Execution} (attempt : Attempt execution slot complete) (rest : AtRest slot)
    (done : Flight.continueEgress execution.helpers execution.env execution.maps complete = (sent, .ok)) :
    ∃ admission, Continued execution slot complete sent admission := by
  obtain ⟨token, policy, accepted⟩ := Flight.continueEgress_ok done
  cases attempt with
  | direct entered same =>
    obtain ⟨held, rfl, resting⟩ := rest
    have found := accepted.held
    rw [same] at found
    have armed := (resting token found).1
    obtain ⟨_, _, state, _⟩ := Flight.admissionMatches_true accepted.bound
    rw [state] at armed
    cases armed
  | forged tailCalls segment segments entered chain => cases chain.not_atRest rest
  | chained admission handed segments entered hands ran chain =>
    obtain ⟨nextNonce, free, room, issued, carries⟩ := hands.carries
    obtain ⟨cipher, found, completed⟩ := chain.completed carries
    have held := accepted.held
    rw [completed.slot] at held
    cases held
    refine ⟨admission, entered, ⟨nextNonce, free, issued ▸ (fresh_nonce room).1⟩, ?_, accepted.binds.of_state⟩
    exact ⟨handed, segments, cipher, hands, chain, found, completed⟩

/-- After an attempt the slot holds no token. -/
theorem Attempt.consumes {execution : Execution} (attempt : Attempt execution slot complete) (rest : AtRest slot) :
    ∃ nextNonce, execution.after slot = some ⟨nextNonce, none⟩ := by
  have cleared : execution.after slot = complete.consumeAdmission.slot := by
    rw [after, attempt.reaches, Flight.continueEgress_slot execution.scratch]
  rw [cleared]
  cases attempt with
  | direct entered same =>
    obtain ⟨held, rfl, _⟩ := rest
    rw [same]
    exact ⟨held.nextNonce, rfl⟩
  | forged tailCalls segment segments entered chain => cases chain.not_atRest rest
  | chained admission handed segments entered hands ran chain =>
    obtain ⟨nextNonce, free, room, issued, carries⟩ := hands.carries
    obtain ⟨cipher, found, completed⟩ := chain.completed carries
    simp only [Flight.consumeAdmission, completed.slot]
    exact ⟨admission.nonce, rfl⟩

/-- Continuation tokens are single-use and bound, in every sequence of executions on one
CPU: the nonces increase, an execution without an attempt ignores the continuation, and an
attempt leaves no token and encodes only what its own token describes. -/
theorem continuation_tokens (executions : List Execution) (execution : Execution) :
    (issuedNonces (some {}) (executions ++ [execution])).Pairwise (· < ·) ∧
    ((∀ complete, ¬Attempt execution (slotAfter executions) complete) →
      execution.withoutContinuation.run (slotAfter executions) = execution.run (slotAfter executions)) ∧
    ∀ complete, Attempt execution (slotAfter executions) complete →
      execution.run (slotAfter executions) =
        Flight.continueEgress execution.helpers execution.env execution.maps complete ∧
      (∃ nextNonce, execution.after (slotAfter executions) = some ⟨nextNonce, none⟩) ∧
      ∀ sent, execution.run (slotAfter executions) = (sent, .ok) →
        ∃ admission, Continued execution (slotAfter executions) complete sent admission := by
  have rest := atRest_after executions
  refine ⟨(issuedNonces_increasing _ atRest_zeroed).2, run_without_attempt, fun complete attempt => ?_⟩
  refine ⟨attempt.reaches, attempt.consumes rest, fun sent done => attempt.continued rest ?_⟩
  rw [← attempt.reaches]
  exact done

section Example
open Xdp

def sampleEgressMaps : PolicyMaps := { sampleMaps with
  underlays := fun _ _ => some ⟨7, .l3⟩
  ciphers := fun generation id => if generation = 7 ∧ id = 3 then
    some { generation := 7, key := fun index => UInt8.ofNat (index.val + 1), maxBytes := 1500, flags := 0,
           mode := .xor } else none
  managedFwmarks := fun key => if key = ⟨7, 0x51, 2⟩ then some ⟨7, .drop⟩ else none
  egressRules := fun key => if key = ⟨7, 0x51, 2, 51820, .ipv4⟩ then
    some { generation := 7, profileId := 1, wgId := 1, cipherId := 3, icmpId := 0, action := .rewrite,
           transportMode := .faketcp, icmpRole := .none } else none }

/-- A data message of the session on its way out. -/
def sampleDatagram : Bytes :=
  [0x45, 0, 0, 60, 0, 1, 0x40, 0, 64, 17, 0, 0, 192, 0, 2, 1, 198, 51, 100, 9] ++
    [0xca, 0x6c, 0x9c, 0x40, 0, 40, 0, 0] ++ [4, 0, 0, 0] ++ List.replicate 28 7

def sampleExecution (entry : EgressEntry) : Execution where
  entry := entry
  helpers := {}
  env := { now := 1000 }
  maps := sampleEgressMaps
  kernel := sampleKernel
  tc := { skb := { data := sampleDatagram, linear := sampleDatagram.length, protocol := ethPIp, mark := 0x51,
                   ifindex := 2 } }
  hidden := { networkOffset := some 0, transportOffset := some 20, ipSummed := .none, device := some 1500,
              route := some ⟨true, 1500⟩ }
  scratch := rfl

/-- A forged continuation does nothing, and the chain behind it encodes its own packet. -/
theorem continuation_tokens_sample :
    ∃ complete sent admission,
      Attempt (sampleExecution .egress) (slotAfter [sampleExecution .continuation]) complete ∧
      (sampleExecution .egress).run (slotAfter [sampleExecution .continuation]) = (sent, .ok) ∧
      Continued (sampleExecution .egress) (slotAfter [sampleExecution .continuation]) complete sent admission := by
  have encoded : ((sampleExecution .egress).run (slotAfter [sampleExecution .continuation])).2 = .ok := by
    decide +kernel
  have blocked : ((sampleExecution .egress).withoutContinuation.run
      (slotAfter [sampleExecution .continuation])).2 = .shot := by
    decide +kernel
  -- from here on only the two verdicts matter
  generalize sampleExecution .egress = execution at encoded blocked ⊢
  generalize [sampleExecution .continuation] = executions at encoded blocked ⊢
  obtain ⟨_, alone, attempts⟩ := continuation_tokens executions execution
  have attempted : ∃ complete, Attempt execution (slotAfter executions) complete := by
    by_contra never
    rw [alone (not_exists.mp never), encoded] at blocked
    cases blocked
  obtain ⟨complete, attempt⟩ := attempted
  obtain ⟨_, _, continued⟩ := attempts complete attempt
  obtain ⟨admission, continued⟩ := continued _ (Prod.ext rfl encoded)
  exact ⟨complete, _, admission, attempt, Prod.ext rfl encoded, continued⟩

end Example

end Execution
end WgMix.Bpf
