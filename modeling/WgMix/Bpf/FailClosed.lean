import WgMix.Bpf.Decoder

/-! The XDP program fails closed: on a managed interface a frame passes as bypass
traffic, as traffic of an unmanaged port, or as the UDP datagram of a session that
was established under the current incarnation at both of its checks. -/
namespace WgMix.Bpf
open L3

theorem Kernel.generationEnter_sessions (kernel : Kernel) (generation : UInt64) :
    (kernel.generationEnter generation).1.sessions = kernel.sessions := by
  rw [Kernel.generationEnter]
  split <;> rfl

/-- An entry whose authority and projection are the expected ones. -/
theorem SessionValue.mutate_some {session value : SessionValue} {generation now : UInt64}
    {expectedAuthority : SessionAuthority} {expectedProjection : SessionProjection}
    (mutated : session.mutate generation now operation argument expectedAuthority expectedProjection =
      some (value, result)) :
    session.metadataValid generation = true ∧ session.authority = expectedAuthority := by
  rw [mutate] at mutated
  split at mutated
  · rename_i granted
    have matched := granted.1
    simp only [authorityMatches, decide_eq_true_eq, FixedBytes.difference_eq_zero] at matched
    obtain ⟨valid, id, _, incarnation⟩ := matched
    refine ⟨valid, ?_⟩
    rw [SessionValue.authority, id, incarnation]
  · cases mutated

namespace Xdp

variable {build : Build} {maps : PolicyMaps} {kernel : Kernel} {env : Env} {ctx : Context}
  {headers : Envelope} {l3 : L3Info} {managed : ManagedPortValue} {generation : UInt64}
  {managedInterface : Bool} {admission : IngressAdmission} {session : SessionSnapshot}

/-- The type word of a decoded packet, with the cipher taken off. -/
def restoredWord (packet : Bytes) (cipher : Option CipherValue) : UInt32 :=
  let word := packet.le32 (iphdrSize + udphdrSize)
  match cipher with
  | some cipher => cipher.xorTypeWordCopy word
  | none => word

/-- The policy that a managed port is served under. -/
structure Served (maps : PolicyMaps) (ifindex : UInt32) (generation : UInt64) (port : UInt16)
    (managed : ManagedPortValue) (policy : IngressListenerValue) (profile : ProfileValue)
    (cipher : Option CipherValue) : Prop where
  entry : maps.xdpManagedPort ifindex port generation = some managed
  listener : maps.lookupIngressListener ifindex port .ipv4 generation = some policy
  coherent : listenersCoherent managed policy true generation = true
  profile : maps.lookupProfile generation policy.profileId = some profile
  cipher : (policy.cipherId = 0 ∧ cipher = none) ∨
    (policy.cipherId ≠ 0 ∧ cipher.isSome = true ∧ maps.lookupCipher policy.cipherId generation = cipher)

/-- The session of a packet that the transform let through: the entry that the
checkpoint snapshot was taken of and the one under the lock of the final mutation. -/
structure StaysEstablished (maps : PolicyMaps) (kernel : Kernel) (env : Env) (generation : UInt64)
    (key : SessionKey) (atAdmission atMutation : SessionValue) (identity : RuntimeIdentityValue) : Prop where
  looked : maps.lookupRuntimeIdentity generation = some identity
  found : kernel.sessions key = some atAdmission
  held : env.racing atAdmission = atMutation
  established : atAdmission.state = .established ∧ atMutation.state = .established
  generations : atAdmission.generation = generation ∧ atMutation.generation = generation
  current : atAdmission.runtimeIncarnation = identity.incarnation ∧
    atMutation.runtimeIncarnation = identity.incarnation

/-- An unfragmented fixed-header IPv4 packet with a fixed-header TCP data segment. -/
structure PlainSegment (frame : Bytes) (l3 : L3Info) : Prop where
  family : l3.family = .ipv4
  unfragmented : frame.be16 (l3.l3Off + 6) &&& ipMf = 0 ∧ frame.be16 (l3.l3Off + 6) &&& ipOffset = 0
  fixedIp : l3.l3HeaderLen = iphdrSize
  tcp : l3.transportProtocol = ipprotoTcp
  fixedTcp : l3.l4HeaderLen = tcphdrSize
  dataFlags : frame.byteAt (l3.l4Off + 13) &&& ~~~(flagAck ||| flagPsh) = 0 ∧
    frame.byteAt (l3.l4Off + 13) &&& flagAck ≠ 0

/-- The packet at the transform's exit: the segment's addresses and ports, its
payload with the moved bytes back in front, and a UDP header. -/
structure RewrittenToUdp (before : Bytes) (l3Off : Nat) (packet : Bytes) (wire : WireFrame) : Prop where
  cut : before = wire.bytes ∧ wire.link.length = l3Off
  packet : ∃ ipField udpField : Bytes, ipField.length = 2 ∧ udpField.length = 2 ∧
    packet = wire.decodedIpWith (wire.totalLen - headerDelta) ipField ++
      (wire.udpWith udpField ++ (wire.tail ++ wire.rest))

/-- The first word names a message kind of this length. -/
def DecodesTo (profile : ProfileValue) (word : UInt32) (payloadLen : Nat) (kind : Fin 4) : Prop :=
  profile.decodeMixed word = some (kind, UInt32.ofNat (kind.val + 1)) ∧ validateLen kind payloadLen = true

/-- Everything a managed frame went through before it passed. -/
structure Restored (maps : PolicyMaps) (kernel : Kernel) (env : Env) (ctx : Context) (generation : UInt64)
    (l3 : L3Info) (port : UInt16) (managed : ManagedPortValue) (frame : Bytes) : Prop where
  plain : PlainSegment ctx.frame l3
  carried : ∃ policy profile cipher wire kind atAdmission atMutation identity,
    Served maps ctx.ingressIfindex generation port managed policy profile cipher ∧
    StaysEstablished maps kernel env generation
      (admissionOf ctx ⟨ctx.frame.slice l3.l3Off 40⟩ policy generation).key atAdmission atMutation identity ∧
    RewrittenToUdp ctx.frame l3.l3Off (ipv4Packet frame l3.l3Off) wire ∧
    DecodesTo profile (restoredWord (ipv4Packet frame l3.l3Off) cipher) wire.payloadLen kind

/-- Only a data segment reaches the transform. -/
theorem classifySession_transform (classified : (classifySession build maps kernel frame l3Off profile cipher
    generation bound).2 = .transform admission session) :
    admission.tcpFlags &&& ~~~(flagAck ||| flagPsh) = 0 ∧ admission.tcpFlags &&& flagAck ≠ 0 := by
  rw [classifySession] at classified
  split at classified
  · dsimp only at classified
    split at classified <;> cases classified
  split at classified
  · cases classified
  split at classified
  · cases classified
  split at classified
  · cases classified
  split at classified
  · cases classified
  split at classified
  · cases classified
  split at classified
  · cases classified
  rename_i shape
  split at classified
  · cases classified
    simp only [not_or, ne_eq, Decidable.not_not] at shape
    exact ⟨shape.1, shape.2.1⟩
  · cases classified

theorem checkpoint_transform {policyListener : Option IngressListenerValue}
    (classified : (admissionCheckpoint build maps kernel ctx headers l3 managed policyListener managedInterface
      generation).2 = .transform admission session) :
    admission.tcpFlags &&& ~~~(flagAck ||| flagPsh) = 0 ∧ admission.tcpFlags &&& flagAck ≠ 0 := by
  simp only [admissionCheckpoint] at classified
  split at classified
  · cases classified
  split at classified
  · cases classified
  split at classified
  · cases classified
  split at classified
  · cases classified
  split at classified
  · cases classified
  split at classified
  · cases classified
  split at classified
  · cases classified
  · exact classifySession_transform classified

theorem typeWord_decodes (admitted : typeWordAdmitted build frame l3Off profile cipher admission = true) :
    ∃ word kind, loadBytes build frame (l3Off + admission.wireTotalLen - headerDelta) 4 = some word ∧
      DecodesTo profile (match cipher with
        | some cipher => cipher.xorTypeWordCopy (word.le32 0)
        | none => word.le32 0) admission.payloadLen kind := by
  rw [typeWordAdmitted] at admitted
  split at admitted
  · cases admitted
  rename_i word loaded
  dsimp only at admitted
  split at admitted
  · cases admitted
  rename_i kind standard decoded
  obtain ⟨rfl, valid⟩ := of_decide_eq_true admitted
  exact ⟨word, kind, loaded, decoded, valid⟩

theorem cipherFor_data {policy : IngressListenerValue} (chosen : cipherFor maps policy generation admission = some cipher)
    (opened : closeControl admission.tcpFlags = false) (carries : admission.payloadLen ≠ 0) :
    (policy.cipherId = 0 ∧ cipher = none) ∨
      (policy.cipherId ≠ 0 ∧ cipher.isSome = true ∧ maps.lookupCipher policy.cipherId generation = cipher) := by
  rw [cipherFor] at chosen
  split at chosen
  · rename_i ciphered
    split at chosen
    · cases chosen
    rename_i found
    split at chosen
    · cases chosen
    cases chosen
    exact .inr ⟨ciphered.2.2, rfl, found⟩
  · rename_i plain
    cases chosen
    exact .inl ⟨by_contra fun ciphered => plain ⟨opened, carries, ciphered⟩, rfl⟩

/-- The word that the checkpoint looked at is the first one of the decoded payload. -/
theorem Received.restored_word {wire : WireFrame} {ipField udpField word : Bytes}
    (received : Received build ctx headers l3 admission wire) (ipSized : ipField.length = 2)
    (udpSized : udpField.length = 2)
    (loaded : loadBytes build ctx.frame (l3.l3Off + admission.wireTotalLen - headerDelta) 4 = some word) :
    word.le32 0 = Bytes.le32 (wire.decodedIpWith (wire.totalLen - headerDelta) ipField ++
      (wire.udpWith udpField ++ (wire.tail ++ wire.rest))) (iphdrSize + udphdrSize) := by
  have delta : headerDelta = 12 := rfl
  have ipLen : (wire.decodedIpWith (wire.totalLen - headerDelta) ipField).length = 20 :=
    wire.length_decodedIpWith ipSized
  have totalEq : wire.totalLen = 40 + (wire.rest.length + 12) := rfl
  obtain ⟨first, second, tailEq, firstSized⟩ : ∃ first second, wire.tail = first ++ second ∧ first.length = 4 :=
    ⟨wire.tail.take 4, wire.tail.drop 4, (List.take_append_drop _ _).symm, by
      rw [List.length_take, wire.tail_length]; rfl⟩
  let front := wire.link ++ (wire.ip ++ (wire.tcp ++ wire.rest))
  have whole : ctx.frame = front ++ (first ++ (second ++ wire.padding)) := by
    rw [received.frame, WireFrame.bytes, tailEq]
    simp only [front, List.append_assoc]
  have offset : l3.l3Off + admission.wireTotalLen - headerDelta = front.length := by
    simp only [front, List.length_append, wire.length_ip, wire.length_tcp, received.start, received.total]
    omega
  have wordEq : word = first := by
    rw [loadBytes] at loaded
    split at loaded
    · cases loaded
    split at loaded
    · cases loaded
    rw [offset, whole, Bytes.slice_skip (Nat.le_refl _), Nat.sub_self, Bytes.slice_here firstSized] at loaded
    exact (Option.some.inj loaded).symm
  have udpLen := wire.length_udpWith udpSized
  simp only [Bytes.le32, iphdrSize, udphdrSize]
  rw [Bytes.slice_skip (by rw [ipLen]; omega), ipLen, Bytes.slice_skip (by rw [udpLen]), udpLen, tailEq,
    List.append_assoc, Bytes.slice_here firstSized, wordEq, Bytes.slice_all firstSized]

theorem Received.opened {wire : WireFrame} (received : Received build ctx headers l3 admission wire)
    (passed : (transformBranch build running env ctx headers l3 generation admission session).action = .pass) :
    env.adjustMeta = true := by
  obtain ⟨sum, _, ipEq⟩ := WireFrame.decodedIp_eq received.envelope (wire.totalLen - headerDelta)
  obtain ⟨check, _, _, udpEq, _⟩ := WireFrame.decodedUdp_eq received.envelope
  have written := transform_frame running env generation session received ipEq (Bytes.length_leBytes _ _) udpEq
    (Bytes.length_leBytes _ _)
  by_contra closed
  rw [(written.1 (Bool.eq_false_of_not_eq_true closed)).2] at passed
  cases passed

/-- A pass out of the transform has mutated the session it was admitted by. -/
theorem transform_established (passed : (transformBranch build running env ctx headers l3 generation admission
    session).action = .pass) (same : running.sessions = kernel.sessions)
    (established : Established maps kernel generation admission session) :
    ∃ atAdmission atMutation identity,
      StaysEstablished maps kernel env generation admission.key atAdmission atMutation identity := by
  obtain ⟨dropped, _⟩ | ⟨tail, udp, ip, withUdp, withTail, withIp, after, transformed⟩ :=
    transform_cases build running env ctx headers l3 generation admission session
  · rw [dropped] at passed
    cases passed
  obtain ⟨entry, found, valid, rfl⟩ := SessionValue.snapshot_cases established.taken
  obtain ⟨identity, looked, incarnation⟩ := established.identity
  have mutated := transformed.mutated
  rw [mutateSession, same, found] at mutated
  dsimp only [Option.map_some] at mutated
  split at mutated
  · cases mutated
  rename_i value result held
  obtain ⟨stillValid, authority⟩ := SessionValue.mutate_some held
  have before := (SessionValue.metadataValid_iff _ _).mp valid
  have now := (SessionValue.metadataValid_iff _ _).mp stillValid
  refine ⟨entry, env.racing entry, identity, looked, found, rfl, ⟨before.2.1, now.2.1⟩, ⟨before.1, now.1⟩,
    incarnation.symm, ?_⟩
  rw [incarnation]
  exact congrArg SessionAuthority.runtimeIncarnation authority

theorem managedTransformStatus_tcp (shape : managedTransformStatus l3 ipprotoTcp = .ok) :
    l3.family = .ipv4 ∧ l3.l3HeaderLen = iphdrSize ∧ l3.transportProtocol = ipprotoTcp ∧
      l3.l4HeaderLen = tcphdrSize := by
  rw [managedTransformStatus] at shape
  split at shape
  · cases shape
  rename_i fixed
  split at shape
  · rename_i known
    simp only [not_or, Decidable.not_not] at fixed
    rcases known with ⟨udp, _⟩ | ⟨_, sized⟩
    · cases udp
    · exact ⟨fixed.1, fixed.2.1, fixed.2.2, sized⟩
  · cases shape

theorem loadEnvelope_some (loaded : loadEnvelope build frame offset = some bytes) :
    bytes = frame.slice offset 40 := by
  rw [loadEnvelope] at loaded
  split at loaded
  · cases loaded
  split at loaded
  · cases loaded
  exact (Option.some.inj loaded).symm

/-- The program's exit, when the checkpoint sends a managed frame to the transform. -/
theorem transform_restores {port : UInt16} {policyListener : Option IngressListenerValue}
    (reached : ReachesTransform build maps kernel ctx headers l3 managed policyListener true generation
      admission session)
    (listener : maps.lookupIngressListener ctx.ingressIfindex port .ipv4 generation = policyListener)
    (entry : maps.xdpManagedPort ctx.ingressIfindex port generation = some managed)
    (same : running.sessions = kernel.sessions)
    (passed : (transformBranch build running env ctx headers l3 generation admission session).action = .pass) :
    Restored maps kernel env ctx generation l3 port managed
      (transformBranch build running env ctx headers l3 generation admission session).frame := by
  obtain ⟨wire, received, _, _, maximum⟩ := reached.received
  obtain ⟨l3Off, family, parsed⟩ := reached.parsed
  have flags := checkpoint_transform reached.classified
  obtain ⟨_, dropped | ⟨policy, profile, cipher, admitted, classified⟩⟩ :=
    checkpoint_cases build maps kernel ctx headers l3 managed policyListener true generation
  · rw [reached.classified] at dropped
    cases dropped
  rw [reached.classified] at classified
  obtain ⟨rfl, opened, enough, typed, established⟩ := classified
  obtain ⟨v4, fixedIp, tcp, fixedTcp⟩ := managedTransformStatus_tcp admitted.shape
  have unfragmented := parseIpv4_whole (parseL3_v4 parsed v4)
  have start := (parseL3_ipv4 parsed v4).start
  have headerBytes : headers = ⟨ctx.frame.slice l3.l3Off 40⟩ := congrArg Envelope.mk (loadEnvelope_some reached.loaded)
  have metadata := received.opened passed
  have bounds : maxIpv4TotalLen + headerDelta = 2316 := rfl
  obtain ⟨sum, check, _, _, _, packet, _⟩ := received.decoded running env generation session metadata (by omega)
  obtain ⟨word, kind, loaded, decodes⟩ := typeWord_decodes typed
  obtain ⟨atAdmission, atMutation, identity, stays⟩ := transform_established passed same established
  have wordEq := received.restored_word (Bytes.length_leBytes 2 (foldCsum sum))
    (Bytes.length_leBytes 2 check) loaded
  refine ⟨⟨v4, ?_, fixedIp, tcp, fixedTcp, ?_⟩, policy, profile, cipher, wire, kind, atAdmission, atMutation,
    identity, ⟨entry, listener.trans admitted.listener, admitted.coherent, admitted.profile,
      cipherFor_data admitted.cipher opened ?_⟩, ?_, ⟨⟨received.frame, received.start.symm⟩, _, _, ?_, ?_, packet⟩, ?_⟩
  · rw [start]
    exact ⟨unfragmented.1, unfragmented.2.1⟩
  · have flagByte : headers.flags = ctx.frame.byteAt (l3.l4Off + 13) := by
      rw [Envelope.flags, headerBytes, Bytes.byteAt_slice (by omega), admitted.adjacent]
      rfl
    rw [← flagByte]
    exact flags
  · have delta : headerDelta = 12 := rfl
    omega
  · rw [← headerBytes]
    exact stays
  · exact Bytes.length_leBytes _ _
  · exact Bytes.length_leBytes _ _
  · simp only [restoredWord]
    rw [packet, ← wordEq, ← received.payload]
    exact decodes

/-- From a managed port on, only a completed transform passes. -/
theorem managedBody_pass {port : UInt16}
    (parsed : parseL3 ctx.frame ctx.frame.length l3Off family = (.ok, l3))
    (entry : maps.xdpManagedPort ctx.ingressIfindex port generation = some managed)
    (passed : (managedBody build maps kernel env ctx generation true l3 port managed).action = .pass) :
    Restored maps kernel env ctx generation l3 port managed
      (managedBody build maps kernel env ctx generation true l3 port managed).frame := by
  generalize computed : managedBody build maps kernel env ctx generation true l3 port managed = outcome at passed ⊢
  simp only [managedBody] at computed
  have refused {stat : Stat} (dropped : (⟨.drop, kernel.incStat stat, ctx.frame, none⟩ : Outcome) = outcome) :
      False := by
    rw [← dropped] at passed
    cases passed
  split at computed
  · exact (refused computed).elim
  split at computed
  · exact (refused computed).elim
  split at computed
  · exact (refused computed).elim
  split at computed
  · exact (refused computed).elim
  rename_i bytes loaded
  let policyListener := maps.lookupIngressListener ctx.ingressIfindex port .ipv4 generation
  obtain ⟨moved, _⟩ := checkpoint_cases build maps kernel ctx ⟨bytes⟩ l3 managed policyListener true generation
  cases classified : (admissionCheckpoint build maps kernel ctx ⟨bytes⟩ l3 managed policyListener true
      generation).2 with
  | transform admission session =>
    rw [classified, decide] at computed
    rw [← computed] at passed ⊢
    exact transform_restores ⟨⟨l3Off, family, parsed⟩, loaded, classified⟩ rfl entry moved.sessions passed
  | drop | control _ | close _ _ | keepalive _ _ =>
    rw [classified, decide] at computed
    rw [← computed] at passed
    cases passed

/-- The parser verdicts that let a frame of a managed interface through. -/
theorem l3Action_pass (decided : l3Action status true = some (.pass, stat)) : status = .safeBypass := by
  rw [l3Action] at decided
  split at decided
  · cases decided
  split at decided
  · rename_i bypass
    exact bypass.resolve_right Bool.noConfusion
  split at decided <;> cases decided

theorem l3Action_none (decided : l3Action status true = none) : status = .ok := by
  rw [l3Action] at decided
  split at decided
  · assumption
  split at decided
  · cases decided
  split at decided <;> cases decided

/-- Why a frame of a managed interface may pass, by the parsers' results. -/
def PassReason (maps : PolicyMaps) (kernel : Kernel) (env : Env) (ctx : Context) (generation : UInt64)
    (after : Bytes) : Prop :=
  let started := l3Start ctx.frame (maps.lookupParserMode ctx.ingressIfindex generation)
  let parsed := parseL3 ctx.frame ctx.frame.length started.2.1 started.2.2
  let port := UInt16.ofNat (ctx.frame.be16 (parsed.2.l4Off + 2))
  (started.1 = .safeBypass ∨ (started.1 = .ok ∧ parsed.1 = .safeBypass)) ∨
    (started.1 = .ok ∧ parsed.1 = .ok ∧
      (parsed.2.transportProtocol = ipprotoTcp ∨ parsed.2.transportProtocol = ipprotoUdp) ∧
      maps.xdpManagedPort ctx.ingressIfindex port generation = none) ∨
    (started.1 = .ok ∧ parsed.1 = .ok ∧
      ∃ managed, Restored maps kernel env ctx generation parsed.2 port managed after)

theorem ingressBody_pass (latched : maps.xdpManagedInterface ctx.ingressIfindex generation = true)
    (passed : (ingressBody build maps kernel env ctx generation).action = .pass) :
    PassReason maps kernel env ctx generation (ingressBody build maps kernel env ctx generation).frame := by
  generalize computed : ingressBody build maps kernel env ctx generation = outcome at passed ⊢
  simp only [ingressBody, latched] at computed
  simp only [PassReason]
  generalize l3Start ctx.frame (maps.lookupParserMode ctx.ingressIfindex generation) = started at computed ⊢
  split at computed
  · rw [← computed] at passed
    cases passed
  split at computed
  · rename_i verdict decided
    rw [← computed, l3Verdict] at passed
    obtain ⟨action, stat⟩ := verdict
    cases passed
    exact .inl (.inl (l3Action_pass decided))
  rename_i linked
  have startedOk := l3Action_none linked
  generalize parsedEq : parseL3 ctx.frame ctx.frame.length started.2.1 started.2.2 = parsed at computed ⊢
  split at computed
  · rename_i verdict decided
    rw [← computed, l3Verdict] at passed
    obtain ⟨action, stat⟩ := verdict
    cases passed
    exact .inl (.inr ⟨startedOk, l3Action_pass decided⟩)
  rename_i accepted
  have parsedOk := l3Action_none accepted
  have described : parseL3 ctx.frame ctx.frame.length started.2.1 started.2.2 = (.ok, parsed.2) :=
    parsedEq.trans (Prod.ext parsedOk rfl)
  split at computed
  · rw [if_pos trivial] at computed
    rw [← computed] at passed
    cases passed
  split at computed
  · rename_i unmanaged
    exact .inr (.inl ⟨startedOk, parsedOk, parseL3_transport described, unmanaged⟩)
  · rename_i managed entry
    rw [← computed] at passed ⊢
    exact .inr (.inr ⟨startedOk, parsedOk, managed, managedBody_pass described entry passed⟩)

/-- The reason names the session table and no other part of the kernel. -/
theorem PassReason.congr (same : running.sessions = kernel.sessions)
    (reason : PassReason maps running env ctx generation after) :
    PassReason maps kernel env ctx generation after := by
  rcases reason with bypass | unmanaged | ⟨started, parsed, managed, plain, policy, profile, cipher, wire, kind,
    atAdmission, atMutation, identity, served, stays, rewritten, decodes⟩
  · exact .inl bypass
  · exact .inr (.inl unmanaged)
  · have kept := stays.found
    rw [same] at kept
    exact .inr (.inr ⟨started, parsed, managed, plain, policy, profile, cipher, wire, kind, atAdmission, atMutation,
      identity, served, { stays with found := kept }, rewritten, decodes⟩)

/-- On a managed interface a frame passes for one of three reasons. Only the last
concerns a managed port, and it leaves no room for fragments, IPv6, header options,
native UDP or control segments. -/
theorem fakeTcpIngress_fail_closed (build : Build) (maps : PolicyMaps) (kernel : Kernel) (env : Env)
    (ctx : Context) (generation : UInt64) (active : maps.activeGeneration = some generation)
    (latched : maps.xdpManagedInterface ctx.ingressIfindex generation = true)
    (passed : (fakeTcpIngress build maps kernel env ctx).action = .pass) :
    PassReason maps kernel env ctx generation (fakeTcpIngress build maps kernel env ctx).frame := by
  rw [fakeTcpIngress, active] at passed ⊢
  dsimp only at passed ⊢
  split at passed
  · rename_i entered
    rw [if_pos entered]
    exact (ingressBody_pass latched passed).congr (kernel.generationEnter_sessions generation)
  · cases passed

/-- The sample session, with the gate of its generation open. -/
def openKernel : Kernel := { sampleKernel with gate := some ⟨7, GenerationGate.openBit⟩ }

/-- The frame of a data segment of that session after the program. -/
def samplePassed (build : Build) : Outcome :=
  fakeTcpIngress build sampleMaps openKernel { now := 1000 } (sampleContext [0xb2, 0x29])

/-- The segment passes both builds, and so it was restored. -/
theorem sample_segment_passes :
    ((samplePassed .default).action = .pass ∧ (samplePassed .legacy515).action = .pass) ∧
      PassReason sampleMaps openKernel { now := 1000 } (sampleContext [0xb2, 0x29]) 7 (samplePassed .default).frame ∧
      PassReason sampleMaps openKernel { now := 1000 } (sampleContext [0xb2, 0x29]) 7
        (samplePassed .legacy515).frame := by
  have passed : (samplePassed .default).action = .pass ∧ (samplePassed .legacy515).action = .pass := by
    decide +kernel
  exact ⟨passed, fakeTcpIngress_fail_closed _ _ _ _ _ 7 (by decide +kernel) (by decide +kernel) passed.1,
    fakeTcpIngress_fail_closed _ _ _ _ _ 7 (by decide +kernel) (by decide +kernel) passed.2⟩

end Xdp
end WgMix.Bpf
