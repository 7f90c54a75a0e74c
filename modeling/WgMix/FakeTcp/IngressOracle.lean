import WgMix.Bpf.FailClosed
import WgMix.FakeTcp.L3Agreement
import WgMix.FakeTcp.IngressPolicy

/-! The ingress body up to the admission checkpoint, beside the userspace oracle for it. The
oracle takes the address family from the version nibble and the program takes it from the
EtherType; they agree on every frame but those whose two families differ and whose packet
the oracle's parser lets through. -/
namespace WgMix.Bpf.Xdp
open L3

/-- The ingress body has returned, or it calls the admission checkpoint. -/
inductive Stage where
  | returned (outcome : Outcome)
  | checkpoint (headers : Envelope) (l3 : L3Info) (destinationPort : UInt16) (managed : ManagedPortValue)

/-- From the managed-port match on. -/
def managedStage (build : Build) (kernel : Kernel) (ctx : Context) (l3 : L3Info) (destinationPort : UInt16)
    (managed : ManagedPortValue) : Stage :=
  if managedTransformStatus l3 l3.transportProtocol ≠ .ok then
    .returned ⟨.drop, kernel.incStat .admissionBypassReject, ctx.frame, none⟩
  else if l3.transportProtocol = ipprotoUdp then
    .returned ⟨.drop, kernel.incStat .admissionBypassReject, ctx.frame, none⟩
  else if l3.l4Off < l3.l3Off ∨ l3.l4Off - l3.l3Off ≠ iphdrSize then
    .returned ⟨.drop, kernel.incStat .badPacket, ctx.frame, none⟩
  else
    match loadEnvelope build ctx.frame l3.l3Off with
    | none => .returned ⟨.drop, kernel.incStat .badPacket, ctx.frame, none⟩
    | some bytes => .checkpoint ⟨bytes⟩ l3 destinationPort managed

/-- From the result of `faketcp_parse_l3` on. -/
def afterParse (build : Build) (maps : PolicyMaps) (kernel : Kernel) (ctx : Context) (generation : UInt64)
    (parsed : L3Status × L3Info) : Stage :=
  let managedInterface := maps.xdpManagedInterface ctx.ingressIfindex generation
  match l3Action parsed.1 managedInterface with
  | some verdict => .returned (l3Verdict kernel ctx.frame verdict)
  | none =>
    let l3 := parsed.2
    if l3.l4Off + udphdrSize > ctx.frame.length then
      if managedInterface then .returned ⟨.drop, kernel.incStat .badPacket, ctx.frame, none⟩
      else .returned ⟨.pass, kernel, ctx.frame, none⟩
    else
      let destinationPort := UInt16.ofNat (ctx.frame.be16 (l3.l4Off + 2))
      match maps.xdpManagedPort ctx.ingressIfindex destinationPort generation with
      | none => .returned ⟨.pass, kernel, ctx.frame, none⟩
      | some managed => managedStage build kernel ctx l3 destinationPort managed

def beforeCheckpoint (build : Build) (maps : PolicyMaps) (kernel : Kernel) (ctx : Context)
    (generation : UInt64) : Stage :=
  let started := l3Start ctx.frame (maps.lookupParserMode ctx.ingressIfindex generation)
  match l3Action started.1 (maps.xdpManagedInterface ctx.ingressIfindex generation) with
  | some verdict => .returned (l3Verdict kernel ctx.frame verdict)
  | none => afterParse build maps kernel ctx generation
      (parseL3 ctx.frame ctx.frame.length started.2.1 started.2.2)

/-- The checkpoint and what follows it. -/
def Stage.resume (build : Build) (maps : PolicyMaps) (kernel : Kernel) (env : Env) (ctx : Context)
    (generation : UInt64) : Stage → Outcome
  | .returned outcome => outcome
  | .checkpoint headers l3 destinationPort managed =>
    let policyListener := maps.lookupIngressListener ctx.ingressIfindex destinationPort .ipv4 generation
    let checked := admissionCheckpoint build maps kernel ctx headers l3 managed policyListener
      (maps.xdpManagedInterface ctx.ingressIfindex generation) generation
    decide build maps checked.1 env ctx headers l3 managed generation checked.2

theorem ingressBody_stages (build : Build) (maps : PolicyMaps) (kernel : Kernel) (ctx : Context)
    (generation : UInt64) (scratch : env.scratch = true) :
    ingressBody build maps kernel env ctx generation =
      (beforeCheckpoint build maps kernel ctx generation).resume build maps kernel env ctx generation := by
  rw [ingressBody, if_neg (by rw [scratch]; decide), beforeCheckpoint]
  dsimp only
  generalize l3Start ctx.frame (maps.lookupParserMode ctx.ingressIfindex generation) = started
  cases l3Action started.1 (maps.xdpManagedInterface ctx.ingressIfindex generation) with
  | some verdict => rfl
  | none =>
    dsimp only
    rw [afterParse]
    generalize parseL3 ctx.frame ctx.frame.length started.2.1 started.2.2 = parsed
    cases l3Action parsed.1 (maps.xdpManagedInterface ctx.ingressIfindex generation) with
    | some verdict => rfl
    | none =>
      dsimp only
      split
      · split <;> rfl
      generalize UInt16.ofNat (ctx.frame.be16 (parsed.2.l4Off + 2)) = port
      cases maps.xdpManagedPort ctx.ingressIfindex port generation with
      | none => rfl
      | some managed =>
        dsimp only
        rw [managedBody, managedStage]
        split
        · rfl
        split
        · rfl
        split
        · rfl
        cases loadEnvelope build ctx.frame parsed.2.l3Off <;> rfl

end WgMix.Bpf.Xdp

namespace WgMix.FakeTcp.IngressPolicy
open L3Parser
open Bpf (PolicyMaps Kernel Build Env Family L3Status isVlan skipVlan ethhdrSize)
open Bpf.Xdp (Context Stage beforeCheckpoint afterParse managedStage l3Action)

/-- One attachment's view of the policy maps. -/
def policyOf (maps : PolicyMaps) (ifindex : UInt32) (generation : UInt64) : ManagedIngressPolicy where
  interfaceManaged := maps.xdpManagedInterface ifindex generation
  ports port := (maps.xdpManagedPort ifindex port generation).isSome

/-- What the oracle has to answer for a program that stands here. -/
def expected : Stage → IngressDisposition
  | .returned outcome =>
    match outcome.action with
    | .drop => .drop
    | .pass => .pass
  | .checkpoint .. => .decodeIpv4

structure OracleAgrees (answer : Option IngressDisposition) (stage : Stage) : Prop where
  drop : answer = some .drop ↔ ∃ outcome, stage = .returned outcome ∧ outcome.action = .drop
  decode : answer = some .decodeIpv4 ↔ ∃ headers l3 port managed, stage = .checkpoint headers l3 port managed
  pass : answer = some .pass ↔ ∃ outcome, stage = .returned outcome ∧ outcome.action = .pass

theorem oracleAgrees_iff (answer : Option IngressDisposition) (stage : Stage) :
    OracleAgrees answer stage ↔ answer = some (expected stage) := by
  constructor
  · intro agrees
    cases stage with
    | checkpoint headers l3 port managed => exact agrees.decode.mpr ⟨headers, l3, port, managed, rfl⟩
    | returned outcome =>
      rw [expected]
      split
      · exact agrees.drop.mpr ⟨outcome, rfl, ‹_›⟩
      · exact agrees.pass.mpr ⟨outcome, rfl, ‹_›⟩
  · rintro rfl
    cases stage with
    | checkpoint headers l3 port managed =>
      refine ⟨⟨nofun, nofun⟩, ⟨fun _ => ⟨headers, l3, port, managed, rfl⟩, fun _ => rfl⟩, ⟨nofun, nofun⟩⟩
    | returned outcome =>
      rw [expected]
      cases acted : outcome.action with
      | drop =>
        refine ⟨⟨fun _ => ⟨outcome, rfl, acted⟩, fun _ => rfl⟩, ⟨nofun, nofun⟩, ⟨nofun, ?_⟩⟩
        rintro ⟨other, same, passed⟩
        cases same
        rw [acted] at passed
        cases passed
      | pass =>
        refine ⟨⟨nofun, ?_⟩, ⟨nofun, nofun⟩, ⟨fun _ => ⟨outcome, rfl, acted⟩, fun _ => rfl⟩⟩
        rintro ⟨other, same, dropped⟩
        cases same
        rw [acted] at dropped
        cases dropped

/-- The link header and its tags: where the L3 packet starts, and its EtherType. -/
def linkEnd (frame : Bytes) : Option (Nat × Nat) :=
  if frame.length < ethernetHeaderLength then none
  else ((frame.read16 12).bind (skipTags frame 2 ethernetHeaderLength)).join

/-- One family in the EtherType and the other one in the version nibble. -/
def familiesCross (etherType version : Nat) : Bool :=
  (etherType = etherTypeIpv4 ∧ version = l3FamilyIpv6) ∨ (etherType = etherTypeIpv6 ∧ version = l3FamilyIpv4)

/-- A packet without ports, to an unmanaged port, or of the one shape that is decoded. -/
def letsThrough (policy : ManagedIngressPolicy) (l3 : Bytes) : Bool :=
  match parseL3 l3 with
  | none => false
  | some ((info, status), _) => status = .safeBypass ∨ (status = .ok ∧
      (policy.ports (UInt16.ofNat (l3.be16 (info.l4Offset + 2))) = false ∨
        managedFakeTcpTransformStatus info l3ProtocolTcp = .ok))

/-- On a managed interface, the frames on which the oracle's family decides otherwise. -/
def crossedAndLetThrough (policy : ManagedIngressPolicy) (frame : Bytes) : Bool :=
  match linkEnd frame with
  | none => false
  | some (offset, etherType) => policy.interfaceManaged ∧
      familiesCross etherType ((frame.byteAt offset).toNat / 16) ∧ letsThrough policy (frame.drop offset)

theorem isVlan_iff (etherType : Nat) :
    isVlan etherType = true ↔ etherType = etherTypeVlan ∨ etherType = etherTypeQinQ := decide_eq_true_iff

theorem skipTags_skips (frame : Bytes) (remaining offset etherType : Nat) :
    Yields Eq (skipTags frame remaining offset etherType) (skipVlan frame remaining offset etherType) := by
  induction remaining generalizing offset etherType with
  | zero => exact .done rfl
  | succ remaining ih =>
    refine .ite ?_ (fun _ => .done rfl) fun _ => .ite .rfl (fun _ => .done rfl) fun long => ?_
    · rw [← isVlan_iff, Bool.not_eq_true]
    · simp only [vlanHeaderLength, Nat.not_lt] at long
      rw [Bytes.read16_bind (by omega)]
      exact ih ..

theorem skipVlan_reaches (skipped : skipVlan frame remaining offset etherType = some (reached, last))
    (inside : offset ≤ frame.length) : reached ≤ frame.length ∧ ∃ tags ≤ remaining, reached = offset + tags * 4 := by
  induction remaining generalizing offset etherType with
  | zero =>
    cases skipped
    exact ⟨inside, 0, Nat.zero_le _, rfl⟩
  | succ remaining ih =>
    rw [skipVlan] at skipped
    split at skipped
    · cases skipped
      exact ⟨inside, 0, Nat.zero_le _, rfl⟩
    split at skipped
    · cases skipped
    · rename_i long
      simp only [Bpf.vlanSize, Nat.not_lt] at long
      obtain ⟨within, tags, few, rfl⟩ := ih skipped long
      exact ⟨within, tags + 1, Nat.succ_le_succ few, by rw [Bpf.vlanSize]; omega⟩

theorem transformStatus_same (shift : Nat) (info : L3Info) (transport : UInt8) :
    Bpf.L3.managedTransformStatus (shifted shift info) transport =
      statusOf (managedFakeTcpTransformStatus info transport) := by
  have family : familyOf info.family = .ipv4 ↔ info.family = l3FamilyIpv4 := by
    rw [familyOf]
    split
    · exact ⟨fun _ => ‹_›, fun _ => rfl⟩
    · split <;> exact ⟨fun same => (by cases same), fun same => absurd same ‹_›⟩
  rw [managedFakeTcpTransformStatus, apply_ite statusOf, apply_ite statusOf]
  exact if_congr (or_congr (not_congr family) .rfl) rfl rfl

/-- What both do with a rejected packet. -/
def rejection (status : L3ParseStatus) (managed : Bool) : IngressDisposition :=
  if status = .safeBypass then .pass else if managed then .drop else .pass

theorem disposition_rejected (l3 : Bytes) (info : L3Info) (policy : ManagedIngressPolicy) (rejected : status ≠ .ok) :
    managedFakeTcpDisposition l3 info status policy = some (rejection status policy.interfaceManaged) := by
  rw [managedFakeTcpDisposition, if_pos rejected, rejection, apply_ite some, apply_ite some, apply_ite some]

theorem l3Action_rejected (rejected : status ≠ .ok) (managed : Bool) :
    ∃ verdict, l3Action (statusOf status) managed = some verdict ∧
      ∀ kernel frame, expected (.returned (Bpf.Xdp.l3Verdict kernel frame verdict)) = rejection status managed := by
  cases managed <;> cases status <;> first
    | contradiction
    | exact ⟨_, rfl, fun _ _ => rfl⟩

section
variable {build : Build} {maps : PolicyMaps} {kernel : Kernel} {ctx : Context} {generation : UInt64}

/-- The shape the transform supports, as the userspace parser describes it. -/
theorem transformStatus_tcp (shape : managedFakeTcpTransformStatus info info.transportProtocol = .ok)
    (tcp : info.transportProtocol ≠ l3ProtocolUdp) :
    info.family = l3FamilyIpv4 ∧ info.l3HeaderLength = 20 ∧ info.transportProtocol = l3ProtocolTcp ∧
      info.l4HeaderLength = 20 := by
  rw [managedFakeTcpTransformStatus] at shape
  split at shape
  · cases shape
  rename_i fixed
  simp only [not_or, Decidable.not_not] at fixed
  split at shape
  · rename_i known
    exact ⟨fixed.1, fixed.2.1, known.resolve_left fun udp => tcp udp.1⟩
  · cases shape

theorem transformStatus_tcp_iff (info : L3Info) : managedFakeTcpTransformStatus info l3ProtocolTcp = .ok ↔
    managedFakeTcpTransformStatus info info.transportProtocol = .ok ∧ info.transportProtocol ≠ l3ProtocolUdp := by
  constructor
  · intro shape
    have protocol : info.transportProtocol = l3ProtocolTcp := by
      rw [managedFakeTcpTransformStatus] at shape
      split at shape
      · cases shape
      · rename_i fixed
        simp only [not_or, Decidable.not_not] at fixed
        exact fixed.2.2
    rw [protocol]
    exact ⟨shape, by decide⟩
  · rintro ⟨shape, tcp⟩
    rwa [(transformStatus_tcp shape tcp).2.2.1] at shape

theorem managedStage_expected (kernel : Kernel) (port : UInt16) (managed : Bpf.ManagedPortValue)
    (parsed : Bpf.L3.parseL3 ctx.frame ctx.frame.length offset family = (.ok, shifted offset info))
    (ends : offset + info.l4Offset + info.l4HeaderLength ≤ ctx.frame.length)
    (place : ∃ tags ≤ 2, offset = ethernetHeaderLength + tags * 4) :
    expected (managedStage build kernel ctx (shifted offset info) port managed) =
      if managedFakeTcpTransformStatus info info.transportProtocol ≠ .ok then .drop
      else if info.transportProtocol = l3ProtocolUdp then .drop else .decodeIpv4 := by
  have protocol : (shifted offset info).transportProtocol = info.transportProtocol := rfl
  rw [managedStage, protocol, transformStatus_same]
  by_cases shape : managedFakeTcpTransformStatus info info.transportProtocol ≠ .ok
  · rw [if_pos shape, if_pos]
    · rfl
    · revert shape
      cases managedFakeTcpTransformStatus info info.transportProtocol <;> decide
  rw [if_neg shape]
  rw [Decidable.not_not] at shape
  rw [shape, if_neg (by decide)]
  by_cases udp : info.transportProtocol = l3ProtocolUdp
  · rw [if_pos udp, if_pos (show info.transportProtocol = Bpf.L3.ipprotoUdp from udp)]
    rfl
  rw [if_neg udp, if_neg (show ¬info.transportProtocol = Bpf.L3.ipprotoUdp from udp)]
  obtain ⟨v4, fixedIp, _, fixedTcp⟩ := transformStatus_tcp shape udp
  have accepted := Bpf.L3.parseL3_ipv4 parsed (by rw [shifted, v4]; rfl)
  have start : (shifted offset info).l3Off = offset := accepted.start
  have transport : offset + info.l4Offset = offset + info.l3HeaderLength := accepted.transport
  have begins : (shifted offset info).l4Off = offset + info.l4Offset := rfl
  obtain ⟨tags, few, link⟩ := place
  have loaded : Bpf.Xdp.loadEnvelope build ctx.frame offset = some (ctx.frame.slice offset 40) := by
    simp only [ethernetHeaderLength] at link
    rw [Bpf.Xdp.loadEnvelope, if_neg, if_neg]
    · rfl
    · simp only [Bpf.L3.iphdrSize, Bpf.L3.tcphdrSize]
      omega
    · simp only [ethhdrSize, Bpf.vlanSize]
      omega
  rw [start, begins, if_neg, loaded]
  · rfl
  · rw [Bpf.L3.iphdrSize]
    omega

theorem afterParse_rejected (kernel : Kernel) (rejected : status ≠ .ok) (same : parsed.1 = statusOf status) :
    expected (afterParse build maps kernel ctx generation parsed) =
      rejection status (maps.xdpManagedInterface ctx.ingressIfindex generation) := by
  obtain ⟨verdict, decided, answer⟩ :=
    l3Action_rejected rejected (maps.xdpManagedInterface ctx.ingressIfindex generation)
  rw [afterParse, same, decided]
  exact answer ..

/-- A frame whose EtherType names the family of its version nibble. -/
theorem afterParse_expected (kernel : Kernel) (split : ctx.frame = lead ++ packet)
    (parsed : Bpf.L3.parseL3 ctx.frame ctx.frame.length lead.length family = theirs)
    (agree : Agree packet lead.length (info, status) theirs)
    (place : ∃ tags ≤ 2, lead.length = ethernetHeaderLength + tags * 4) :
    managedFakeTcpDisposition packet info status (policyOf maps ctx.ingressIfindex generation) =
      some (expected (afterParse build maps kernel ctx generation theirs)) := by
  obtain ⟨same, accepted⟩ := agree
  by_cases rejected : status ≠ .ok
  · rw [disposition_rejected _ _ _ rejected, afterParse_rejected kernel rejected same.symm]
    rfl
  rw [Decidable.not_not] at rejected
  subst rejected
  obtain ⟨described, within⟩ := accepted rfl
  obtain ⟨result, descriptor⟩ := theirs
  dsimp only at same described
  subst same described
  have l4 : info.l4Offset + info.l4Length ≤ packet.length := within.l4
  have header : 8 ≤ info.l4HeaderLength ∧ info.l4HeaderLength ≤ info.l4Length := within.header
  have whole : ctx.frame.length = lead.length + packet.length := by rw [split, List.length_append]
  have begins : (shifted lead.length info).l4Off = lead.length + info.l4Offset := rfl
  have port : ctx.frame.be16 (lead.length + info.l4Offset + 2) = packet.be16 (info.l4Offset + 2) := by
    rw [split, Nat.add_assoc, be16_lead]
  have ports : ¬lead.length + info.l4Offset + Bpf.L3.udphdrSize > ctx.frame.length := by
    rw [Bpf.L3.udphdrSize]
    omega
  have continues : l3Action (statusOf .ok) (maps.xdpManagedInterface ctx.ingressIfindex generation) = none := rfl
  rw [managedFakeTcpDisposition, if_neg (by decide), if_neg (by decide), if_neg (by omega),
    Bytes.read16_bind (by omega), afterParse, continues]
  dsimp only
  rw [begins, if_neg ports, port]
  generalize UInt16.ofNat (packet.be16 (info.l4Offset + 2)) = destination
  have listed : managedIngressPort (policyOf maps ctx.ingressIfindex generation) destination =
    (maps.xdpManagedPort ctx.ingressIfindex destination generation).isSome := rfl
  cases entry : maps.xdpManagedPort ctx.ingressIfindex destination generation with
  | none =>
    rw [if_pos (by rw [listed, entry]; rfl)]
    rfl
  | some managed =>
    rw [if_neg (by rw [listed, entry, Option.isSome_some]; decide)]
    dsimp only
    rw [managedStage_expected kernel destination managed parsed (by omega) place, apply_ite some, apply_ite some]

/-- The datapath rejects a packet whose nibble does not match its family. -/
theorem parseL3_misversioned (frame : Bytes) (offset : Nat) (known : family = .ipv4 ∨ family = .ipv6)
    (other : familyOf ((frame.byteAt offset).toNat / 16) ≠ family) :
    ∃ status, status ≠ .ok ∧ status ≠ .safeBypass ∧
      (Bpf.L3.parseL3 frame frame.length offset family).1 = statusOf status := by
  rcases known with rfl | rfl
  · have version : (frame.byteAt offset).toNat / 16 ≠ 4 := fun same => other (by rw [same]; rfl)
    rw [Bpf.L3.parseL3, Bpf.L3.parseIpv4]
    split
    · exact ⟨.truncated, by decide, by decide, rfl⟩
    split
    · exact ⟨.truncated, by decide, by decide, rfl⟩
    · exact ⟨.malformed, by decide, by decide, rfl⟩
  · have version : (frame.byteAt offset).toNat / 16 ≠ 6 := fun same => other (by rw [same]; rfl)
    rw [Bpf.L3.parseL3, Bpf.L3.parseIpv6]
    split
    · exact ⟨.truncated, by decide, by decide, rfl⟩
    split
    · exact ⟨.truncated, by decide, by decide, rfl⟩
    · exact ⟨.malformed, by decide, by decide, rfl⟩

/-- A described packet of a managed interface is dropped unless it is let through. -/
theorem disposition_managed {policy : ManagedIngressPolicy} (managed : policy.interfaceManaged = true)
    (parsed : parseL3 l3 = some ((info, status), headers)) (described : status = .ok → Within l3 info) :
    managedFakeTcpDisposition l3 info status policy = some .drop ↔ letsThrough policy l3 = false := by
  rw [letsThrough, parsed, decide_eq_false_iff_not]
  by_cases rejected : status ≠ .ok
  · rw [disposition_rejected _ _ _ rejected, managed, rejection]
    by_cases bypass : status = .safeBypass
    · rw [if_pos bypass]
      exact ⟨nofun, fun held => absurd (.inl bypass) held⟩
    · rw [if_neg bypass]
      exact ⟨fun _ held => held.elim bypass fun accepted => rejected accepted.1, fun _ => rfl⟩
  rw [Decidable.not_not] at rejected
  subst rejected
  have l4 := (described rfl).l4
  have header := (described rfl).header
  rw [managedFakeTcpDisposition, if_neg (by decide), if_neg (by decide), if_neg (by omega),
    Bytes.read16_bind (by omega), managedIngressPort, transformStatus_tcp_iff]
  cases policy.ports (UInt16.ofNat (l3.be16 (info.l4Offset + 2))) with
  | false => exact ⟨nofun, fun held => absurd (.inr ⟨rfl, .inl rfl⟩) held⟩
  | true =>
    rw [if_neg (by decide)]
    by_cases shape : managedFakeTcpTransformStatus info info.transportProtocol ≠ .ok
    · rw [if_pos shape]
      refine ⟨fun _ held => ?_, fun _ => rfl⟩
      rcases held with bypass | ⟨_, unlisted | ⟨fixed, _⟩⟩
      · cases bypass
      · cases unlisted
      · exact shape fixed
    rw [if_neg shape]
    rw [Decidable.not_not] at shape
    by_cases udp : info.transportProtocol = l3ProtocolUdp
    · rw [if_pos udp]
      refine ⟨fun _ held => ?_, fun _ => rfl⟩
      rcases held with bypass | ⟨_, unlisted | ⟨_, tcp⟩⟩
      · cases bypass
      · cases unlisted
      · exact tcp udp
    · rw [if_neg udp]
      exact ⟨nofun, fun held => absurd (.inr ⟨rfl, .inr ⟨shape, udp⟩⟩) held⟩

theorem disposition_unmanaged {policy : ManagedIngressPolicy} (managed : policy.interfaceManaged = false)
    (ports : ∀ port, policy.ports port = false) (described : status = .ok → Within l3 info) :
    managedFakeTcpDisposition l3 info status policy = some .pass := by
  by_cases rejected : status ≠ .ok
  · rw [disposition_rejected _ _ _ rejected, managed, rejection]
    split <;> rfl
  rw [Decidable.not_not] at rejected
  have l4 := (described rejected).l4
  have header := (described rejected).header
  rw [managedFakeTcpDisposition, rejected, if_neg (by decide), if_neg (by decide), if_neg (by omega),
    Bytes.read16_bind (by omega), managedIngressPort, if_pos (ports _)]

theorem linkEnd_eq (long : ethernetHeaderLength ≤ frame.length) :
    linkEnd frame = skipVlan frame 2 ethhdrSize (frame.be16 12) := by
  obtain ⟨_, skipped, rfl⟩ := skipTags_skips frame 2 ethernetHeaderLength (frame.be16 12)
  rw [linkEnd, if_neg (Nat.not_lt.mpr long), Bytes.read16_bind (Nat.le_trans (by decide) long), skipped]
  rfl

theorem familyOf_known (version : Nat) : familyOf version = .ipv4 ∧ version = l3FamilyIpv4 ∨
    familyOf version = .ipv6 ∧ version = l3FamilyIpv6 ∨
    familyOf version = .unset ∧ version ≠ l3FamilyIpv4 ∧ version ≠ l3FamilyIpv6 := by
  rw [familyOf]
  split
  · exact .inl ⟨rfl, ‹_›⟩
  split
  · exact .inr (.inl ⟨rfl, ‹_›⟩)
  · exact .inr (.inr ⟨rfl, ‹_›, ‹_›⟩)

theorem familiesCross_iff (version : Nat)
    (named : (etherType = etherTypeIpv4 ∧ family = .ipv4) ∨ (etherType = etherTypeIpv6 ∧ family = .ipv6)) :
    familiesCross etherType version = true ↔
      familyOf version ≠ family ∧ (version = l3FamilyIpv4 ∨ version = l3FamilyIpv6) := by
  obtain ⟨known, rfl⟩ | ⟨known, rfl⟩ | ⟨known, notV4, notV6⟩ := familyOf_known version
  · rcases named with ⟨rfl, rfl⟩ | ⟨rfl, rfl⟩ <;> decide
  · rcases named with ⟨rfl, rfl⟩ | ⟨rfl, rfl⟩ <;> decide
  · rw [familiesCross, decide_eq_true_iff]
    exact iff_of_false (fun crossed => crossed.elim (notV6 ·.2) (notV4 ·.2)) fun crossed => crossed.2.elim notV4 notV6

theorem familiesCross_network (crossed : familiesCross etherType version = true) :
    etherType = etherTypeIpv4 ∨ etherType = etherTypeIpv6 :=
  (decide_eq_true_iff.mp crossed).imp (·.1) (·.1)

/-- Without a version the userspace parser knows, it rejects the packet as well. -/
theorem parseL3_unversioned (unset : packetFamily packet = .unset) :
    ∃ status, status ≠ .ok ∧ status ≠ .safeBypass ∧ parseL3 packet = some (({}, status), 0) := by
  obtain ⟨known, _⟩ | ⟨known, _⟩ | ⟨_, notV4, notV6⟩ := familyOf_known ((packet.byteAt 0).toNat / 16)
  · cases known.symm.trans unset
  · cases known.symm.trans unset
  rw [parseL3]
  by_cases empty : packet.length = 0
  · rw [if_pos empty]
    exact ⟨.truncated, by decide, by decide, rfl⟩
  · rw [if_neg empty, Bytes.read8_bind (Nat.pos_of_ne_zero empty), if_neg notV4, if_neg notV6]
    exact ⟨.malformed, by decide, by decide, rfl⟩

/-- The frames the parsers are called for. -/
theorem packet_agrees_iff (build : Build) (kernel : Kernel) (split : ctx.frame = lead ++ packet)
    (place : ∃ tags ≤ 2, lead.length = ethernetHeaderLength + tags * 4)
    (named : (etherType = etherTypeIpv4 ∧ family = .ipv4) ∨ (etherType = etherTypeIpv6 ∧ family = .ipv6))
    (managedOnly : ∀ port, (policyOf maps ctx.ingressIfindex generation).ports port = true →
      (policyOf maps ctx.ingressIfindex generation).interfaceManaged = true) :
    ((parseL3 packet).bind fun parsed => managedFakeTcpDisposition packet parsed.1.1 parsed.1.2
        (policyOf maps ctx.ingressIfindex generation)) =
      some (expected (afterParse build maps kernel ctx generation
        (Bpf.L3.parseL3 ctx.frame ctx.frame.length lead.length family))) ↔
    ¬((policyOf maps ctx.ingressIfindex generation).interfaceManaged = true ∧
      familiesCross etherType ((packet.byteAt 0).toNat / 16) = true ∧
      letsThrough (policyOf maps ctx.ingressIfindex generation) packet = true) := by
  have known : family = .ipv4 ∨ family = .ipv6 := named.imp (·.2) (·.2)
  rw [familiesCross_iff _ named]
  by_cases same : packetFamily packet = family
  · have version : (packet.byteAt 0).toNat / 16 = l3FamilyIpv4 ∨ (packet.byteAt 0).toNat / 16 = l3FamilyIpv6 := by
      obtain ⟨_, v4⟩ | ⟨_, v6⟩ | ⟨unset, _⟩ := familyOf_known ((packet.byteAt 0).toNat / 16)
      · exact .inl v4
      · exact .inr v6
      · rcases known with rfl | rfl <;> cases unset.symm.trans same
    obtain ⟨⟨⟨info, status⟩, headers⟩, parsed, agree, _⟩ := parseL3_agrees lead version
    rw [← split, same] at agree
    rw [parsed, Option.bind_some]
    exact iff_of_true (afterParse_expected kernel split rfl agree place) fun crossed => crossed.2.1.1 same
  have nibble : ctx.frame.byteAt lead.length = packet.byteAt 0 := by
    have first := byteAt_lead lead packet 0
    rwa [Nat.add_zero, ← split] at first
  obtain ⟨theirs, rejected, noBypass, theirStatus⟩ :=
    parseL3_misversioned ctx.frame lead.length known (by rw [nibble]; exact same)
  rw [afterParse_rejected kernel rejected theirStatus, rejection, if_neg noBypass]
  by_cases version : (packet.byteAt 0).toNat / 16 = l3FamilyIpv4 ∨ (packet.byteAt 0).toNat / 16 = l3FamilyIpv6
  · obtain ⟨⟨⟨info, status⟩, headers⟩, parsed, ⟨_, described⟩, _⟩ := parseL3_agrees lead version
    rw [parsed, Option.bind_some]
    have within : status = .ok → Within packet info := fun accepted => (described accepted).2
    cases managed : maps.xdpManagedInterface ctx.ingressIfindex generation with
    | false =>
      have unlisted (port : UInt16) : (policyOf maps ctx.ingressIfindex generation).ports port = false :=
        Bool.eq_false_iff.mpr fun listed => Bool.noConfusion (managed.symm.trans (managedOnly port listed))
      exact iff_of_true (disposition_unmanaged managed unlisted within)
        fun crossed => Bool.noConfusion (managed.symm.trans crossed.1)
    | true =>
      rw [if_pos rfl, disposition_managed managed parsed within, ← Bool.not_eq_true]
      exact not_congr ⟨fun through => ⟨managed, ⟨same, version⟩, through⟩, fun crossed => crossed.2.2⟩
  · obtain ⟨_, v4⟩ | ⟨_, v6⟩ | ⟨unset, _⟩ := familyOf_known ((packet.byteAt 0).toNat / 16)
    · exact absurd (.inl v4) version
    · exact absurd (.inr v6) version
    obtain ⟨status, refused, notBypass, parsed⟩ := parseL3_unversioned unset
    rw [parsed, Option.bind_some, disposition_rejected _ _ _ refused, rejection, if_neg notBypass]
    exact iff_of_true rfl fun crossed => version crossed.2.1.2

theorem start_rejected (kernel : Kernel) (ethernet : maps.lookupParserMode ctx.ingressIfindex generation = .ethernet)
    (status : L3ParseStatus) (started : Bpf.Xdp.l3Start ctx.frame .ethernet = (statusOf status, offset, family))
    (rejected : status ≠ .ok) :
    expected (beforeCheckpoint build maps kernel ctx generation) =
      rejection status (maps.xdpManagedInterface ctx.ingressIfindex generation) := by
  obtain ⟨verdict, decided, answer⟩ :=
    l3Action_rejected rejected (maps.xdpManagedInterface ctx.ingressIfindex generation)
  rw [beforeCheckpoint, ethernet, started, decided]
  exact answer ..

/-- The program's body is its part up to the checkpoint and the rest; up to there the oracle
answers what the program does unless the families of the frame's layers cross and the packet
is one the oracle lets through. -/
theorem ingressOracle_agrees_iff (build : Build) (maps : PolicyMaps) (kernel : Kernel) (env : Env) (ctx : Context)
    (generation : UInt64) (scratch : env.scratch = true)
    (ethernet : maps.lookupParserMode ctx.ingressIfindex generation = .ethernet)
    (managedOnly : ∀ port, (maps.xdpManagedPort ctx.ingressIfindex port generation).isSome = true →
      maps.xdpManagedInterface ctx.ingressIfindex generation = true) :
    Bpf.Xdp.ingressBody build maps kernel env ctx generation =
      (beforeCheckpoint build maps kernel ctx generation).resume build maps kernel env ctx generation ∧
    (OracleAgrees (classifyManagedIngressFrame ctx.frame (policyOf maps ctx.ingressIfindex generation))
        (beforeCheckpoint build maps kernel ctx generation) ↔
      crossedAndLetThrough (policyOf maps ctx.ingressIfindex generation) ctx.frame = false) := by
  refine ⟨Bpf.Xdp.ingressBody_stages build maps kernel ctx generation scratch, ?_⟩
  rw [oracleAgrees_iff, classifyManagedIngressFrame, crossedAndLetThrough]
  by_cases short : ctx.frame.length < ethernetHeaderLength
  · rw [if_pos short, linkEnd, if_pos short, disposition_rejected _ _ _ (by decide),
      start_rejected kernel ethernet .truncated (if_pos short) (by decide)]
    exact iff_of_true rfl rfl
  have long := Nat.not_lt.mp short
  have start : Bpf.Xdp.l3Start ctx.frame .ethernet = _ := if_neg short
  obtain ⟨_, skipped, rfl⟩ := skipTags_skips ctx.frame 2 ethernetHeaderLength (ctx.frame.be16 12)
  rw [if_neg short, linkEnd_eq long, Bytes.read16_bind (Nat.le_trans (by decide) long), skipped, Option.bind_some]
  cases found : skipVlan ctx.frame 2 ethhdrSize (ctx.frame.be16 12) with
  | none =>
    rw [found] at start
    rw [start_rejected kernel ethernet .truncated start (by decide),
      show skipVlan ctx.frame 2 ethernetHeaderLength (ctx.frame.be16 12) = none from found]
    exact iff_of_true (disposition_rejected _ _ _ (by decide)) rfl
  | some link =>
    obtain ⟨offset, etherType⟩ := link
    obtain ⟨inside, place⟩ := skipVlan_reaches found long
    rw [found] at start
    dsimp only at start
    rw [show skipVlan ctx.frame 2 ethernetHeaderLength (ctx.frame.be16 12) = some (offset, etherType) from found]
    dsimp only
    by_cases tagged : etherType = etherTypeVlan ∨ etherType = etherTypeQinQ
    · rw [if_pos ((isVlan_iff _).mpr tagged)] at start
      rw [if_pos tagged, start_rejected kernel ethernet .unsupported start (by decide)]
      refine iff_of_true (disposition_rejected _ _ _ (by decide)) (decide_eq_false fun crossed => ?_)
      have network := familiesCross_network crossed.2.1
      rcases tagged with rfl | rfl <;> exact absurd network (by decide)
    rw [if_neg fun vlan => tagged ((isVlan_iff _).mp vlan)] at start
    rw [if_neg tagged]
    by_cases network : etherType = etherTypeIpv4 ∨ etherType = etherTypeIpv6
    · rw [if_neg (by rwa [← not_or, not_not]), sliceFrom, if_pos inside, Option.bind_some]
      have split : ctx.frame = ctx.frame.take offset ++ ctx.frame.drop offset := (List.take_append_drop ..).symm
      have sized : (ctx.frame.take offset).length = offset := List.length_take_of_le inside
      have first : Bytes.byteAt (ctx.frame.drop offset) 0 = ctx.frame.byteAt offset := by
        simp only [Bytes.byteAt, List.getD_eq_getElem?_getD, List.getElem?_drop, Nat.add_zero]
      obtain ⟨family, named, started⟩ : ∃ family, ((etherType = etherTypeIpv4 ∧ family = .ipv4) ∨
          (etherType = etherTypeIpv6 ∧ family = .ipv6)) ∧
          Bpf.Xdp.l3Start ctx.frame .ethernet = (.ok, offset, family) := by
        rcases network with rfl | rfl
        · exact ⟨.ipv4, .inl ⟨rfl, rfl⟩, start⟩
        · exact ⟨.ipv6, .inr ⟨rfl, rfl⟩, start⟩
      have packets := packet_agrees_iff build kernel split (by rwa [sized]) named managedOnly
      rw [sized, first] at packets
      rw [beforeCheckpoint, ethernet, started]
      exact packets.trans decide_eq_false_iff_not.symm
    · rw [if_pos (not_or.mp network)]
      have other := not_or.mp network
      rw [if_neg (show ¬etherType = 0x0800 from other.1), if_neg (show ¬etherType = 0x86dd from other.2)] at start
      rw [start_rejected kernel ethernet .safeBypass start (by decide)]
      exact iff_of_true rfl (decide_eq_false fun crossed => network (familiesCross_network crossed.2.1))

end

/-- An ICMPv6 echo request under the EtherType of IPv4. -/
def crossedFrame : Bytes :=
  List.replicate 12 2 ++ [0x08, 0x00] ++ [0x60, 0, 0, 0, 0, 8, 58, 64] ++ List.replicate 32 0xfe ++
    [128, 0, 0, 0, 0, 1, 0, 1]

/-- Interface 2 is managed, with one managed port. -/
def sampleIngressMaps : PolicyMaps where
  underlays _ _ := some ⟨1, .ethernet⟩
  managedInterfaces _ ifindex := if ifindex = 2 then some 1 else none
  managedPorts key := if key.underlayIndex = 2 ∧ key.destinationPort = 51820 then some ⟨1, 7, .rewrite⟩ else none

theorem crossedFrame_disagrees :
    sampleIngressMaps.lookupParserMode 2 1 = .ethernet ∧
    (∀ port, (sampleIngressMaps.xdpManagedPort 2 port 1).isSome = true →
      sampleIngressMaps.xdpManagedInterface 2 1 = true) ∧
    classifyManagedIngressFrame crossedFrame (policyOf sampleIngressMaps 2 1) = some .pass ∧
    (Bpf.Xdp.ingressBody .default sampleIngressMaps {} { now := 0 } ⟨crossedFrame, 2⟩ 1).action = .drop ∧
    ¬OracleAgrees (classifyManagedIngressFrame crossedFrame (policyOf sampleIngressMaps 2 1))
      (beforeCheckpoint .default sampleIngressMaps {} ⟨crossedFrame, 2⟩ 1) := by
  refine ⟨by decide, fun _ _ => by decide, by decide +kernel, by decide +kernel, ?_⟩
  rw [oracleAgrees_iff]
  decide +kernel

/-- A TCP segment to the managed port. -/
def managedFrame : Bytes :=
  List.replicate 12 2 ++ [0x08, 0x00] ++ [0x45, 0, 0, 40, 0, 0, 0x40, 0, 64, 6, 0, 0, 10, 0, 0, 1, 10, 0, 0, 2] ++
    [0xca, 0x6c, 0xca, 0x6c] ++ List.replicate 8 0 ++ [0x50, 0x10] ++ List.replicate 6 0

theorem managedFrame_agrees :
    classifyManagedIngressFrame managedFrame (policyOf sampleIngressMaps 2 1) = some .decodeIpv4 ∧
    Bpf.Xdp.ingressBody .default sampleIngressMaps {} { now := 0 } ⟨managedFrame, 2⟩ 1 =
      (beforeCheckpoint .default sampleIngressMaps {} ⟨managedFrame, 2⟩ 1).resume .default sampleIngressMaps {}
        { now := 0 } ⟨managedFrame, 2⟩ 1 ∧
    (OracleAgrees (classifyManagedIngressFrame managedFrame (policyOf sampleIngressMaps 2 1))
        (beforeCheckpoint .default sampleIngressMaps {} ⟨managedFrame, 2⟩ 1) ↔
      crossedAndLetThrough (policyOf sampleIngressMaps 2 1) managedFrame = false) :=
  ⟨by decide +kernel, ingressOracle_agrees_iff .default sampleIngressMaps {} { now := 0 } ⟨managedFrame, 2⟩ 1 rfl
    (by decide) fun _ _ => by decide⟩

end WgMix.FakeTcp.IngressPolicy
