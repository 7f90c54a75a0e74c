import WgMix.Abi.Snapshot
import WgMix.Bpf.IngressSpec
import WgMix.Control.Profile
import WgMix.Control.Rules
import WgMix.Foundation.Runs

/-! The Echo exchange of a server: a request that ingress accepts, what happens to its
sequence until WireGuard answers, and the reply that egress emits. -/
namespace WgMix.Bpf.IcmpEcho
open L3

/-- Between a request and its reply further packets arrive and the LRU map evicts entries. -/
inductive SeqEvent where
  | arrival (checks : Option AdmissionChecks) (helpers : IngressHelpers) (maps : PolicyMaps) (skb : Skb)
  | eviction (key : IcmpSeqKey)

def seqStep (seqMap : IcmpSeqMap) : SeqEvent → IcmpSeqMap
  | .arrival checks helpers maps skb =>
    (Inbound.wgMixIngress checks helpers maps { skb, icmpSeq := seqMap }).1.icmpSeq
  | .eviction key => fun other => if other = key then none else seqMap other

/-- No other request from the same sender under the same identifier, and no eviction. -/
def Spares (key : IcmpSeqKey) : SeqEvent → Prop
  | .arrival _ _ maps skb => ∀ generation info, maps.activeGeneration = some generation →
      Inbound.parseIcmpPacket maps skb generation = (.ok, info) → info.type = Tc.icmpEcho →
      ¬(info.srcIpv4 = key.remoteIpv4 ∧ info.id = key.icmpId)
  | .eviction other => other ≠ key

theorem seqStep_keeps (spares : Spares key event) : seqStep seqMap event key = seqMap key := by
  cases event with
  | arrival checks helpers maps skb =>
    rcases Inbound.wgMixIngress_icmpSeq checks helpers maps { skb, icmpSeq := seqMap } with
      kept | ⟨generation, info, listener, active, parsed, request, seen⟩
    · exact congrFun kept key
    · refine (congrFun seen key).trans (if_neg ?_)
      rintro rfl
      exact spares generation info active parsed request ⟨rfl, rfl⟩
  | eviction other => exact if_neg (Ne.symm spares)

theorem seqRun_keeps {events : List SeqEvent}
    (spared : Runs.Along seqStep (fun _ => Spares key) seqMap events) :
    Runs.run seqStep seqMap events key = seqMap key := by
  refine Runs.invariant (P := fun later : IcmpSeqMap => later key = seqMap key) ?_ rfl spared
  intro later event kept spares
  exact (seqStep_keeps spares).trans kept

/-- A request that the server accepts: an Echo Request with a mixed message for a server listener. -/
structure Request (checks : Option AdmissionChecks) (helpers : IngressHelpers) (maps : PolicyMaps)
    (generation : UInt64) (before after : Inbound) (info : IcmpPacketInfo) (listener : IcmpListenerValue) :
    Prop where
  parsed : Inbound.parseIcmpPacket maps before.skb generation = (.ok, info)
  code : info.code = 0
  type : info.type = Tc.icmpEcho
  found : ∃ wildcard, maps.lookupIcmpListener before.skb.ifindex info.id info.type info.family generation =
    some (listener, wildcard)
  server : listener.role = .server
  mixed : ∃ profile kind standard, maps.lookupProfile generation listener.profileId = some profile ∧
    4 ≤ info.payloadLen ∧ profile.decodeMixed (before.skb.data.le32 info.payloadOff) = some (kind, standard) ∧
    validateLen kind info.payloadLen = true
  accepted : Inbound.wgMixIngress checks helpers maps before = (after, .ok)

/-- What an accepted request leaves: its sequence, and a datagram from the endpoint it stands for. -/
structure Request.Presents (before after : Inbound) (info : IcmpPacketInfo) (listener : IcmpListenerValue) :
    Prop where
  sequence : after.icmpSeq (Inbound.icmpSeqKey before.skb info listener) = some ⟨listener.generation, info.sequence⟩
  port : after.skb.data.be16 info.icmpOff = (Inbound.sourcePort info).toNat
  address : after.skb.data.le32 (info.ipOff + 12) = info.srcIpv4

theorem Request.presents (request : Request checks helpers maps generation before after info listener)
    (active : maps.activeGeneration = some generation) (rewrites : listener.action = .rewrite) :
    Request.Presents before after info listener := by
  obtain ⟨parsed, code, type, ⟨wildcard, found⟩, server, mixed, accepted⟩ := request
  obtain ⟨profile, kind, standard, profiled, word, decoded, valid⟩ := mixed
  rw [Inbound.wgMixIngress, active] at accepted
  simp only [Inbound.incStatIf_skb, parsed, code, type, true_and, true_or, if_true] at accepted
  rw [type] at found
  simp only [found] at accepted
  have rewritten := Inbound.icmpIngress_rewrites rewrites profiled word (by simpa using decoded) valid accepted
  simp only [Inbound.incStatIf_skb, Inbound.incStatIf_icmpSeq] at rewritten
  obtain ⟨port, address⟩ := Inbound.rewriteIcmpToUdp_endpoint (Inbound.parseIcmpPacket_ok parsed) rewritten
  refine ⟨?_, port, address⟩
  rw [← (Prod.mk.inj rewritten).1, if_pos ⟨server, type⟩]
  exact if_pos rfl

/-- A datagram of the same interface to the source endpoint that the server was presented. -/
structure Reply (maps : PolicyMaps) (generation : UInt64) (presented : Skb) (request : IcmpPacketInfo)
    (listener : IcmpListenerValue) (skb : Skb) (info : PacketInfo) (rule : EgressRuleValue) : Prop where
  parsed : Tc.parsePacket maps skb generation = (.ok, info)
  family : info.family = .ipv4
  whole : info.payloadOff + info.payloadLen ≤ skb.data.length
  ruled : maps.lookupEgressRule skb.mark skb.ifindex info.srcPort info.family generation = some rule
  sameWireGuard : rule.wgId = listener.wgId
  address : skb.data.le32 (info.ipOff + 16) = presented.data.le32 (request.ipOff + 12)
  port : info.dstPort.toNat = presented.data.be16 request.icmpOff

section
variable {miss : Control.Action} {profiles : List Control.ProfileState} {ciphers : List Control.CipherState}
  {wireGuards : List Control.RuledWireGuard} {underlays : List Control.UnderlayState} {generation : UInt64}
  {snapshot : Abi.Snapshot}

/-- Whichever entry answers, it was made from a listener of the state. -/
theorem lookupIcmpListener_maps {state : Control.State}
    (built : Abi.fromStateWithGeneration state generation = .ok snapshot)
    (found : snapshot.maps.lookupIcmpListener ifindex icmpId icmpType family generation = some (listener, wildcard)) :
    ∃ rule ∈ state.icmpListeners, listener = (Abi.icmpEntry generation rule).2 := by
  have origin {underlay : UInt32} {id : UInt16} {held : IcmpListenerValue}
      (entry : (snapshot.maps.icmpListeners ⟨generation, underlay, id, family, icmpType⟩).filter
        (·.generation = generation) = some held) :
      ∃ rule ∈ state.icmpListeners, held = (Abi.icmpEntry generation rule).2 := by
    have entry := Option.eq_some_of_filter_eq_some entry
    simp only [Abi.Snapshot.maps, (Abi.fromState_stores built).icmpListeners] at entry
    obtain ⟨rule, member, _, rfl⟩ := Table.lookup_fill_map entry
    exact ⟨rule, member, rfl⟩
  rw [PolicyMaps.lookupIcmpListener] at found
  dsimp only at found
  split at found
  · rename_i exact
    cases found
    exact origin exact
  · split at found
    · rename_i fallback
      cases found
      exact origin fallback
    · split at found
      · split at found
        · rename_i kept
          cases found
          exact origin (Option.eq_some_of_filter_eq_some kept)
        · obtain ⟨held, kept, same⟩ := Option.map_eq_some_iff.mp found
          cases same
          exact origin (Option.eq_some_of_filter_eq_some kept)
      · cases found

/-- Interfaces have numbers of their own, so the rule of a server's interface is a server's. -/
theorem serverRule
    (built : Abi.fromStateWithGeneration (Control.buildRules miss profiles ciphers wireGuards underlays) generation =
      .ok snapshot)
    (distinct : (wireGuards.map (·.id)).Nodup)
    (found : snapshot.maps.lookupIcmpListener ifindex icmpId icmpType family generation = some (listener, wildcard))
    (server : listener.role = .server)
    (ruled : snapshot.maps.lookupEgressRule mark out port other generation = some rule)
    (same : rule.wgId = listener.wgId) :
    rule.icmpRole = .server ∧ rule.generation = generation ∧ listener.generation = generation ∧
      listener.action = .rewrite := by
  obtain ⟨origin, member, rfl⟩ := lookupIcmpListener_maps built found
  obtain ⟨wg, held, underlay, carried, rfl, _⟩ := Control.mem_icmpListeners member
  obtain ⟨egress, member, rfl⟩ := Abi.lookupEgressRule_maps built ruled
  obtain ⟨answering, heldToo, underlay', carried', rfl⟩ := Control.mem_egressRules member
  obtain rfl : answering = wg := List.inj_on_of_nodup_map distinct heldToo held same
  exact ⟨server, rfl, rfl, rfl⟩

/-- The reply carries the identifier and the sequence of the request exactly when the identifier
is one that a UDP port can stand for, the reply leaves where the sequence was observed (or the
sequence known there is the same) and the sum of the message can be had. -/
theorem echo_reply_iff
    (built : Abi.fromStateWithGeneration (Control.buildRules miss profiles ciphers wireGuards underlays) generation =
      .ok snapshot)
    (nonzero : generation ≠ 0) (distinct : (wireGuards.map (·.id)).Nodup)
    (request : Request checks helpers snapshot.maps generation before after info listener)
    (spared : Runs.Along seqStep (fun _ => Spares (Inbound.icmpSeqKey before.skb info listener)) after.icmpSeq events)
    (reply : Reply snapshot.maps generation after.skb info listener skb datagram rule)
    (reliable : Helpers.Reliable answering) :
    (∃ out, Tc.rewriteUdpToIcmp answering (Runs.run seqStep after.icmpSeq events) skb datagram rule oldWire newWire =
        .ok out ∧ EchoReply out datagram.ipOff datagram.udpOff info.id info.sequence) ↔
      info.id ≠ 0 ∧
      (skb.ifindex = before.skb.ifindex ∨ (Runs.run seqStep after.icmpSeq events).sequence
        ⟨generation, info.srcIpv4, skb.ifindex, listener.wgId, info.id⟩ = info.sequence) ∧
      Tc.Summable skb datagram := by
  have active := Abi.activeGeneration_maps built nonzero
  obtain ⟨_, found⟩ := request.found
  obtain ⟨server, ruleGeneration, listenerGeneration, rewrites⟩ :=
    serverRule built distinct found request.server reply.ruled reply.sameWireGuard
  obtain ⟨observed, port, address⟩ := request.presents active rewrites
  obtain ⟨behind, fits⟩ := (Tc.parsePacket_ok reply.parsed).behind reply.family
  have dstPort : datagram.dstPort = Inbound.sourcePort info := UInt16.toNat_inj.mp (reply.port.trans port)
  have named : datagram.dstPort ≠ 0 := by
    rw [dstPort, Inbound.sourcePort]
    split
    · decide
    · assumption
  have emits : (∃ out, Tc.rewriteUdpToIcmp answering (Runs.run seqStep after.icmpSeq events) skb datagram rule oldWire
      newWire = .ok out) ↔ Tc.Summable skb datagram :=
    Tc.rewriteUdpToIcmp_ok_iff reliable reply.family server named (Tc.parsePacket_ok reply.parsed) behind reply.whole
  have reached : datagram.ipOff + iphdrSize ≤ skb.data.length := by omega
  have looked : Tc.lookupIcmpSequence answering (Runs.run seqStep after.icmpSeq events) skb datagram rule
      datagram.dstPort = _ := Tc.lookupIcmpSequence_reliable reliable reached
  rw [ruleGeneration, reply.address, address, reply.sameWireGuard] at looked
  constructor
  · rintro ⟨out, done, echo⟩
    have sent := Tc.rewriteUdpToIcmp_reply reply.family server named behind done
    rw [looked] at sent
    obtain ⟨identifier, sequence⟩ := echo.unique sent
    rw [identifier]
    exact ⟨named, .inr sequence.symm, emits.mp ⟨out, done⟩⟩
  · rintro ⟨named, known, summable⟩
    obtain ⟨out, done⟩ := emits.mpr summable
    have sent := Tc.rewriteUdpToIcmp_reply reply.family server (by assumption) behind done
    have identifier : datagram.dstPort = info.id := by
      rw [dstPort, Inbound.sourcePort, if_neg named]
    rw [looked, identifier] at sent
    have sequence : (Runs.run seqStep after.icmpSeq events).sequence
        ⟨generation, info.srcIpv4, skb.ifindex, listener.wgId, info.id⟩ = info.sequence := by
      rcases known with here | same
      · have kept := (seqRun_keeps spared).trans observed
        rw [Inbound.icmpSeqKey, listenerGeneration] at kept
        rw [here, IcmpSeqMap.sequence, kept]
        exact if_neg (not_not.mpr rfl)
      · exact same
    rw [sequence] at sent
    exact ⟨out, done, sent⟩

end

/-- One server interface over one underlay without a link header. -/
def sampleServer : List Control.RuledWireGuard :=
  [{ name := "wg0", transportMode := .icmp, runtimeStateAvailable := true, runtimeFirewallMark := 0x64,
     runtimeListenPort := 51820, id := 1, profileId := 1, icmpRole := .server }]

def sampleState : Control.State :=
  Control.buildRules .drop [⟨1, "default", Control.Profile.wireguardMixWireValuesV1, Control.Profile.standard⟩] []
    sampleServer [⟨"wan", .l3, 2, .transform, true⟩]

def sampleSnapshot : Abi.Snapshot where
  control := ⟨1, abiVersion⟩
  profiles := Table.fill (sampleState.profiles.map (Abi.profileEntry 1))
  ciphers := Table.fill []
  underlays := Table.fill ((sampleState.underlays.filter (Abi.skipsUnderlay · = false)).map (Abi.underlayEntry 1))
  managedFwmarks := Table.fill (sampleState.managedFwmarks.map (Abi.managedEntry 1))
  egressRules := Table.fill (sampleState.egressRules.map (Abi.egressEntry 1))
  ingressListeners := Table.fill (sampleState.ingressListeners.map (Abi.ingressEntry 1))
  icmpListeners := Table.fill (sampleState.icmpListeners.map (Abi.icmpEntry 1))

/-- An Echo Request with sequence seven and a mixed data message of 32 bytes. -/
def samplePing (icmpId : UInt16) : Skb where
  data := [0x45, 0, 0, 60, 0, 0, 0, 0, 64, 1, 0, 0, 203, 0, 113, 5, 192, 0, 2, 1] ++
    [8, 0, 0, 0] ++ Bytes.beBytes16 icmpId.toNat ++ [0, 7] ++
    typeWordBytes (Control.Profile.wireguardMixWireValuesV1 (.last 3)) ++ List.replicate 28 0xab
  linear := 60
  protocol := ethPIp
  mark := 0
  ifindex := 2

/-- The server's data message of 32 bytes to a port of the same peer. -/
def samplePong (port : UInt16) : Skb where
  data := [0x45, 0, 0, 60, 0, 0, 0, 0, 64, 17, 0, 0, 192, 0, 2, 1, 203, 0, 113, 5] ++
    Bytes.beBytes16 51820 ++ Bytes.beBytes16 port.toNat ++ [0, 40, 0x12, 0x34] ++
    typeWordBytes 4 ++ List.replicate 28 0xcd
  linear := 60
  protocol := ethPIp
  mark := 0x64
  ifindex := 2

def samplePresented (icmpId : UInt16) : Inbound :=
  (Inbound.wgMixIngress none {} sampleSnapshot.maps { skb := samplePing icmpId }).1

def samplePingInfo (icmpId : UInt16) : IcmpPacketInfo :=
  (Inbound.parseIcmpPacket sampleSnapshot.maps (samplePing icmpId) 1).2

def samplePongInfo (port : UInt16) : PacketInfo := (Tc.parsePacket sampleSnapshot.maps (samplePong port) 1).2

def sampleListener : IcmpListenerValue where
  generation := 1
  profileId := 1
  wgId := 1
  listenPort := 51820
  action := .rewrite
  role := .server
  flags := 1

def sampleRule : EgressRuleValue where
  generation := 1
  profileId := 1
  wgId := 1
  cipherId := 0
  icmpId := 0
  action := .rewrite
  transportMode := .icmp
  icmpRole := .server

theorem sample_built : Abi.fromStateWithGeneration sampleState 1 = .ok sampleSnapshot := rfl

theorem sample_request {icmpId : UInt16} (chosen : icmpId = 0 ∨ icmpId = 5) :
    Request none {} sampleSnapshot.maps 1 { skb := samplePing icmpId } (samplePresented icmpId)
      (samplePingInfo icmpId) sampleListener := by
  rcases chosen with rfl | rfl
  all_goals exact {
    parsed := Prod.ext (by decide +kernel) rfl
    code := by decide +kernel
    type := by decide +kernel
    found := ⟨true, by rfl⟩
    server := rfl
    mixed := ⟨_, 3, 4, rfl, by decide +kernel, by decide +kernel, by decide +kernel⟩
    accepted := Prod.ext rfl (by decide +kernel) }

/-- The server answers to the port it was presented, one for the identifier zero. -/
theorem sample_reply {icmpId port : UInt16} (chosen : icmpId = 0 ∧ port = 1 ∨ icmpId = 5 ∧ port = 5) :
    Reply sampleSnapshot.maps 1 (samplePresented icmpId).skb (samplePingInfo icmpId) sampleListener
      (samplePong port) (samplePongInfo port) sampleRule := by
  rcases chosen with ⟨rfl, rfl⟩ | ⟨rfl, rfl⟩
  all_goals exact {
    parsed := Prod.ext (by decide +kernel) rfl
    family := by decide +kernel
    whole := by decide +kernel
    ruled := by rfl
    sameWireGuard := rfl
    address := by decide +kernel
    port := by decide +kernel }

/-- A request with the identifier zero is answered under the identifier one. -/
theorem zero_identifier_lost :
    Request none {} sampleSnapshot.maps 1 { skb := samplePing 0 } (samplePresented 0) (samplePingInfo 0)
        sampleListener ∧
      (samplePingInfo 0).id = 0 ∧ (samplePingInfo 0).sequence = 7 ∧
      Reply sampleSnapshot.maps 1 (samplePresented 0).skb (samplePingInfo 0) sampleListener (samplePong 1)
        (samplePongInfo 1) sampleRule ∧
      (∃ out, Tc.rewriteUdpToIcmp {} (samplePresented 0).icmpSeq (samplePong 1) (samplePongInfo 1) sampleRule 4
          (Control.Profile.wireguardMixWireValuesV1 3) = .ok out ∧
        EchoReply out (samplePongInfo 1).ipOff (samplePongInfo 1).udpOff 1 0) ∧
      ¬∃ out, Tc.rewriteUdpToIcmp {} (samplePresented 0).icmpSeq (samplePong 1) (samplePongInfo 1) sampleRule 4
          (Control.Profile.wireguardMixWireValuesV1 3) = .ok out ∧
        EchoReply out (samplePongInfo 1).ipOff (samplePongInfo 1).udpOff 0 7 := by
  have emitted : ∃ out, Tc.rewriteUdpToIcmp {} (samplePresented 0).icmpSeq (samplePong 1) (samplePongInfo 1)
      sampleRule 4 (Control.Profile.wireguardMixWireValuesV1 3) = .ok out ∧
      EchoReply out (samplePongInfo 1).ipOff (samplePongInfo 1).udpOff 1 0 := by
    refine ⟨_, rfl, ?_⟩
    exact ⟨by decide +kernel, by decide +kernel, by decide +kernel, by decide +kernel, by decide +kernel⟩
  have reply := sample_reply (.inl ⟨rfl, rfl⟩)
  refine ⟨sample_request (.inl rfl), by decide +kernel, by decide +kernel, reply, emitted, ?_⟩
  rintro ⟨out, done, echo⟩
  obtain ⟨other, again, sent⟩ := emitted
  cases done.symm.trans again
  exact absurd (echo.unique sent).1 (by decide)

/-- The exchange under the identifier five, during which another sender's entry is evicted. -/
theorem echo_reply_iff_sample :
    (∃ out, Tc.rewriteUdpToIcmp {} (Runs.run seqStep (samplePresented 5).icmpSeq [.eviction ⟨1, 0, 2, 1, 5⟩])
        (samplePong 5) (samplePongInfo 5) sampleRule 4 (Control.Profile.wireguardMixWireValuesV1 3) = .ok out ∧
      EchoReply out (samplePongInfo 5).ipOff (samplePongInfo 5).udpOff (samplePingInfo 5).id
        (samplePingInfo 5).sequence) ∧
      (samplePingInfo 5).id = 5 ∧ (samplePingInfo 5).sequence = 7 := by
  have spared : Runs.Along seqStep
      (fun _ => Spares (Inbound.icmpSeqKey (samplePing 5) (samplePingInfo 5) sampleListener))
      (samplePresented 5).icmpSeq [.eviction ⟨1, 0, 2, 1, 5⟩] :=
    ⟨by simp only [Spares]; decide +kernel, trivial⟩
  refine ⟨(echo_reply_iff sample_built (by decide) (by decide) (sample_request (.inr rfl)) spared
    (sample_reply (.inr ⟨rfl, rfl⟩)) ⟨fun _ _ _ => rfl, fun _ _ _ => rfl, fun _ _ => rfl⟩).mpr ?_, ?_, ?_⟩
  · exact ⟨by decide +kernel, .inl rfl, by decide +kernel⟩
  · decide +kernel
  · decide +kernel

end WgMix.Bpf.IcmpEcho
