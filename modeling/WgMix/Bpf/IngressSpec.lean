import WgMix.Bpf.IcmpSpec
import WgMix.Bpf.Ingress

/-! What a run of the ingress program does to the observed Echo sequences and to an accepted
Echo packet. -/
namespace WgMix.Bpf
open L3

namespace Inbound
variable {checks : Option AdmissionChecks} {helpers : IngressHelpers} {maps : PolicyMaps} {inbound after : Inbound}
  {info : IcmpPacketInfo} {listener : IcmpListenerValue}

@[simp] theorem incStat_skb (inbound : Inbound) (stat : IngressStat) : (inbound.incStat stat).skb = inbound.skb := rfl

@[simp] theorem incStat_icmpSeq (inbound : Inbound) (stat : IngressStat) :
    (inbound.incStat stat).icmpSeq = inbound.icmpSeq := rfl

@[simp] theorem incStatIf_skb (inbound : Inbound) (condition : Bool) (stat : IngressStat) :
    (inbound.incStatIf condition stat).skb = inbound.skb := by
  cases condition <;> rfl

@[simp] theorem incStatIf_icmpSeq (inbound : Inbound) (condition : Bool) (stat : IngressStat) :
    (inbound.incStatIf condition stat).icmpSeq = inbound.icmpSeq := by
  cases condition <;> rfl

@[simp] theorem incXorError_icmpSeq (inbound : Inbound) (cause : RewriteError) :
    (inbound.incXorError cause).icmpSeq = inbound.icmpSeq := by
  cases cause <;> rfl

@[simp] theorem shot_icmpSeq (inbound : Inbound) (stat : IngressStat) :
    (inbound.shot stat).1.icmpSeq = inbound.icmpSeq := rfl

@[simp] theorem xorDispatchFail_icmpSeq (inbound : Inbound) (stat : IngressStat) :
    (inbound.xorDispatchFail stat).1.icmpSeq = inbound.icmpSeq := rfl

theorem runXorIngressSegment_icmpSeq (tailCalls segment : Nat) (inbound : Inbound) :
    (runXorIngressSegment helpers maps tailCalls segment inbound).1.icmpSeq = inbound.icmpSeq := by
  induction tailCalls generalizing segment inbound with
  | zero =>
    rw [runXorIngressSegment]
    dsimp only
    repeat' split
    all_goals simp
  | succ tailCalls ih =>
    rw [runXorIngressSegment]
    dsimp only
    repeat' split
    all_goals simp [ih]

theorem xorIngress_icmpSeq : (xorIngress helpers maps inbound generation datagram cipherId target encrypted
    standard).1.icmpSeq = inbound.icmpSeq := by
  rw [xorIngress]
  dsimp only
  repeat' split
  all_goals simp [runXorIngressSegment_icmpSeq]

theorem plainIngress_icmpSeq {helpers : Helpers} :
    (plainIngress helpers inbound datagram old standard).1.icmpSeq = inbound.icmpSeq := by
  rw [plainIngress]
  repeat' split
  all_goals simp

theorem rewriteIngress_icmpSeq :
    (rewriteIngress helpers maps inbound generation datagram entry profile).1.icmpSeq = inbound.icmpSeq := by
  rw [rewriteIngress]
  repeat' split
  all_goals simp [xorIngress_icmpSeq, plainIngress_icmpSeq]

theorem listenerIngress_icmpSeq :
    (listenerIngress checks helpers maps inbound generation status datagram entry).1.icmpSeq = inbound.icmpSeq := by
  rw [listenerIngress]
  dsimp only
  repeat' split
  all_goals simp [rewriteIngress_icmpSeq]

/-- The UDP branch does not observe sequences. -/
theorem udpIngress_icmpSeq : (udpIngress checks helpers maps inbound generation).1.icmpSeq = inbound.icmpSeq := by
  rw [udpIngress]
  dsimp only
  repeat' split
  all_goals simp [listenerIngress_icmpSeq]

theorem rewriteIcmpToUdp_icmpSeq (helpers : Helpers) (seqMap : IcmpSeqMap) (packet : Skb) (info : IcmpPacketInfo)
    (listener : IcmpListenerValue) (newWire : UInt32) :
    (rewriteIcmpToUdp helpers seqMap packet info listener newWire).1 = seqMap ∨ info.type = Tc.icmpEcho ∧
      (rewriteIcmpToUdp helpers seqMap packet info listener newWire).1 =
        rememberIcmpSequence seqMap packet info listener := by
  rw [rewriteIcmpToUdp]
  by_cases observes : listener.role = .server ∧ info.type = Tc.icmpEcho
  · exact .inr ⟨observes.2, if_pos observes⟩
  · exact .inl (if_neg observes)

/-- The Echo branch remembers the sequence of a request, or leaves the map. -/
theorem icmpIngress_icmpSeq (helpers : Helpers) (maps : PolicyMaps) (inbound : Inbound) (generation : UInt64)
    (info : IcmpPacketInfo) (listener : IcmpListenerValue) (wildcard : Bool) :
    (icmpIngress helpers maps inbound generation info listener wildcard).1.icmpSeq = inbound.icmpSeq ∨
      info.type = Tc.icmpEcho ∧ (icmpIngress helpers maps inbound generation info listener wildcard).1.icmpSeq =
        rememberIcmpSequence inbound.icmpSeq inbound.skb info listener := by
  rw [icmpIngress]
  dsimp only
  split
  · exact .inl (by simp)
  split
  · exact .inl (by simp)
  split
  · exact .inl (by simp)
  split
  · exact .inl (by simp [icmpBadIngressAction])
  split
  · exact .inl (by simp)
  split
  · exact .inl (by simp [icmpBadIngressAction])
  split
  · exact .inl (by simp [icmpBadIngressAction])
  · rename_i kind standard _ _
    have effect := rewriteIcmpToUdp_icmpSeq helpers inbound.icmpSeq inbound.skb info listener standard
    simp only [incStatIf_skb, incStatIf_icmpSeq]
    split
    · rename_i rewritten
      rw [rewritten] at effect
      exact effect
    · rename_i rewritten
      rw [rewritten] at effect
      simpa using effect

/-- Only an Echo Request makes the program write the map, under its own source and identifier. -/
theorem wgMixIngress_icmpSeq (checks : Option AdmissionChecks) (helpers : IngressHelpers) (maps : PolicyMaps)
    (inbound : Inbound) :
    (wgMixIngress checks helpers maps inbound).1.icmpSeq = inbound.icmpSeq ∨
      ∃ generation info listener, maps.activeGeneration = some generation ∧
        parseIcmpPacket maps inbound.skb generation = (.ok, info) ∧ info.type = Tc.icmpEcho ∧
        (wgMixIngress checks helpers maps inbound).1.icmpSeq =
          rememberIcmpSequence inbound.icmpSeq inbound.skb info listener := by
  rw [wgMixIngress]
  cases active : maps.activeGeneration with
  | none => exact .inl rfl
  | some generation =>
    dsimp only
    simp only [incStatIf_skb]
    cases parsed : parseIcmpPacket maps inbound.skb generation with
    | mk status info =>
      dsimp only
      split
      · rename_i echo
        split
        · exact .inl (by simp)
        · rename_i listener wildcard _
          rcases icmpIngress_icmpSeq helpers.toHelpers maps
            (inbound.incStatIf (inbound.skb.gsoSize ≠ 0) .ingressGsoSeen) generation info listener wildcard with
            kept | ⟨request, observed⟩
          · exact .inl (by simpa using kept)
          · refine .inr ⟨generation, info, listener, rfl, ?_, request, by simpa using observed⟩
            rw [← echo.1, parsed]
      · exact .inl (udpIngress_icmpSeq.trans (incStatIf_icmpSeq ..))

/-- A mixed message that a rewriting listener lets pass has gone through the rewrite. -/
theorem icmpIngress_rewrites {helpers : Helpers} (rewrites : listener.action = .rewrite)
    (profiled : maps.lookupProfile generation listener.profileId = some profile) (word : 4 ≤ info.payloadLen)
    (decoded : profile.decodeMixed (inbound.skb.data.le32 info.payloadOff) = some (kind, standard))
    (valid : validateLen kind info.payloadLen = true)
    (done : icmpIngress helpers maps inbound generation info listener wildcard = (after, .ok)) :
    rewriteIcmpToUdp helpers inbound.icmpSeq inbound.skb info listener standard = (after.icmpSeq, .ok after.skb) := by
  rw [icmpIngress] at done
  simp only [rewrites, reduceCtorEq, if_false, ne_eq, not_true_eq_false, profiled, incStatIf_skb, incStatIf_icmpSeq,
    if_neg (Nat.not_lt.mpr word)] at done
  split at done
  · cases done
  · rename_i loaded read
    obtain ⟨_, rfl⟩ := Skb.loadBytes_some read
    rw [Bytes.le32_slice (by decide), Nat.add_zero, decoded] at done
    simp only [valid, Bool.true_eq_false, if_false] at done
    split at done
    · cases done
    · rename_i rewritten
      cases done
      simpa using rewritten

/-- Where a parsed Echo packet has its headers and its source address. -/
structure EchoShape (skb : Skb) (info : IcmpPacketInfo) : Prop where
  behind : info.ipOff + iphdrSize ≤ info.icmpOff
  placed : info.payloadOff = info.icmpOff + Tc.icmphdrSize
  source : info.srcIpv4 = skb.data.le32 (info.ipOff + 12)

theorem parseIcmpPacket_ok {packet : Skb} (parsed : parseIcmpPacket maps packet generation = (.ok, info)) :
    EchoShape packet info := by
  rw [parseIcmpPacket] at parsed
  dsimp only at parsed
  split at parsed
  · obtain ⟨_, parsed⟩ := guard_status parsed (by decide)
    obtain ⟨short, parsed⟩ := guard_status parsed (by decide)
    obtain ⟨headers, parsed⟩ := guard_status parsed (by decide)
    obtain ⟨_, parsed⟩ := guard_status parsed (by decide)
    obtain ⟨_, parsed⟩ := guard_status parsed (by decide)
    obtain ⟨_, parsed⟩ := guard_status parsed (by decide)
    obtain ⟨_, parsed⟩ := guard_status parsed (by decide)
    obtain ⟨_, parsed⟩ := guard_status parsed (by decide)
    cases parsed
    rw [List.length_take, iphdrSize] at short
    exact ⟨by simp only; omega, rfl, Bytes.le32_take (by omega)⟩
  · rename_i other _
    cases parsed
    exact (other rfl).elim

/-- The UDP source endpoint that the rewrite presents: the sender's address and the port that
stands for the identifier. -/
theorem rewriteIcmpToUdp_endpoint {helpers : Helpers} {packet out : Skb} (shape : EchoShape packet info)
    (done : rewriteIcmpToUdp helpers seqMap packet info listener newWire = (seen, .ok out)) :
    out.data.be16 info.icmpOff = (sourcePort info).toNat ∧ out.data.le32 (info.ipOff + 12) = info.srcIpv4 := by
  obtain ⟨behind, placed, source⟩ := shape
  rw [iphdrSize] at behind
  rw [Tc.icmphdrSize] at placed
  obtain ⟨_, done⟩ := Prod.mk.inj done
  obtain ⟨typed, word, done⟩ := bind_ok done
  obtain ⟨headed, stored, done⟩ := bind_ok done
  obtain ⟨present, rfl⟩ := Skb.storeBytes_eq (elim_ok word)
  obtain ⟨fits, rfl⟩ := Skb.storeBytes_eq (elim_ok stored)
  split at done
  · contradiction
  · obtain ⟨confined, _⟩ := Tc.updateIpv4Protocol_ok done
    constructor
    · have port := Bytes.be16_store fits (Nat.one_lt_succ_succ _ : 0 + 1 < _)
      rw [List.append_assoc, List.append_assoc, Bytes.be16_beBytes16 (sourcePort info).toNat_lt] at port
      exact (confined.be16 (by omega)).trans port
    · have address := (Bytes.Confined.store fits).le32 (.inl (by omega : info.ipOff + 12 + 4 ≤ _))
      rw [(Bytes.Confined.store present).le32 (by omega)] at address
      exact ((confined.le32 (by omega)).trans address).trans source.symm

end Inbound
end WgMix.Bpf
