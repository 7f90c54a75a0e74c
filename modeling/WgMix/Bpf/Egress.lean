import WgMix.Bpf.Icmp

/-! The baseline TC egress program and the XOR programs it tail-calls. -/
namespace WgMix.Bpf
open L3

inductive TcStat where
  | egressRewriteOk
  | egressRuleMiss
  | egressBadType
  | egressBadLength
  | egressFragment
  | egressIpv6Ext
  | checksumError
  | skbLoadError
  | skbStoreError
  | egressGsoSeen
  | egressGsoManagedSeen
  | egressGsoRewriteOk
  | icmpEgressRewriteOk
  | icmpChecksumError
  | xorEgressOk
  | xorKeyMissing
  | xorLenOverflow
  | xorLoadError
  | xorStoreError
  | xorCsumError
  | egressBadChecksum
  | xorEgressDispatchError
  deriving DecidableEq, Repr

/-- One packet in flight: its buffer, the counters advanced so far, the last one
first, and the Echo sequences that ingress has observed. -/
structure Tc where
  skb : Skb
  stats : List TcStat := []
  icmpSeq : IcmpSeqMap := fun _ => none

namespace Tc

variable (helpers : Helpers) (maps : PolicyMaps) (tc : Tc)

def incStat (stat : TcStat) : Tc := { tc with stats := stat :: tc.stats }

def incStatIf (condition : Bool) (stat : TcStat) : Tc :=
  if condition then tc.incStat stat else tc

def incXorError : RewriteError → Tc
  | .store => tc.incStat .xorStoreError
  | .checksumDiff => tc.incStat .xorCsumError
  | .length => tc.incStat .xorLenOverflow
  | .load => tc.incStat .xorLoadError
  | _ => tc.incStat .xorKeyMissing

def xorDispatchFail (stat : TcStat) : Tc × TcVerdict :=
  ({ tc with skb := clearXorContext tc.skb }.incStat stat, .shot)

/-- The kernel bounds a chain of tail calls. -/
def maxTailCalls : Nat := 33

/-- `run_xor_egress_segment`; the slot that the next tail call hits decides which
segment's program runs, and an empty slot or an exhausted chain falls through. -/
def runXorEgressSegment (helpers : Helpers) (maps : PolicyMaps) :
    (tailCalls segment : Nat) → Tc → Tc × TcVerdict
  | tailCalls, segment, tc =>
    match loadXorContext tc.skb with
    | none => tc.xorDispatchFail .xorEgressDispatchError
    | some context =>
      match maps.lookupCipher context.cipherId context.generation with
      | none => tc.xorDispatchFail .xorKeyMissing
      | some cipher =>
        match xorSegmentFor helpers context.checksumMode tc.skb cipher context.payloadOff context.target
            segment 0 with
        | .error cause => ({ tc with skb := clearXorContext tc.skb }.incXorError cause, .shot)
        | .ok (skb, true) =>
          let tc := { tc with skb }
          let slot := xorProgramIndex context.generation (segment + 1)
          match tailCalls with
          | 0 => tc.xorDispatchFail .xorEgressDispatchError
          | tailCalls + 1 =>
            if helpers.xorEgressPrograms slot then
              runXorEgressSegment helpers maps tailCalls (slot % xorSegmentCount) tc
            else tc.xorDispatchFail .xorEgressDispatchError
        | .ok (skb, false) =>
          let tc := ({ tc with skb }.incStat .xorEgressOk)
          let tc := { tc with skb := clearXorContext skb }.incStat .egressRewriteOk
          (tc.incStatIf (skb.gsoSize ≠ 0) .egressGsoRewriteOk, .ok)

def managedMissAction (stat : TcStat) (managed : ManagedFwmarkValue) : Tc × TcVerdict :=
  (tc.incStat stat, if managed.actionOnMiss = .drop then .shot else .ok)

def rewriteErrorStat (cipherId : UInt32) : RewriteError → TcStat
  | .store => if cipherId ≠ 0 then .xorStoreError else .skbStoreError
  | .checksumDiff => if cipherId ≠ 0 then .xorCsumError else .icmpChecksumError
  | .length => .xorLenOverflow
  | .load => .xorLoadError
  | .key => .xorKeyMissing
  | .checksum => .checksumError

def rewriteDone (rule : EgressRuleValue) (gsoSeen : Bool) : Except RewriteError Skb → Tc × TcVerdict
  | .error cause => (tc.incStat (rewriteErrorStat rule.cipherId cause), .shot)
  | .ok skb =>
    let tc := { tc with skb }.incStat .egressRewriteOk
    let tc := tc.incStatIf (rule.transportMode = .icmp) .icmpEgressRewriteOk
    (tc.incStatIf gsoSeen .egressGsoRewriteOk, .ok)

def xorChecksumMode (info : PacketInfo) : XorChecksum :=
  if info.family = .ipv4 then
    if info.ipv4UdpCsumZero then .none else .recompute
  else .manual

/-- The cipher path: remember the context, rewrite the type word, hand over. -/
def xorEgress (generation : UInt64) (info : PacketInfo) (rule : EgressRuleValue) (oldWire newWire : UInt32) :
    Tc × TcVerdict :=
  match prepareXorContextById maps tc.skb info rule.cipherId generation (xorChecksumMode info) with
  | .error cause => (tc.incXorError cause, .shot)
  | .ok skb =>
    match updateTypeWord helpers skb info oldWire newWire true with
    | .error cause =>
      ({ tc with skb := clearXorContext skb }.incStat
        (if cause = RewriteError.store then .xorStoreError else .checksumError), .shot)
    | .ok skb =>
      let tc := { tc with skb }
      let slot := xorProgramIndex generation 0
      if helpers.xorEgressPrograms slot then
        runXorEgressSegment helpers maps (maxTailCalls - 1) (slot % xorSegmentCount) tc
      else tc.xorDispatchFail .xorEgressDispatchError

/-- A rule of the FakeTCP transport is rewritten as UDP by this build. -/
def transformEgress (generation : UInt64) (info : PacketInfo) (rule : EgressRuleValue) (oldWire newWire : UInt32) :
    Tc × TcVerdict :=
  let gsoSeen : Bool := tc.skb.gsoSize ≠ 0
  if rule.transportMode = .icmp then
    tc.rewriteDone rule gsoSeen (rewriteUdpToIcmp helpers tc.icmpSeq tc.skb info rule oldWire newWire)
  else if rule.cipherId ≠ 0 then xorEgress helpers maps tc generation info rule oldWire newWire
  else tc.rewriteDone rule gsoSeen (updateTypeWord helpers tc.skb info oldWire newWire true)

/-- The checks between a matching rule and the rewrite. The length is not
checked on an aggregate, whose messages may be of any number. -/
def rewriteEgress (generation : UInt64) (info : PacketInfo) (rule : EgressRuleValue) : Tc × TcVerdict :=
  let gsoSeen : Bool := tc.skb.gsoSize ≠ 0
  match tc.skb.loadBytes helpers info.payloadOff 4 with
  | none => (tc.incStat .skbLoadError, .shot)
  | some word =>
    match kindFromStandard (word.le32 0) with
    | none => (tc.incStat .egressBadType, .shot)
    | some kind =>
      if gsoSeen = false ∧ validateLen kind info.payloadLen = false then
        (tc.incStat .egressBadLength, .shot)
      else
        match maps.lookupProfile generation rule.profileId with
        | none => (tc.incStat .egressRuleMiss, .shot)
        | some profile =>
          if rule.cipherId ≠ 0 ∧ gsoSeen = false ∧ rule.transportMode ≠ .udp then
            (tc.incStat .xorKeyMissing, .shot)
          else transformEgress helpers maps tc generation info rule (word.le32 0)
            (profile.mixedFromKind kind)

def wgMixEgress : Tc × TcVerdict :=
  match maps.activeGeneration with
  | none => (tc, .ok)
  | some generation =>
    let gsoSeen : Bool := tc.skb.gsoSize ≠ 0
    let tc := tc.incStatIf gsoSeen .egressGsoSeen
    match maps.lookupManagedFwmark tc.skb.mark tc.skb.ifindex generation with
    | none => (tc, .ok)
    | some managed =>
      let tc := tc.incStatIf gsoSeen .egressGsoManagedSeen
      match parsePacket maps tc.skb generation with
      | (status, info) =>
        if status.isFragment then (tc.incStat .egressFragment, .shot)
        else if status.isIpv6Ext then (tc.incStat .egressIpv6Ext, .shot)
        else if status = .badCsum then tc.managedMissAction .egressBadChecksum managed
        else if status ≠ .ok then tc.managedMissAction .egressRuleMiss managed
        else
          match maps.lookupEgressRule tc.skb.mark tc.skb.ifindex info.srcPort info.family generation with
          | none => tc.managedMissAction .egressRuleMiss managed
          | some rule =>
            if rule.action = .drop then (tc, .shot)
            else if rule.action ≠ .rewrite then (tc, .ok)
            else rewriteEgress helpers maps tc generation info rule

end Tc
end WgMix.Bpf
