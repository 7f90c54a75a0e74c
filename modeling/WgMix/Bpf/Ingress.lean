import WgMix.Bpf.Egress

/-! The TC ingress program: the Echo branch, the UDP branch and the XOR programs that
finish it. -/
namespace WgMix.Bpf
open L3

inductive IngressStat where
  | ingressRewriteOk
  | ingressRuleMiss
  | ingressBadType
  | ingressBadLength
  | ingressFragment
  | ingressIpv6Ext
  | ingressBadChecksum
  | checksumError
  | skbLoadError
  | skbStoreError
  | ingressGsoSeen
  | ingressGsoListenerHit
  | ingressGsoRewriteOk
  | icmpIngressRewriteOk
  | icmpChecksumError
  | xorIngressOk
  | xorKeyMissing
  | xorLenOverflow
  | xorLoadError
  | xorStoreError
  | xorCsumError
  | xorBadTypeAfterDecrypt
  | xorIngressDispatchError
  deriving DecidableEq, Repr

/-- One received packet: its buffer, the counters advanced so far, the last one first, and
the Echo sequences observed. -/
structure Inbound where
  skb : Skb
  stats : List IngressStat := []
  icmpSeq : IcmpSeqMap := fun _ => none

structure IngressHelpers extends Helpers where
  xorIngressPrograms : Nat → Bool := fun _ => true

/-- The two checks that only the FakeTCP build makes, on listeners of that transport. -/
structure AdmissionChecks where
  revalidated : Skb → PacketInfo → Bool
  consumed : Skb → PacketInfo → IngressListenerValue → ProfileValue → Bool

structure IcmpPacketInfo where
  family : Family := .unset
  ipOff : Nat := 0
  icmpOff : Nat := 0
  payloadOff : Nat := 0
  payloadLen : Nat := 0
  srcIpv4 : UInt32 := 0
  type : UInt8 := 0
  code : UInt8 := 0
  id : UInt16 := 0
  sequence : UInt16 := 0
  deriving DecidableEq, Repr

def icmpListenerWildcardId : UInt32 := 1

namespace PolicyMaps

/-- The listener and whether it answers for every identifier; a fallback entry counts only
with the wildcard flag. -/
def lookupIcmpListener (maps : PolicyMaps) (ifindex : UInt32) (icmpId : UInt16) (icmpType : UInt8)
    (family : Family) (generation : UInt64) : Option (IcmpListenerValue × Bool) :=
  let entry (underlay : UInt32) (id : UInt16) : Option IcmpListenerValue :=
    (maps.icmpListeners ⟨generation, underlay, id, family, icmpType⟩).filter (·.generation = generation)
  let wildcard (listener : IcmpListenerValue) : Bool := listener.flags &&& icmpListenerWildcardId ≠ 0
  match entry ifindex icmpId with
  | some listener => some (listener, wildcard listener)
  | none =>
    match entry underlayWildcard icmpId with
    | some listener => some (listener, wildcard listener)
    | none =>
      if icmpId ≠ 0 then
        match (entry ifindex 0).filter wildcard with
        | some listener => some (listener, true)
        | none => ((entry underlayWildcard 0).filter wildcard).map (·, true)
      else none

end PolicyMaps

namespace ParseStatus

def hasIngressPort (status : ParseStatus) : Bool :=
  status = .ok ∨ status = .ipv4FirstFragment ∨ status = .ipv6ExtUdp ∨ status = .ipv6FragmentFirst ∨ status = .badCsum

end ParseStatus

namespace Inbound

variable (checks : Option AdmissionChecks) (helpers : IngressHelpers) (maps : PolicyMaps) (inbound : Inbound)
  (generation : UInt64)

def incStat (stat : IngressStat) : Inbound := { inbound with stats := stat :: inbound.stats }

def incStatIf (condition : Bool) (stat : IngressStat) : Inbound :=
  if condition then inbound.incStat stat else inbound

def shot (stat : IngressStat) : Inbound × TcVerdict := (inbound.incStat stat, .shot)

def incXorError : RewriteError → Inbound
  | .store => inbound.incStat .xorStoreError
  | .checksumDiff => inbound.incStat .xorCsumError
  | .length => inbound.incStat .xorLenOverflow
  | .load => inbound.incStat .xorLoadError
  | _ => inbound.incStat .xorKeyMissing

def xorDispatchFail (stat : IngressStat) : Inbound × TcVerdict :=
  { inbound with skb := Tc.clearXorContext inbound.skb }.shot stat

def parseIcmpPacket (skb : Skb) (generation : UInt64) : ParseStatus × IcmpPacketInfo :=
  let data : Bytes := skb.data.take skb.linear
  match Tc.parseLink maps skb data generation with
  | (.ok, off, protocol) =>
    if protocol ≠ ethPIp then (.notUdp, {})
    else if off + iphdrSize > data.length then (.short, {})
    else
      let ihl := (data.byteAt off).toNat % 16 * 4
      if ihl < iphdrSize ∨ off + ihl > data.length then (.short, {})
      else if data.byteAt (off + 9) ≠ ipprotoIcmp then (.notUdp, {})
      else
        let frag := data.be16 (off + 6)
        let totalLen := data.be16 (off + 2)
        if frag &&& ipOffset ≠ 0 then (.ipv4NonFirstFragment, {})
        else if frag &&& ipMf ≠ 0 then (.ipv4FirstFragment, {})
        else if totalLen < ihl + Tc.icmphdrSize then (.short, {})
        else if off + ihl + Tc.icmphdrSize > data.length then (.short, {})
        else (.ok, {
          family := .ipv4
          ipOff := off
          icmpOff := off + ihl
          payloadOff := off + ihl + Tc.icmphdrSize
          payloadLen := totalLen - ihl - Tc.icmphdrSize
          srcIpv4 := data.le32 (off + 12)
          type := data.byteAt (off + ihl)
          code := data.byteAt (off + ihl + 1)
          id := UInt16.ofNat (data.be16 (off + ihl + 4))
          sequence := UInt16.ofNat (data.be16 (off + ihl + 6)) })
  | (status, _, _) => (status, {})

def icmpSeqKey (skb : Skb) (info : IcmpPacketInfo) (listener : IcmpListenerValue) : IcmpSeqKey :=
  ⟨listener.generation, info.srcIpv4, skb.ifindex, listener.wgId, info.id⟩

def rememberIcmpSequence (seqMap : IcmpSeqMap) (skb : Skb) (info : IcmpPacketInfo)
    (listener : IcmpListenerValue) : IcmpSeqMap :=
  fun key => if key = icmpSeqKey skb info listener then some ⟨listener.generation, info.sequence⟩ else seqMap key

/-- The identifier zero is no UDP port and travels as port one. -/
def sourcePort (info : IcmpPacketInfo) : UInt16 := if info.id = 0 then 1 else info.id

def rewriteIcmpToUdp (helpers : Helpers) (seqMap : IcmpSeqMap) (skb : Skb) (info : IcmpPacketInfo)
    (listener : IcmpListenerValue) (newWire : UInt32) : IcmpSeqMap × Except RewriteError Skb :=
  let udp : Bytes := Bytes.beBytes16 (sourcePort info).toNat ++ Bytes.beBytes16 listener.listenPort.toNat ++
    Bytes.beBytes16 ((info.payloadLen + udphdrSize) % 65536) ++ [0, 0]
  (if listener.role = .server ∧ info.type = Tc.icmpEcho then rememberIcmpSequence seqMap skb info listener
    else seqMap, do
    let skb ← (skb.storeBytes helpers info.payloadOff (typeWordBytes newWire)).elim (.error .store) .ok
    let skb ← (skb.storeBytes helpers info.icmpOff udp).elim (.error .store) .ok
    match Tc.updateIpv4Protocol helpers skb info.ipOff ipprotoIcmp ipprotoUdp with
    | .error .checksum => .error .checksumDiff
    | other => other)

/-- A miss on an entry for every identifier lets ordinary Echo traffic pass. -/
def icmpBadIngressAction (stat : IngressStat) (wildcardId : Bool) : Inbound × TcVerdict :=
  (inbound.incStat stat, if wildcardId then .ok else .shot)

def icmpErrorStat : RewriteError → IngressStat
  | .store => .skbStoreError
  | .checksumDiff => .icmpChecksumError
  | _ => .checksumError

/-- The Echo branch, from a matching listener on. -/
def icmpIngress (helpers : Helpers) (maps : PolicyMaps) (inbound : Inbound) (generation : UInt64)
    (info : IcmpPacketInfo) (listener : IcmpListenerValue) (wildcardId : Bool) : Inbound × TcVerdict :=
  let gsoSeen : Bool := inbound.skb.gsoSize ≠ 0
  let inbound := inbound.incStatIf gsoSeen .ingressGsoListenerHit
  if listener.action = .drop then (inbound, .shot)
  else if listener.action ≠ .rewrite then (inbound, .ok)
  else
    match maps.lookupProfile generation listener.profileId with
    | none => inbound.shot .ingressRuleMiss
    | some profile =>
      if info.payloadLen < 4 then inbound.icmpBadIngressAction .ingressBadLength wildcardId
      else
        match inbound.skb.loadBytes helpers info.payloadOff 4 with
        | none => inbound.shot .skbLoadError
        | some word =>
          match profile.decodeMixed (word.le32 0) with
          | none => inbound.icmpBadIngressAction .ingressBadType wildcardId
          | some (kind, standard) =>
            if validateLen kind info.payloadLen = false then
              inbound.icmpBadIngressAction .ingressBadLength wildcardId
            else
              match rewriteIcmpToUdp helpers inbound.icmpSeq inbound.skb info listener standard with
              | (icmpSeq, .error cause) => { inbound with icmpSeq }.shot (icmpErrorStat cause)
              | (icmpSeq, .ok skb) =>
                let inbound := ({ inbound with skb, icmpSeq }.incStat .ingressRewriteOk).incStat .icmpIngressRewriteOk
                (inbound.incStatIf gsoSeen .ingressGsoRewriteOk, .ok)

/-- `run_xor_ingress_segment`; the first word is already plain when it starts. -/
def runXorIngressSegment (helpers : IngressHelpers) (maps : PolicyMaps) :
    (tailCalls segment : Nat) → Inbound → Inbound × TcVerdict
  | tailCalls, segment, inbound =>
    match Tc.loadXorContext inbound.skb with
    | none => inbound.xorDispatchFail .xorIngressDispatchError
    | some context =>
      if context.checksumMode = .recompute then inbound.xorDispatchFail .xorIngressDispatchError
      else
        match maps.lookupCipher context.cipherId context.generation with
        | none => inbound.xorDispatchFail .xorKeyMissing
        | some cipher =>
          match Tc.xorSegmentFor helpers.toHelpers context.checksumMode inbound.skb cipher context.payloadOff
              context.target segment 4 with
          | .error cause =>
            ({ inbound with skb := Tc.clearXorContext inbound.skb }.incXorError cause, .shot)
          | .ok (skb, true) =>
            let inbound := { inbound with skb }
            let slot := Tc.xorProgramIndex context.generation (segment + 1)
            match tailCalls with
            | 0 => inbound.xorDispatchFail .xorIngressDispatchError
            | tailCalls + 1 =>
              if helpers.xorIngressPrograms slot then
                runXorIngressSegment helpers maps tailCalls (slot % Tc.xorSegmentCount) inbound
              else inbound.xorDispatchFail .xorIngressDispatchError
          | .ok (skb, false) =>
            let inbound := { inbound with skb := Tc.clearXorContext skb }.incStat .ingressRewriteOk
            ((inbound.incStat .xorIngressOk).incStatIf (skb.gsoSize ≠ 0) .ingressGsoRewriteOk, .ok)

/-- The target and the plain form of the first word; the cipher starts at the payload. -/
def loadXorIngressMetadata (info : PacketInfo) (wire cipherId : UInt32) (generation : UInt64) :
    Except RewriteError (Nat × UInt32) :=
  if info.payloadOff < udphdrSize then .error .length
  else
    match maps.lookupCipher cipherId generation with
    | none => .error .key
    | some cipher =>
      match cipher.payloadTarget info.payloadLen with
      | none => .error .length
      | some target => .ok (target, cipher.xorTypeWordCopy wire)

def xorChecksumMode (info : PacketInfo) : Tc.XorChecksum :=
  if info.family = .ipv4 ∧ info.ipv4UdpCsumZero then .none else .manual

/-- The cipher path: the ciphered word gives way to the standard one, the XOR programs do
the rest. -/
def xorIngress (info : PacketInfo) (cipherId : UInt32) (target : Nat) (encryptedWire newWire : UInt32) :
    Inbound × TcVerdict :=
  let skb := Tc.setXorContext inbound.skb generation cipherId info.payloadOff target (xorChecksumMode info)
  match Tc.updateTypeWord helpers.toHelpers skb info encryptedWire newWire false with
  | .error cause => { inbound with skb := Tc.clearXorContext skb }.shot
      (if cause = RewriteError.store then .xorStoreError else .checksumError)
  | .ok skb =>
    let inbound := { inbound with skb }
    let slot := Tc.xorProgramIndex generation 0
    if helpers.xorIngressPrograms slot then
      runXorIngressSegment helpers maps (Tc.maxTailCalls - 1) (slot % Tc.xorSegmentCount) inbound
    else inbound.xorDispatchFail .xorIngressDispatchError

def plainIngress (helpers : Helpers) (inbound : Inbound) (info : PacketInfo) (oldWire newWire : UInt32) :
    Inbound × TcVerdict :=
  match Tc.updateTypeWord helpers inbound.skb info oldWire newWire false with
  | .error .store => inbound.shot .skbStoreError
  | .error _ => inbound.shot .checksumError
  | .ok skb =>
    ({ inbound with skb }.incStat .ingressRewriteOk |>.incStatIf (inbound.skb.gsoSize ≠ 0) .ingressGsoRewriteOk, .ok)

/-- From an accepted listener on: plain form of the word, profile, length, rewrite. -/
def rewriteIngress (info : PacketInfo) (listener : IngressListenerValue) (profile : ProfileValue) :
    Inbound × TcVerdict :=
  match inbound.skb.loadBytes helpers.toHelpers info.payloadOff 4 with
  | none => inbound.shot .skbLoadError
  | some word =>
    match if listener.cipherId ≠ 0 then
        loadXorIngressMetadata maps info (word.le32 0) listener.cipherId generation
      else .ok (0, word.le32 0) with
    | .error cause => (inbound.incXorError cause, .shot)
    | .ok (target, oldWire) =>
      match profile.decodeMixed oldWire with
      | none => inbound.shot (if listener.cipherId ≠ 0 then .xorBadTypeAfterDecrypt else .ingressBadType)
      | some (kind, standard) =>
        if validateLen kind info.payloadLen = false then inbound.shot .ingressBadLength
        else if listener.cipherId ≠ 0 then
          xorIngress helpers maps inbound generation info listener.cipherId target (word.le32 0) standard
        else plainIngress helpers.toHelpers inbound info oldWire standard

/-- The UDP branch, from a matching listener on. -/
def listenerIngress (status : ParseStatus) (info : PacketInfo) (listener : IngressListenerValue) :
    Inbound × TcVerdict :=
  if listener.transportMode = .faketcp ∧ checks.any (fun checks => checks.revalidated inbound.skb info = false) then
    (inbound, .shot)
  else
    let inbound := inbound.incStatIf (inbound.skb.gsoSize ≠ 0) .ingressGsoListenerHit
    if status.isFragment then inbound.shot .ingressFragment
    else if status = .badCsum then inbound.shot .ingressBadChecksum
    else if status.isIpv6Ext then inbound.shot .ingressIpv6Ext
    else if status ≠ .ok then (inbound, .ok)
    else if listener.action = .drop then (inbound, .shot)
    else if listener.action ≠ .rewrite then (inbound, .ok)
    else
      match maps.lookupProfile generation listener.profileId with
      | none => inbound.shot .ingressRuleMiss
      | some profile =>
        if listener.transportMode = .faketcp ∧
            checks.any (fun checks => checks.consumed inbound.skb info listener profile = false) then (inbound, .shot)
        else rewriteIngress helpers maps inbound generation info listener profile

def udpIngress : Inbound × TcVerdict :=
  match Tc.parsePacket maps inbound.skb generation with
  | (status, info) =>
    if status.hasIngressPort = false then
      ((inbound.incStatIf status.isFragment .ingressFragment).incStatIf status.isIpv6Ext .ingressIpv6Ext, .ok)
    else
      match maps.lookupIngressListener inbound.skb.ifindex info.dstPort info.family generation with
      | none => (inbound.incStat .ingressRuleMiss, .ok)
      | some listener => listenerIngress checks helpers maps inbound generation status info listener

def wgMixIngress : Inbound × TcVerdict :=
  match maps.activeGeneration with
  | none => (inbound, .ok)
  | some generation =>
    let inbound := inbound.incStatIf (inbound.skb.gsoSize ≠ 0) .ingressGsoSeen
    match parseIcmpPacket maps inbound.skb generation with
    | (status, info) =>
      if status = .ok ∧ info.code = 0 ∧ (info.type = Tc.icmpEcho ∨ info.type = Tc.icmpEchoReply) then
        match maps.lookupIcmpListener inbound.skb.ifindex info.id info.type info.family generation with
        | none => (inbound, .ok)
        | some (listener, wildcardId) =>
          icmpIngress helpers.toHelpers maps inbound generation info listener wildcardId
      else udpIngress checks helpers maps inbound generation

end Inbound
end WgMix.Bpf
