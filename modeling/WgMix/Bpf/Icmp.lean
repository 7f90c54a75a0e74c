import WgMix.Bpf.Rewrite

/-! The conversion of a managed UDP datagram into an ICMP Echo message. -/
namespace WgMix.Bpf
open L3

structure IcmpSeqKey where
  generation : UInt64
  remoteIpv4 : UInt32
  underlayIndex : UInt32
  wgId : UInt32
  icmpId : UInt16
  deriving DecidableEq

structure IcmpSeqValue where
  generation : UInt64
  sequence : UInt16

abbrev IcmpSeqMap := IcmpSeqKey → Option IcmpSeqValue

namespace Tc

def icmpEchoReply : UInt8 := 0
def icmpEcho : UInt8 := 8
def maxIcmpCsumBytes : Nat := 256
def icmphdrSize : Nat := 8

def csumSubWord (sum word : Nat) : Nat := sum + (65535 - word)

def csumSubBytes (sum : Nat) (bytes : Bytes) : Nat :=
  csumSubWord (csumSubWord sum (bytes.be16 0)) (bytes.be16 2)

def csumAddBytes (sum : Nat) (bytes : Bytes) : Nat := sum + bytes.be16 0 + bytes.be16 2

/-- Whole chunks of the message while they fit, one fuel unit a chunk. -/
def icmpChunks (helpers : Helpers) (skb : Skb) (off len width : Nat) :
    (fuel processed sum : Nat) → Option (Nat × Nat)
  | 0, processed, sum => some (processed, sum)
  | fuel + 1, processed, sum =>
    if processed + width > len then some (processed, sum)
    else
      match skb.loadBytes helpers (off + processed) width with
      | none => none
      | some chunk =>
        match csumDiff [] chunk sum with
        | none => none
        | some sum => icmpChunks helpers skb off len width fuel (processed + width) sum

/-- The checksum in native order; only whole words up to 256 bytes. -/
def computeIcmpChecksumSmall (helpers : Helpers) (skb : Skb) (off len : Nat) : Option Nat :=
  if len = 0 ∨ len > maxIcmpCsumBytes ∨ len % 4 ≠ 0 then none
  else
    match icmpChunks helpers skb off len 16 16 0 0 with
    | none => none
    | some (processed, sum) =>
      match icmpChunks helpers skb off len 4 3 processed sum with
      | none => none
      | some (processed, sum) => if processed ≠ len then none else some (foldCsum sum)

/-- From the UDP checksum, by removing what the ICMP message does not cover; in
host order. -/
def deriveIcmpChecksumFromUdp (helpers : Helpers) (skb : Skb) (info : PacketInfo) (icmpType : UInt8)
    (icmpId icmpSequence : UInt16) (oldWire newWire : UInt32) : Option Nat := do
  let sum := csumSubWord (csumSubWord (csumSubWord 0 ipprotoUdp.toNat) info.srcPort.toNat) info.dstPort.toNat
  let sum := csumSubBytes sum (typeWordBytes oldWire)
  let sum := sum + icmpType.toNat * 256 + icmpId.toNat + icmpSequence.toNat
  let sum := csumAddBytes sum (typeWordBytes newWire)
  let check ← skb.loadBytes helpers (info.udpOff + 6) 2
  if check.be16 0 = 0 then none
  else
    let sum := csumSubWord sum (check.be16 0)
    let length ← skb.loadBytes helpers (info.udpOff + 4) 2
    let sum := csumSubWord (csumSubWord sum (length.be16 0)) (length.be16 0)
    let source ← skb.loadBytes helpers (info.ipOff + 12) 4
    let sum := csumSubBytes sum source
    let destination ← skb.loadBytes helpers (info.ipOff + 16) 4
    return foldCsum (csumSubBytes sum destination)

def lookupIcmpSequence (helpers : Helpers) (seqMap : IcmpSeqMap) (skb : Skb) (info : PacketInfo)
    (rule : EgressRuleValue) (icmpId : UInt16) : UInt16 :=
  match skb.loadBytes helpers (info.ipOff + 16) 4 with
  | none => 0
  | some remote =>
    match seqMap ⟨rule.generation, remote.le32 0, skb.ifindex, rule.wgId, icmpId⟩ with
    | none => 0
    | some value => if value.generation ≠ rule.generation then 0 else value.sequence

def updateIpv4Protocol (helpers : Helpers) (skb : Skb) (ipOff : Nat) (oldProto newProto : UInt8) :
    Except RewriteError Skb :=
  match skb.l3CsumReplace helpers (ipOff + 10) (oldProto.toNat * 256) (newProto.toNat * 256) with
  | none => .error .checksum
  | some skb =>
    match skb.storeBytes helpers (ipOff + 9) [newProto] with
    | none => .error .store
    | some skb => .ok skb

def icmpHeader (icmpType : UInt8) (checksum : Bytes) (icmpId icmpSequence : UInt16) : Bytes :=
  [icmpType, 0] ++ checksum ++ Bytes.beBytes16 icmpId.toNat ++ Bytes.beBytes16 icmpSequence.toNat

/-- Small messages are summed after the rewrite, larger ones derive their
checksum from the UDP one before it. -/
def rewriteUdpToIcmp (helpers : Helpers) (seqMap : IcmpSeqMap) (skb : Skb) (info : PacketInfo)
    (rule : EgressRuleValue) (oldWire newWire : UInt32) : Except RewriteError Skb := do
  let server : Bool := rule.icmpRole = .server
  let icmpId := if server ∧ info.dstPort ≠ 0 then info.dstPort else rule.icmpId
  let icmpType := if server then icmpEchoReply else icmpEcho
  let icmpSequence := if server then lookupIcmpSequence helpers seqMap skb info rule icmpId else 0
  let icmpLen := info.payloadLen + icmphdrSize
  let small : Bool := icmpLen ≤ maxIcmpCsumBytes
  if info.family ≠ .ipv4 then .error .checksum
  else
    let derived ← (if small then some [0, 0] else
      (deriveIcmpChecksumFromUdp helpers skb info icmpType icmpId icmpSequence oldWire newWire).map
        Bytes.beBytes16).elim (.error .checksumDiff) .ok
    let skb ← (skb.storeBytes helpers info.payloadOff (typeWordBytes newWire)).elim (.error .store) .ok
    let skb ← (skb.storeBytes helpers info.udpOff
      (icmpHeader icmpType derived icmpId icmpSequence)).elim (.error .store) .ok
    let skb ← match updateIpv4Protocol helpers skb info.ipOff ipprotoUdp ipprotoIcmp with
      | .error .checksum => .error .checksumDiff
      | other => other
    if small then
      let checksum ← (computeIcmpChecksumSmall helpers skb info.udpOff icmpLen).elim
        (.error .checksumDiff) .ok
      (skb.storeBytes helpers (info.udpOff + 2) (Bytes.leBytes 2 checksum)).elim (.error .store) .ok
    else .ok skb

end Tc
end WgMix.Bpf
