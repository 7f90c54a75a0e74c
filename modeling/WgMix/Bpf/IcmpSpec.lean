import WgMix.Bpf.EgressSpec
import WgMix.Foundation.Footprint

/-! The Echo message that the egress rewrite emits: what it carries, and for which datagrams
there is one. -/
namespace WgMix.Bpf
open L3

/-- An Echo Reply as it stands in a packet. -/
structure EchoReply (skb : Skb) (ipOff icmpOff : Nat) (id sequence : UInt16) : Prop where
  protocol : skb.data.byteAt (ipOff + 9) = ipprotoIcmp
  type : skb.data.byteAt icmpOff = Tc.icmpEchoReply
  code : skb.data.byteAt (icmpOff + 1) = 0
  id : skb.data.be16 (icmpOff + 4) = id.toNat
  sequence : skb.data.be16 (icmpOff + 6) = sequence.toNat

theorem EchoReply.unique {first second sequence other : UInt16} (one : EchoReply skb ipOff icmpOff first sequence)
    (two : EchoReply skb ipOff icmpOff second other) : first = second ∧ sequence = other :=
  ⟨UInt16.toNat_inj.mp (one.id.symm.trans two.id), UInt16.toNat_inj.mp (one.sequence.symm.trans two.sequence)⟩

/-- What the map answers for a key: a missing or outdated entry counts as zero. -/
def IcmpSeqMap.sequence (seqMap : IcmpSeqMap) (key : IcmpSeqKey) : UInt16 :=
  match seqMap key with
  | none => 0
  | some value => if value.generation ≠ key.generation then 0 else value.sequence

namespace Tc
variable {helpers : Helpers} {skb out : Skb} {info : PacketInfo} {rule : EgressRuleValue}

theorem updateIpv4Protocol_ok (done : updateIpv4Protocol helpers skb ipOff old new = .ok out) :
    Bytes.Confined (ipOff + 9) (ipOff + 12) skb.data out.data ∧ out.data.byteAt (ipOff + 9) = new := by
  rw [updateIpv4Protocol] at done
  split at done
  · contradiction
  · rename_i summed replaced
    split at done
    · contradiction
    · rename_i stored written
      cases done
      obtain ⟨fits, field, rfl⟩ := Skb.l3CsumReplace_some replaced
      obtain ⟨inside, rfl⟩ := Skb.storeBytes_eq written
      have sum : Bytes.Confined _ _ skb.data (skb.data.store (ipOff + 10) (Bytes.leBytes 2 field)) :=
        .store (by rw [Bytes.length_leBytes]; exact fits)
      have byte := Bytes.Confined.store inside
      rw [Bytes.length_leBytes] at sum
      refine ⟨(sum.mono (by omega) (by omega)).trans (byte.mono (Nat.le_refl _) ?_), ?_⟩
      · simp only [List.length_singleton]
        omega
      · exact Bytes.byteAt_store inside (Nat.zero_lt_one)

theorem updateIpv4Protocol_reliable (reliable : helpers.Reliable) (fits : ipOff + 12 ≤ skb.data.length) :
    ∃ out, updateIpv4Protocol helpers skb ipOff old new = .ok out := by
  have summed : ∃ field, skb.l3CsumReplace helpers (ipOff + 10) (old.toNat * 256) (new.toNat * 256) =
      some { skb with data := skb.data.store (ipOff + 10) (Bytes.leBytes 2 field) } := by
    rw [Skb.l3CsumReplace, reliable.sums, if_neg (by simpa using fits)]
    exact ⟨_, rfl⟩
  obtain ⟨field, summed⟩ := summed
  have kept : (skb.data.store (ipOff + 10) (Bytes.leBytes 2 field)).length = skb.data.length :=
    Bytes.length_store (by rw [Bytes.length_leBytes]; exact fits)
  rw [updateIpv4Protocol, summed]
  simp only
  rw [Skb.storeBytes_reliable reliable (by simp only [List.length_singleton, kept]; omega)]
  exact ⟨_, rfl⟩

/-- Chunks in bounds are summed until they run out or the next one would not fit. -/
theorem icmpChunks_total (reliable : helpers.Reliable) (fits : off + len ≤ skb.data.length)
    (whole : width % 4 = 0) (narrow : width ≤ 512) (fuel sum : Nat) (inside : processed ≤ len) :
    ∃ count total, icmpChunks helpers skb off len width fuel processed sum = some (processed + count * width, total) ∧
      processed + count * width ≤ len ∧ (count = fuel ∨ len < processed + count * width + width) := by
  induction fuel generalizing processed sum with
  | zero => exact ⟨0, sum, by rw [icmpChunks, Nat.zero_mul, Nat.add_zero], by omega, .inl rfl⟩
  | succ fuel ih =>
    by_cases ends : processed + width > len
    · exact ⟨0, sum, by rw [icmpChunks, if_pos ends, Nat.zero_mul, Nat.add_zero], by omega, .inr (by omega)⟩
    · have summed : ∃ next, csumDiff [] (skb.data.slice (off + processed) width) sum = some next := by
        rw [csumDiff, Bytes.length_slice (by omega), if_neg (by simp only [List.length_nil]; omega)]
        exact ⟨_, rfl⟩
      obtain ⟨next, summed⟩ := summed
      obtain ⟨count, total, rest, bounded, stops⟩ := ih next (by omega : processed + width ≤ len)
      have position : processed + (count + 1) * width = processed + width + count * width := by
        rw [Nat.add_mul, Nat.one_mul]
        omega
      refine ⟨count + 1, total, ?_, by omega, by omega⟩
      rw [icmpChunks, if_neg ends, Skb.loadBytes_reliable reliable (by omega)]
      simp only [summed, rest, position]

/-- The small sum exists for whole words. -/
theorem computeIcmpChecksumSmall_isSome (reliable : helpers.Reliable) (fits : off + len ≤ skb.data.length)
    (positive : 0 < len) (small : len ≤ maxIcmpCsumBytes) :
    (computeIcmpChecksumSmall helpers skb off len).isSome ↔ len % 4 = 0 := by
  rw [computeIcmpChecksumSmall]
  by_cases words : len % 4 = 0
  · obtain ⟨chunks, sum, first, bounded, stopped⟩ :=
      icmpChunks_total reliable fits (by decide : 16 % 4 = 0) (by decide) 16 0 (Nat.zero_le len)
    obtain ⟨rest, total, second, reached, ended⟩ :=
      icmpChunks_total reliable fits (by decide : 4 % 4 = 0) (by decide) 3 sum bounded
    have complete : 0 + chunks * 16 + rest * 4 = len := by
      rw [maxIcmpCsumBytes] at small
      omega
    rw [if_neg (by omega), first]
    simp only [second]
    rw [if_neg (not_not.mpr complete)]
    exact iff_of_true rfl words
  · rw [if_pos (.inr (.inr words))]
    exact iff_of_false Bool.false_ne_true words

/-- The derived sum exists for a datagram with a checksum. -/
theorem deriveIcmpChecksumFromUdp_isSome (reliable : helpers.Reliable) (behind : info.ipOff + iphdrSize ≤ info.udpOff)
    (fits : info.udpOff + udphdrSize ≤ skb.data.length) :
    (deriveIcmpChecksumFromUdp helpers skb info icmpType icmpId icmpSequence oldWire newWire).isSome ↔
      skb.data.be16 (info.udpOff + 6) ≠ 0 := by
  simp only [iphdrSize, udphdrSize] at behind fits
  simp only [deriveIcmpChecksumFromUdp]
  rw [Skb.loadBytes_reliable reliable (by omega), Skb.loadBytes_reliable reliable (by omega),
    Skb.loadBytes_reliable reliable (by omega), Skb.loadBytes_reliable reliable (by omega)]
  simp only [Option.bind_eq_bind, Option.bind_some]
  rw [Bytes.be16_slice (by decide : 0 + 1 < 2), Nat.add_zero]
  by_cases unchecked : skb.data.be16 (info.udpOff + 6) = 0
  · simp only [unchecked, if_true, Option.isSome_none, Bool.false_eq_true, ne_eq, not_true_eq_false]
  · simp only [unchecked, if_false, ne_eq, not_false_eq_true, iff_true]
    rfl

/-- The rewrite in three stages: the sum that the header starts with, the stores, and the sum
of a small message. -/
def startSum (helpers : Helpers) (skb : Skb) (info : PacketInfo) (icmpType : UInt8) (icmpId icmpSequence : UInt16)
    (oldWire newWire : UInt32) : Option Bytes :=
  if info.payloadLen + icmphdrSize ≤ maxIcmpCsumBytes then some [0, 0]
  else (deriveIcmpChecksumFromUdp helpers skb info icmpType icmpId icmpSequence oldWire newWire).map Bytes.beBytes16

def storeEcho (helpers : Helpers) (skb : Skb) (info : PacketInfo) (newWire : UInt32) (header : Bytes) :
    Except RewriteError Skb := do
  let skb ← (skb.storeBytes helpers info.payloadOff (typeWordBytes newWire)).elim (.error .store) .ok
  let skb ← (skb.storeBytes helpers info.udpOff header).elim (.error .store) .ok
  match updateIpv4Protocol helpers skb info.ipOff ipprotoUdp ipprotoIcmp with
  | .error .checksum => .error .checksumDiff
  | other => other

def finishSum (helpers : Helpers) (info : PacketInfo) (skb : Skb) : Except RewriteError Skb :=
  if info.payloadLen + icmphdrSize ≤ maxIcmpCsumBytes then do
    let checksum ← (computeIcmpChecksumSmall helpers skb info.udpOff (info.payloadLen + icmphdrSize)).elim
      (.error .checksumDiff) .ok
    (skb.storeBytes helpers (info.udpOff + 2) (Bytes.leBytes 2 checksum)).elim (.error .store) .ok
  else .ok skb

theorem length_startSum
    (started : startSum helpers skb info icmpType icmpId icmpSequence oldWire newWire = some sum) :
    sum.length = 2 := by
  rw [startSum] at started
  split at started
  · cases started
    rfl
  · obtain ⟨value, _, rfl⟩ := Option.map_eq_some_iff.mp started
    rfl

/-- For a server rule and a reply with a destination port. -/
theorem rewriteUdpToIcmp_stages (ipv4 : info.family = .ipv4) (server : rule.icmpRole = .server)
    (named : info.dstPort ≠ 0)
    (looked : lookupIcmpSequence helpers seqMap skb info rule info.dstPort = icmpSequence) :
    rewriteUdpToIcmp helpers seqMap skb info rule oldWire newWire =
      (startSum helpers skb info icmpEchoReply info.dstPort icmpSequence oldWire newWire).elim
        (.error .checksumDiff) .ok >>= fun derived =>
      storeEcho helpers skb info newWire (icmpHeader icmpEchoReply derived info.dstPort icmpSequence) >>=
        finishSum helpers info := by
  simp only [rewriteUdpToIcmp, ipv4, server, looked, decide_true, true_and, if_pos named, if_true, ne_eq,
    not_true_eq_false, if_false, decide_eq_true_eq, startSum, storeEcho, bind_assoc]
  congr
  funext derived
  congr
  funext typed
  congr
  funext headed
  cases updateIpv4Protocol helpers headed info.ipOff ipprotoUdp ipprotoIcmp with
  | error cause => cases cause <;> rfl
  | ok moved => rfl

theorem storeEcho_ok (behind : info.ipOff + iphdrSize ≤ info.udpOff)
    (done : storeEcho helpers skb info newWire header = .ok out) :
    out.data.byteAt (info.ipOff + 9) = ipprotoIcmp ∧ out.data.slice info.udpOff header.length = header := by
  obtain ⟨typed, _, done⟩ := bind_ok done
  obtain ⟨headed, stored, done⟩ := bind_ok done
  obtain ⟨fits, rfl⟩ := Skb.storeBytes_eq (elim_ok stored)
  cases protocol : updateIpv4Protocol helpers { typed with data := typed.data.store info.udpOff header }
      info.ipOff ipprotoUdp ipprotoIcmp with
  | error cause =>
    rw [protocol] at done
    cases cause <;> contradiction
  | ok moved =>
    rw [protocol] at done
    cases done
    obtain ⟨confined, byte⟩ := updateIpv4Protocol_ok protocol
    refine ⟨byte, ?_⟩
    rw [iphdrSize] at behind
    rw [confined.slice (by omega)]
    exact Bytes.slice_store fits

theorem storeEcho_reliable (reliable : helpers.Reliable) (behind : info.ipOff + iphdrSize ≤ info.udpOff)
    (fits : info.payloadOff + 4 ≤ skb.data.length) (within : info.udpOff + header.length ≤ skb.data.length) :
    ∃ out, storeEcho helpers skb info newWire header = .ok out ∧ out.data.length = skb.data.length := by
  have first : info.payloadOff + (typeWordBytes newWire).length ≤ skb.data.length := by
    rw [length_typeWordBytes]
    exact fits
  have kept := Bytes.length_store first
  have second : info.udpOff + header.length ≤ (skb.data.store info.payloadOff (typeWordBytes newWire)).length := by
    omega
  have keptHeader := Bytes.length_store second
  let headed : Skb :=
    { skb with data := (skb.data.store info.payloadOff (typeWordBytes newWire)).store info.udpOff header }
  have reaches : info.ipOff + 12 ≤ headed.data.length := by
    rw [iphdrSize] at behind
    simp only [headed]
    omega
  obtain ⟨moved, protocol⟩ :
      ∃ moved, updateIpv4Protocol helpers headed info.ipOff ipprotoUdp ipprotoIcmp = .ok moved :=
    updateIpv4Protocol_reliable reliable reaches
  refine ⟨moved, ?_, ?_⟩
  · rw [storeEcho, Skb.storeBytes_reliable reliable first]
    simp only [Option.elim_some, bind, Except.bind]
    rw [Skb.storeBytes_reliable reliable second]
    simp only [Option.elim_some]
    rw [protocol]
  · rw [(updateIpv4Protocol_ok protocol).1.length]
    exact keptHeader.trans kept

theorem finishSum_ok (done : finishSum helpers info skb = .ok out) :
    Bytes.Confined (info.udpOff + 2) (info.udpOff + 4) skb.data out.data := by
  rw [finishSum] at done
  split at done
  · obtain ⟨checksum, _, done⟩ := bind_ok done
    obtain ⟨fits, rfl⟩ := Skb.storeBytes_eq (elim_ok done)
    have stored := Bytes.Confined.store fits
    rwa [Bytes.length_leBytes] at stored
  · cases done
    exact .refl _ _ _

theorem length_icmpHeader (sized : checksum.length = 2) :
    (icmpHeader icmpType checksum icmpId icmpSequence).length = 8 := by
  simp only [icmpHeader, Bytes.beBytes16, List.length_append, sized, List.length_cons, List.length_nil]

/-- The fields around the sum read back. -/
theorem icmpHeader_fields (sized : checksum.length = 2) :
    let header := icmpHeader icmpType checksum icmpId icmpSequence
    Bytes.byteAt header 0 = icmpType ∧ Bytes.byteAt header 1 = 0 ∧ Bytes.be16 header 4 = icmpId.toNat ∧
      Bytes.be16 header 6 = icmpSequence.toNat := by
  obtain ⟨first, second, rfl⟩ := List.length_eq_two.mp sized
  refine ⟨rfl, rfl, ?_, ?_⟩
  · exact Bytes.be16_beBytes16 icmpId.toNat_lt (Bytes.beBytes16 icmpSequence.toNat)
  · exact Bytes.be16_beBytes16 icmpSequence.toNat_lt []

/-- A server rule answers under the identifier that the destination port carries. -/
theorem rewriteUdpToIcmp_reply (ipv4 : info.family = .ipv4) (server : rule.icmpRole = .server)
    (named : info.dstPort ≠ 0) (behind : info.ipOff + iphdrSize ≤ info.udpOff)
    (done : rewriteUdpToIcmp helpers seqMap skb info rule oldWire newWire = .ok out) :
    EchoReply out info.ipOff info.udpOff info.dstPort
      (lookupIcmpSequence helpers seqMap skb info rule info.dstPort) := by
  rw [rewriteUdpToIcmp_stages ipv4 server named rfl] at done
  obtain ⟨derived, started, done⟩ := bind_ok done
  obtain ⟨moved, stored, finished⟩ := bind_ok done
  have sized := length_startSum (elim_ok started)
  obtain ⟨protocol, header⟩ := storeEcho_ok behind stored
  obtain ⟨type, code, id, sequence⟩ := icmpHeader_fields sized
  rw [length_icmpHeader sized] at header
  have confined := finishSum_ok finished
  rw [iphdrSize] at behind
  rw [← header] at type code id sequence
  rw [Bytes.byteAt_slice (by decide)] at type code
  rw [Bytes.be16_slice (by decide)] at id sequence
  exact {
    protocol := (confined.byteAt (by omega)).trans protocol
    type := (confined.byteAt (by omega)).trans type
    code := (confined.byteAt (by omega)).trans code
    id := (confined.be16 (by omega)).trans id
    sequence := (confined.be16 (by omega)).trans sequence }

/-- Whether the sum of the Echo message can be had: a small one is summed in whole words, a
larger one is derived from a UDP checksum. -/
def Summable (skb : Skb) (info : PacketInfo) : Prop :=
  if info.payloadLen + icmphdrSize ≤ maxIcmpCsumBytes then info.payloadLen % 4 = 0
  else skb.data.be16 (info.udpOff + 6) ≠ 0

instance : Decidable (Summable skb info) :=
  inferInstanceAs (Decidable (if info.payloadLen + icmphdrSize ≤ maxIcmpCsumBytes then info.payloadLen % 4 = 0
    else skb.data.be16 (info.udpOff + 6) ≠ 0))

theorem finishSum_small (reliable : helpers.Reliable) (fits : info.udpOff + (info.payloadLen + 8) ≤ skb.data.length)
    (small : info.payloadLen + icmphdrSize ≤ maxIcmpCsumBytes) :
    (∃ out, finishSum helpers info skb = .ok out) ↔ info.payloadLen % 4 = 0 := by
  have summed := computeIcmpChecksumSmall_isSome reliable fits (Nat.succ_pos _) small
  have words : (info.payloadLen + 8) % 4 = 0 ↔ info.payloadLen % 4 = 0 := by omega
  rw [← words, ← summed, finishSum, if_pos small, icmphdrSize]
  cases computeIcmpChecksumSmall helpers skb info.udpOff (info.payloadLen + 8) with
  | none => exact iff_of_false (fun ⟨_, done⟩ => by cases done) Bool.false_ne_true
  | some checksum =>
    refine iff_of_true ?_ rfl
    simp only [Option.elim_some, bind, Except.bind]
    rw [Skb.storeBytes_reliable reliable (by rw [Bytes.length_leBytes]; omega)]
    exact ⟨_, rfl⟩

/-- Whatever else it meets, the rewrite fails only for want of a sum. -/
theorem rewriteUdpToIcmp_ok_iff (reliable : helpers.Reliable) (ipv4 : info.family = .ipv4)
    (server : rule.icmpRole = .server) (named : info.dstPort ≠ 0) (whole : Whole length info)
    (behind : info.ipOff + iphdrSize ≤ info.udpOff) (fits : info.payloadOff + info.payloadLen ≤ skb.data.length) :
    (∃ out, rewriteUdpToIcmp helpers seqMap skb info rule oldWire newWire = .ok out) ↔ Summable skb info := by
  obtain ⟨placed, word⟩ := whole
  rw [rewriteUdpToIcmp_stages ipv4 server named rfl]
  generalize lookupIcmpSequence helpers seqMap skb info rule info.dstPort = icmpSequence
  have stores (sum : Bytes) (sized : sum.length = 2) :
      ∃ moved, storeEcho helpers skb info newWire (icmpHeader icmpEchoReply sum info.dstPort icmpSequence) =
        .ok moved ∧ moved.data.length = skb.data.length := by
    refine storeEcho_reliable reliable behind (by omega) ?_
    rw [length_icmpHeader sized]
    rw [udphdrSize] at placed
    omega
  rw [udphdrSize] at placed
  by_cases small : info.payloadLen + icmphdrSize ≤ maxIcmpCsumBytes
  · obtain ⟨moved, stored, kept⟩ := stores [0, 0] rfl
    simp only [startSum, Summable, if_pos small, Option.elim_some, bind, Except.bind, stored]
    exact finishSum_small reliable (by omega) small
  · have within : info.udpOff + udphdrSize ≤ skb.data.length := by
      rw [udphdrSize]
      omega
    have derives : (deriveIcmpChecksumFromUdp helpers skb info icmpEchoReply info.dstPort icmpSequence oldWire
        newWire).isSome ↔ skb.data.be16 (info.udpOff + 6) ≠ 0 :=
      deriveIcmpChecksumFromUdp_isSome reliable behind within
    rw [Summable, if_neg small, ← derives, startSum, if_neg small]
    cases deriveIcmpChecksumFromUdp helpers skb info icmpEchoReply info.dstPort icmpSequence oldWire newWire with
    | none =>
      refine iff_of_false ?_ Bool.false_ne_true
      rintro ⟨_, done⟩
      cases done
    | some sum =>
      obtain ⟨moved, stored, _⟩ := stores (Bytes.beBytes16 sum) rfl
      refine iff_of_true ⟨moved, ?_⟩ rfl
      simp only [Option.map_some, Option.elim_some, bind, Except.bind, stored, finishSum, if_neg small]

theorem lookupIcmpSequence_reliable (reliable : helpers.Reliable) (fits : info.ipOff + iphdrSize ≤ skb.data.length) :
    lookupIcmpSequence helpers seqMap skb info rule icmpId = seqMap.sequence
      ⟨rule.generation, skb.data.le32 (info.ipOff + 16), skb.ifindex, rule.wgId, icmpId⟩ := by
  rw [iphdrSize] at fits
  rw [lookupIcmpSequence, Skb.loadBytes_reliable reliable (by omega)]
  dsimp only
  rw [Bytes.le32_slice (by decide), Nat.add_zero]
  rfl

end Tc
end WgMix.Bpf
