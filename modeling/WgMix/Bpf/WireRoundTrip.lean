import WgMix.Bpf.EncoderSpec

/-! The round trip between two hosts: what the encoder of one puts on the wire, the
transform of the other turns back into the same datagram with completed checksums. -/
namespace WgMix.Bpf
open L3 OnesComplement

/-- The receiver's test of a fixed IPv4 header. -/
def headerValid (packet : Bytes) : Prop := fold (wordSum (packet.take iphdrSize)) = 65535

/-- The two packets differ in their checksum fields only. -/
structure SameDatagram (decoded sent : Bytes) : Prop where
  length : decoded.length = sent.length
  ipFields : decoded.take 10 = sent.take 10
  addressesAndUdp : decoded.slice 12 14 = sent.slice 12 14
  payload : decoded.drop 28 = sent.drop 28

namespace WireRoundTrip
variable {first firstCheck middle secondCheck payload otherFirst otherSecond : Bytes}

/-- Packets that agree around two checksum fields. -/
theorem same_of_cut (firstLen : first.length = 10) (checkLen : firstCheck.length = 2)
    (middleLen : middle.length = 14) (secondLen : secondCheck.length = 2) (otherLen : otherFirst.length = 2)
    (lastLen : otherSecond.length = 2) :
    SameDatagram (first ++ (firstCheck ++ (middle ++ (secondCheck ++ payload))))
      (first ++ (otherFirst ++ (middle ++ (otherSecond ++ payload)))) := by
  have middleAt {one two : Bytes} (oneLen : one.length = 2) :
      (first ++ (one ++ (middle ++ (two ++ payload)))).slice 12 14 = middle := by
    rw [Bytes.slice_skip (by rw [firstLen]; omega), firstLen, Bytes.slice_skip (by rw [oneLen]), oneLen,
      Bytes.slice_here middleLen]
  have payloadAt {one two : Bytes} (oneLen : one.length = 2) (twoLen : two.length = 2) :
      (first ++ (one ++ (middle ++ (two ++ payload)))).drop 28 = payload := by
    have front : (first ++ (one ++ (middle ++ two))).length = 28 := by
      simp only [List.length_append, firstLen, oneLen, middleLen, twoLen]
    have whole : first ++ (one ++ (middle ++ (two ++ payload))) =
        (first ++ (one ++ (middle ++ two))) ++ payload := by
      simp only [List.append_assoc]
    rw [whole, ← front, List.drop_left]
  constructor
  · simp only [List.length_append, checkLen, secondLen, otherLen, lastLen]
  · rw [← firstLen, List.take_left, List.take_left]
  · rw [middleAt checkLen, middleAt otherLen]
  · rw [payloadAt checkLen secondLen, payloadAt otherLen lastLen]

end WireRoundTrip

namespace Datagram
variable (datagram : Datagram)

/-- The packet that enters the encoder, with its lengths filled in. -/
theorem packet_bytes (declared : datagram.total = Bytes.beBytes16 (28 + datagram.payloadLen))
    (bounded : 28 + datagram.payloadLen < 65536) :
    ipv4Packet datagram.bytes datagram.link.length =
      datagram.ip ++ (datagram.udp ++ (datagram.head ++ datagram.body)) := by
  have sized : (datagram.ip ++ (datagram.udp ++ (datagram.head ++ datagram.body))).length =
      28 + datagram.payloadLen := by
    simp only [List.length_append, datagram.length_ip, datagram.length_udp, datagram.head_length, payloadLen]
    omega
  have total : datagram.bytes.be16 (datagram.link.length + 2) = 28 + datagram.payloadLen := by
    rw [bytes, Bytes.be16_skip (Nat.le_add_right _ _), Nat.add_sub_cancel_left, ip, WireFrame.ipWith,
      List.append_assoc, Bytes.be16_skip (by rw [datagram.vtos_length]), datagram.vtos_length, declared,
      List.append_assoc, Bytes.be16_beBytes16 bounded]
  rw [ipv4Packet, total, bytes, Bytes.slice_skip (Nat.le_refl _), Nat.sub_self, Bytes.slice_all sized]

theorem protocol_of_byte {protocol : UInt8} (read : datagram.bytes.byteAt (datagram.link.length + 9) = protocol) :
    datagram.protocol = [protocol] := by
  obtain ⟨byte, single⟩ := List.length_eq_one_iff.mp datagram.protocol_length
  rw [bytes, Bytes.byteAt_skip (Nat.le_add_right _ _), Nat.add_sub_cancel_left, ip, single,
    WireFrame.byteAt_protocol datagram.vtos_length datagram.total_length datagram.ident_length] at read
  rw [single, read]

end Datagram

namespace WireFrame
variable (wire : WireFrame)

theorem residue_decodedIpWith (newTotalLen : Nat) {field : Bytes} (sized : field.length = 2) :
    residue (wire.decodedIpWith newTotalLen field) =
      residue (wire.decodedIpWith newTotalLen [0, 0]) + residue field := by
  let front := wire.vtos ++ (Bytes.beBytes16 newTotalLen ++ (wire.ident ++ [ipprotoUdp]))
  have even : front.length % 2 = 0 := by
    simp only [front, List.length_append, wire.vtos_length, wire.ident_length, Bytes.beBytes16,
      List.length_cons, List.length_nil]
  have cut {piece : Bytes} (whole : piece.length % 2 = 0) : residue (wire.decodedIpWith newTotalLen piece) =
      residue front + (residue piece + residue wire.addresses) := by
    rw [← residue_append whole, ← residue_append even]
    simp only [front, decodedIpWith, ipWith, List.append_assoc]
  have cleared : residue [0, 0] = 0 := rfl
  rw [cut (by rw [sized]), cut (by simp), cleared]
  ring

/-- The header checksum that the transform computes completes the header. -/
theorem decodedIp_valid {newTotalLen : Nat}
    (summed : csumDiff [] (wire.decodedIpWith newTotalLen [0, 0]) 0 = some sum)
    (fixed : wire.vtos.byteAt 0 ≠ 0) :
    fold (wordSum (wire.decodedIpWith newTotalLen (Bytes.leBytes 2 (foldCsum sum)))) = 65535 := by
  let header := wire.decodedIpWith newTotalLen (Bytes.leBytes 2 (foldCsum sum))
  have sized : header.length = 20 := wire.length_decodedIpWith (Bytes.length_leBytes _ _)
  have bounded : wordSum header < 2 ^ 32 := by
    have most := wordSum_le header
    rw [sized] at most
    omega
  have positive : 0 < wordSum header := by
    obtain ⟨version, tos, vtos⟩ := List.length_eq_two.mp wire.vtos_length
    rw [vtos] at fixed
    have nonzero : version.toNat ≠ 0 := fun zero => fixed (UInt8.toNat_inj.mp zero)
    simp only [header, decodedIpWith, ipWith, vtos, List.cons_append, List.nil_append, wordSum]
    omega
  apply fold_eq_ones bounded positive
  have balanced : residue header = 0 := by
    have wrap : (256 * 256 : ZMod 65535) = 1 := rfl
    have residueSum := csumDiff_residue summed
    simp only [header]
    rw [wire.residue_decodedIpWith _ (Bytes.length_leBytes _ _), residue_leBytes (foldCsum_lt sum),
      cast_foldCsum (csumDiff_lt summed (by decide)), residueSum]
    have empty : residue [] = 0 := rfl
    rw [empty]
    push_cast
    linear_combination -residue (wire.decodedIpWith newTotalLen [0, 0]) * wrap
  rwa [residue, ZMod.natCast_eq_zero_iff, Nat.dvd_iff_mod_eq_zero] at balanced

end WireFrame

namespace Xdp
variable {build : Build} {ctx : Context} {headers : Envelope} {l3 : L3Info}

/-- Headers loaded from an emitted frame are cut as the transform expects. -/
theorem received_of_encodes {datagram : Datagram} {wire : WireFrame} (encodes : Encoder.Encodes datagram wire)
    (small : datagram.payloadLen ≤ 2276) (frame : ctx.frame = wire.bytes) (start : l3.l3Off = wire.link.length)
    (transport : l3.l4Off = wire.link.length + 20)
    (loaded : loadEnvelope build ctx.frame l3.l3Off = some headers.bytes)
    (policy : IngressListenerValue) (generation : UInt64) :
    Received build ctx headers l3 (admissionOf ctx headers policy generation) wire ∧
      wire.bytes.be16 (wire.link.length + 2) = wire.totalLen := by
  have delta : headerDelta = 12 := rfl
  have payloadEq : wire.payloadLen = datagram.payloadLen := by
    rw [WireFrame.payloadLen, encodes.rest, Datagram.payloadLen, Nat.add_comm]
  have totalEq : wire.totalLen = 40 + wire.payloadLen := rfl
  have declared : wire.bytes.be16 (wire.link.length + 2) = wire.totalLen := by
    rw [WireFrame.bytes, Bytes.be16_skip (Nat.le_add_right _ _), Nat.add_sub_cancel_left, WireFrame.ip,
      WireFrame.ipWith, List.append_assoc, Bytes.be16_skip (by rw [wire.vtos_length]), wire.vtos_length,
      encodes.total, List.append_assoc, Bytes.be16_beBytes16 (by omega)]
  rw [loadEnvelope] at loaded
  split at loaded
  · cases loaded
  rename_i offsets
  split at loaded
  · cases loaded
  have envelope : headers.bytes = wire.ip ++ wire.tcp := by
    have cutLen : (wire.ip ++ wire.tcp).length = iphdrSize + tcphdrSize := by
      rw [List.length_append, wire.length_ip, wire.length_tcp]
      rfl
    rw [← Option.some.inj loaded, frame, start, WireFrame.bytes, Bytes.slice_skip (Nat.le_refl _), Nat.sub_self,
      ← List.append_assoc, Bytes.slice_here cutLen]
  have headerTotal : headers.totalLen = wire.totalLen := by
    rw [Envelope.totalLen, envelope, ← declared, WireFrame.bytes, Bytes.be16_skip (Nat.le_add_right _ _),
      Nat.add_sub_cancel_left, Bytes.be16_here (by rw [wire.length_ip]; omega),
      Bytes.be16_here (by rw [wire.length_ip]; omega)]
  refine ⟨⟨frame, start, transport, envelope, ?_, headerTotal, ?_⟩, declared⟩
  · show headers.totalLen - 20 - 20 = wire.payloadLen
    omega
  · intro legacy
    have sizes : ethhdrSize = 14 ∧ vlanSize = 4 ∧ maxIpv4TotalLen = 2304 := ⟨rfl, rfl, rfl⟩
    simp only [not_and, Decidable.not_not] at offsets
    have known := offsets legacy
    by_contra outside
    omega

end Xdp

/-- A datagram that the encoder sends is what the peer's transform restores: every
IPv4 field, the ports, the length and the payload are those of the input, and both
checksums are complete. -/
theorem wire_round_trip (helpers : EncodeHelpers) (env : Env) (kernel after : Kernel) (tc sent : Tc)
    (info : PacketInfo) (generation : UInt64) (key : SessionKey) (authority : SessionAuthority)
    (projection : SessionProjection)
    (encoded : Encoder.encodeEstablishedAuthorized helpers env kernel tc info generation key authority projection =
      (after, sent, .ok))
    (fixed : tc.skb.data.byteAt info.ipOff = 0x45) (udp : tc.skb.data.byteAt (info.ipOff + 9) = ipprotoUdp)
    (build : Build) (peer : Kernel) (peerEnv : Env) (ctx : Xdp.Context) (headers : Xdp.Envelope) (l3 : L3Info)
    (policy : IngressListenerValue) (peerGeneration : UInt64) (session : SessionSnapshot)
    (frame : ctx.frame = sent.skb.data) (start : l3.l3Off = info.ipOff) (transport : l3.l4Off = info.udpOff)
    (loaded : Xdp.loadEnvelope build ctx.frame l3.l3Off = some headers.bytes)
    (opened : peerEnv.adjustMeta = true) :
    let outcome := Xdp.transformBranch build peer peerEnv ctx headers l3 peerGeneration
      (Xdp.admissionOf ctx headers policy peerGeneration) session
    let decoded := ipv4Packet outcome.frame l3.l3Off
    SameDatagram decoded (ipv4Packet tc.skb.data info.ipOff) ∧ headerValid decoded ∧
      decoded.slice 26 2 ≠ [0, 0] ∧ transportVerifies decoded := by
  intro outcome decoded
  have delta : headerDelta = 12 := rfl
  obtain ⟨datagram, wire, dataEq, ipOff, udpOff, total, udpTail, small, sentEq, encodes⟩ :=
    Encoder.encode_spec encoded
  obtain ⟨received, declared⟩ := Xdp.received_of_encodes encodes small (frame.trans sentEq)
    (by rw [start, ipOff, encodes.link]) (by rw [transport, udpOff, encodes.link]) loaded policy peerGeneration
  have payloadEq : wire.payloadLen = datagram.payloadLen := by
    rw [WireFrame.payloadLen, encodes.rest, Datagram.payloadLen, Nat.add_comm]
  have totalLen : wire.totalLen = 40 + wire.payloadLen := rfl
  obtain ⟨sum, check, summed, checkLt, nonzero, packet, _⟩ :=
    received.decoded peer peerEnv peerGeneration session opened (by omega)
  -- the decoded and the sent packet, cut at their checksum fields
  let first := datagram.vtos ++ (datagram.total ++ (datagram.ident ++ [ipprotoUdp]))
  let middle := datagram.addresses ++ (datagram.ports ++ datagram.udpTail.take 2)
  let payload := datagram.head ++ datagram.body
  have udpTailLen : (datagram.udpTail.take 2).length = 2 ∧ (datagram.udpTail.drop 2).length = 2 := by
    rw [List.length_take, List.length_drop, datagram.udpTail_length]
    exact ⟨rfl, rfl⟩
  have firstLen : first.length = 10 := by
    simp only [first, List.length_append, datagram.vtos_length, datagram.total_length, datagram.ident_length,
      List.length_singleton]
  have middleLen : middle.length = 14 := by
    simp only [middle, List.length_append, datagram.addresses_length, datagram.ports_length, udpTailLen.1]
  have headerEq : decoded.take 20 =
      wire.decodedIpWith (wire.totalLen - headerDelta) (Bytes.leBytes 2 (foldCsum sum)) := by
    have sized : (wire.decodedIpWith (wire.totalLen - headerDelta) (Bytes.leBytes 2 (foldCsum sum))).length = 20 :=
      wire.length_decodedIpWith (Bytes.length_leBytes _ _)
    simp only [decoded, outcome]
    rw [packet, ← sized, List.take_left]
  have decodedEq : decoded = first ++ (Bytes.leBytes 2 (foldCsum sum) ++ (middle ++
      (Bytes.leBytes 2 check ++ payload))) := by
    have newTotal : Bytes.beBytes16 (wire.totalLen - headerDelta) = datagram.total := by
      rw [total, totalLen, payloadEq]
      congr 1
      omega
    have newLength : Bytes.beBytes16 (wire.payloadLen + udphdrSize) = datagram.udpTail.take 2 := by
      rw [udpTail, payloadEq]
      rfl
    rw [WireFrame.decodedIpWith, WireFrame.udpWith, WireFrame.ipWith, newTotal, newLength, encodes.vtos,
      encodes.ident, encodes.addresses, encodes.ports, encodes.tail, encodes.rest] at packet
    simp only [first, middle, payload, List.append_assoc]
    simpa only [List.append_assoc] using packet
  have protocolEq : datagram.protocol = [ipprotoUdp] := by
    rw [dataEq, ipOff] at udp
    exact datagram.protocol_of_byte udp
  have inputEq : ipv4Packet tc.skb.data info.ipOff = first ++ (datagram.ipCheck ++ (middle ++
      (datagram.udpTail.drop 2 ++ payload))) := by
    rw [dataEq, ipOff, datagram.packet_bytes total (by omega), Datagram.ip, WireFrame.ipWith, protocolEq,
      Datagram.udp]
    simp only [first, middle, payload, List.append_assoc]
    rw [← List.append_assoc (datagram.udpTail.take 2), List.take_append_drop]
  refine ⟨?_, ?_, ?_, ?_⟩
  · rw [decodedEq, inputEq]
    exact WireRoundTrip.same_of_cut firstLen (Bytes.length_leBytes _ _) middleLen (Bytes.length_leBytes _ _)
      datagram.ipCheck_length udpTailLen.2
  · rw [headerValid, iphdrSize, headerEq]
    apply wire.decodedIp_valid summed
    have version := fixed
    rw [dataEq, ipOff, Datagram.bytes, Bytes.byteAt_skip (Nat.le_refl _), Nat.sub_self, Datagram.ip,
      WireFrame.ipWith, List.append_assoc, Bytes.byteAt_here (by rw [datagram.vtos_length]; omega)] at version
    rw [encodes.vtos, version]
    decide
  · rw [decodedEq, Bytes.slice_skip (by rw [firstLen]; omega), firstLen,
      Bytes.slice_skip (by rw [Bytes.length_leBytes]; omega), Bytes.length_leBytes,
      Bytes.slice_skip (by rw [middleLen]), middleLen, Bytes.slice_here (Bytes.length_leBytes _ _)]
    intro zero
    have value := Bytes.leNat_leBytes 2 check
    rw [zero, Nat.mod_eq_of_lt (show check < 256 ^ 2 from checkLt)] at value
    exact nonzero value.symm
  · have verified := (received.keeps_verification encodes.protocol declared (by
      rw [totalLen, payloadEq]
      show _ ≤ 2316
      omega) peer peerEnv peerGeneration session opened).2.2
    apply verified.mpr
    have before := wire.packet_bytes declared
    rw [← received.start, ← received.frame, WireFrame.ip, encodes.protocol] at before
    have lengths : (wire.tcp ++ (wire.rest ++ wire.tail)).length = tcphdrSize + wire.payloadLen := by
      simp only [List.length_append, wire.length_tcp, wire.tail_length]
      rfl
    rw [before, WireFrame.verifies_iff wire.vtos_length wire.total_length wire.ident_length wire.ipCheck_length
      wire.addresses_length, lengths, residue_append (by rw [wire.length_tcp]), ← add_assoc]
    exact encodes.closed

section Example

/-- The sender's end of the session that `Xdp.sampleKernel` holds. -/
def senderKey : SessionKey :=
  ⟨7, 0x096433c6, 0x010200c0, 3, 40000, 51820, 1, FixedBytes.zero 4⟩

def senderSession : SessionValue :=
  { generation := 7, lastSeenNanos := 0, txSequence := 1, rxSequence := 100, localIsn := 0, remoteIsn := 99,
    window := 65535, state := .established, revision := 1, sessionId := 9,
    runtimeIncarnation := Xdp.sampleIncarnation }

def senderKernel : Kernel where
  sessions key := if key = senderKey then some senderSession else none

/-- A data message of 33 bytes in an Ethernet frame, without a UDP checksum. -/
def senderTc : Tc where
  skb := {
    data := [2, 0, 0, 0, 0, 2, 2, 0, 0, 0, 0, 1, 0x08, 0x00] ++
      [0x45, 0, 0, 61, 0, 1, 0x40, 0, 64, 17, 0x4e, 0x71, 198, 51, 100, 9, 192, 0, 2, 1] ++
      [0x9c, 0x40, 0xca, 0x6c, 0, 41, 0, 0] ++ [0xdd, 0x44, 0, 0, 9, 9, 9, 9, 1, 2, 3, 4] ++ List.replicate 21 7
    linear := 75, protocol := ethPIp, mark := 0, ifindex := 3 }

def senderInfo : PacketInfo :=
  { family := .ipv4, ipOff := 14, udpOff := 34, payloadOff := 42, payloadLen := 33, srcPort := 40000,
    dstPort := 51820, ipv4UdpCsumZero := true }

def senderEncoded : Kernel × Tc × TcVerdict :=
  Encoder.encodeEstablishedAuthorized {} { now := 1000 } senderKernel senderTc senderInfo 7 senderKey
    senderSession.authority senderSession.projection

def peerContext : Xdp.Context := ⟨senderEncoded.2.1.skb.data, 2⟩
def peerHeaders : Xdp.Envelope := ⟨peerContext.frame.slice 14 40⟩
def peerL3 : L3Info := (parseL3 peerContext.frame peerContext.frame.length 14 .ipv4).2
def peerPolicy : IngressListenerValue := ⟨7, 1, 1, 0, .rewrite, .faketcp⟩

/-- What the peer restores in the session it holds. -/
def peerPacket (session : SessionSnapshot) : Bytes :=
  ipv4Packet (Xdp.transformBranch .default Xdp.sampleKernel { now := 2000 } peerContext peerHeaders peerL3 7
    (Xdp.admissionOf peerContext peerHeaders peerPolicy 7) session).frame peerL3.l3Off

end Example

/-- A datagram sent in one session and restored by the peer. -/
theorem sample_wire_round_trip :
    senderEncoded.2.2 = .ok ∧ ∀ session, SameDatagram (peerPacket session) (ipv4Packet senderTc.skb.data 14) ∧
      headerValid (peerPacket session) ∧ (peerPacket session).slice 26 2 ≠ [0, 0] ∧
      transportVerifies (peerPacket session) := by
  have encoded : senderEncoded.2.2 = .ok := by decide +kernel
  refine ⟨encoded, fun session => ?_⟩
  exact wire_round_trip {} { now := 1000 } senderKernel senderEncoded.1 senderTc senderEncoded.2.1 senderInfo 7
    senderKey senderSession.authority senderSession.projection (Prod.ext rfl (Prod.ext rfl encoded))
    (by decide +kernel) (by decide +kernel) .default Xdp.sampleKernel { now := 2000 } peerContext peerHeaders
    peerL3 peerPolicy 7 session rfl (by decide +kernel) (by decide +kernel) (by decide +kernel) rfl

end WgMix.Bpf
