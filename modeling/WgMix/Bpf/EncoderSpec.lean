import WgMix.Bpf.Encoder
import WgMix.Bpf.Decoder
import WgMix.Bpf.RewriteSpec

/-! What a successful encoding has made of the datagram, piece by piece. -/
namespace WgMix.Bpf
open L3 OnesComplement

/-- A fixed-header UDP datagram in its frame, cut where the encoder writes. -/
structure Datagram where
  link : Bytes
  vtos : Bytes
  total : Bytes
  ident : Bytes
  protocol : Bytes
  ipCheck : Bytes
  addresses : Bytes
  ports : Bytes
  udpTail : Bytes
  head : Bytes
  body : Bytes
  vtos_length : vtos.length = 2
  total_length : total.length = 2
  ident_length : ident.length = 5
  protocol_length : protocol.length = 1
  ipCheck_length : ipCheck.length = 2
  addresses_length : addresses.length = 8
  ports_length : ports.length = 4
  udpTail_length : udpTail.length = 4
  head_length : head.length = headerDelta

namespace Datagram
variable (datagram : Datagram)

def ip : Bytes :=
  WireFrame.ipWith datagram.vtos datagram.total datagram.ident datagram.protocol datagram.ipCheck
    datagram.addresses
def udp : Bytes := datagram.ports ++ datagram.udpTail
def bytes : Bytes :=
  datagram.link ++ (datagram.ip ++ (datagram.udp ++ (datagram.head ++ datagram.body)))
def payloadLen : Nat := headerDelta + datagram.body.length

theorem length_ip : datagram.ip.length = 20 :=
  WireFrame.length_ipWith datagram.vtos_length datagram.total_length datagram.ident_length
    datagram.protocol_length datagram.ipCheck_length datagram.addresses_length

theorem length_udp : datagram.udp.length = 8 := by
  rw [udp, List.length_append, datagram.ports_length, datagram.udpTail_length]

/-- Every datagram of enough payload can be cut. -/
theorem exists_of_length (data : Bytes) (ipOff payload : Nat) (exact : data.length = ipOff + 28 + payload)
    (enough : headerDelta ≤ payload) :
    ∃ datagram : Datagram, datagram.bytes = data ∧ datagram.link.length = ipOff ∧
      datagram.payloadLen = payload := by
  have delta : headerDelta = 12 := rfl
  let piece (skip width : Nat) : Bytes := (data.drop (ipOff + skip)).take width
  have sized (skip width : Nat) (within : skip + width ≤ 28 + payload) : (piece skip width).length = width := by
    simp only [piece, List.length_take, List.length_drop]
    omega
  refine ⟨⟨data.take ipOff, piece 0 2, piece 2 2, piece 4 5, piece 9 1, piece 10 2, piece 12 8, piece 20 4,
    piece 24 4, piece 28 12, data.drop (ipOff + 40), sized _ _ (by omega), sized _ _ (by omega),
    sized _ _ (by omega), sized _ _ (by omega), sized _ _ (by omega), sized _ _ (by omega),
    sized _ _ (by omega), sized _ _ (by omega), sized _ _ (by omega)⟩, ?_, ?_, ?_⟩
  · have next (start width : Nat) : (data.drop (ipOff + start)).take width ++
        data.drop (ipOff + (start + width)) = data.drop (ipOff + start) := by
      rw [← Nat.add_assoc, Bytes.take_drop_append]
    simp only [bytes, ip, udp, WireFrame.ipWith, piece, List.append_assoc]
    rw [next 28 12, next 24 4, next 20 4, next 12 8, next 10 2, next 9 1, next 4 5, next 2 2, next 0 2,
      Nat.add_zero, List.take_append_drop]
  · simp only [List.length_take]
    omega
  · simp only [payloadLen, List.length_drop]
    omega

end Datagram

namespace Encoder
variable {helpers : Helpers} {skb : Skb}

/-- Whole chunks are summed up to where the loop stops. -/
theorem chunks_residue (whole : width % 4 = 0) (inside : off + processed ≤ skb.data.length)
    (summed : Tc.icmpChunks helpers skb off len width fuel processed sum = some (done, total)) :
    processed ≤ done ∧ off + done ≤ skb.data.length ∧ (done - processed) % 2 = 0 ∧
      (sum < 2 ^ 32 → total < 2 ^ 32) ∧
      (total : ZMod 65535) = sum + 256 * residue (skb.data.slice (off + processed) (done - processed)) := by
  induction fuel generalizing processed sum with
  | zero =>
    obtain ⟨rfl, rfl⟩ := Prod.mk.inj (Option.some.inj summed)
    refine ⟨Nat.le_refl _, inside, by omega, id, ?_⟩
    simp only [Nat.sub_self, Bytes.slice, List.take_zero, residue, wordSum, Nat.cast_zero, mul_zero, add_zero]
  | succ fuel ih =>
    rw [Tc.icmpChunks] at summed
    split at summed
    · obtain ⟨rfl, rfl⟩ := Prod.mk.inj (Option.some.inj summed)
      refine ⟨Nat.le_refl _, inside, by omega, id, ?_⟩
      simp only [Nat.sub_self, Bytes.slice, List.take_zero, residue, wordSum, Nat.cast_zero, mul_zero, add_zero]
    · split at summed
      · contradiction
      rename_i chunk loaded
      split at summed
      · contradiction
      rename_i next computed
      obtain ⟨bound, rfl⟩ := Skb.loadBytes_some loaded
      obtain ⟨later, reached, even, small, residues⟩ := ih (by omega) summed
      refine ⟨by omega, reached, by omega, fun seedLt => small (csumDiff_lt computed seedLt), ?_⟩
      have sized := Bytes.length_slice bound
      rw [residues, csumDiff_residue computed, show done - processed = width + (done - (processed + width)) by omega,
        Bytes.slice_add, residue_append (by rw [sized]; omega), Nat.add_assoc off processed width]
      simp only [residue, wordSum, Nat.cast_zero, sub_zero]
      ring

/-- A zero-padded remainder counts as the bytes it holds. -/
theorem remainder_residue (even : processed % 2 = 0) (within : processed ≤ payloadLen)
    (inside : payloadOff + processed ≤ skb.data.length)
    (summed : checksumRemainder helpers skb payloadOff payloadLen processed sum = some (payloadLen, total)) :
    payloadOff + payloadLen ≤ skb.data.length ∧ (sum < 2 ^ 32 → total < 2 ^ 32) ∧
      (total : ZMod 65535) = sum + 256 *
        (residue (skb.data.slice payloadOff payloadLen) - residue (skb.data.slice payloadOff processed)) := by
  unfold checksumRemainder at summed
  split at summed
  · dsimp only at summed
    split at summed
    · contradiction
    split at summed
    · contradiction
    rename_i last loaded
    obtain ⟨bound, rfl⟩ := Skb.loadBytes_some loaded
    obtain ⟨value, computed, same⟩ := Option.map_eq_some_iff.mp summed
    obtain ⟨_, rfl⟩ := Prod.mk.inj same
    refine ⟨by omega, csumDiff_lt computed, ?_⟩
    have whole : skb.data.slice payloadOff payloadLen = skb.data.slice payloadOff processed ++
        skb.data.slice (payloadOff + processed) (payloadLen - processed) := by
      rw [← Bytes.slice_add]
      congr 1
      omega
    rw [csumDiff_residue computed, residue_zeros, whole,
      residue_append (by rw [Bytes.length_slice inside]; exact even)]
    simp only [residue, wordSum, Nat.cast_zero, sub_zero]
    ring
  · obtain ⟨rfl, rfl⟩ := Prod.mk.inj (Option.some.inj summed)
    exact ⟨inside, id, by ring⟩

/-- The complete checksum: the field closes the sum over pseudo header, header and
payload. -/
theorem materialize_spec {addresses tcp : Bytes} (addressed : addresses.length = 8)
    (inside : payloadOff ≤ skb.data.length)
    (made : materializeTcpChecksum helpers skb addresses tcp payloadOff payloadLen = some out) :
    payloadOff + payloadLen ≤ skb.data.length ∧ ∃ check, check < 65536 ∧ check ≠ 0 ∧
      out = (tcp.store 16 [0, 0]).store 16 (Bytes.leBytes 2 check) ∧
      residue addresses + ipprotoTcp.toNat + (tcphdrSize + payloadLen : Nat) + residue (tcp.store 16 [0, 0]) +
        residue (Bytes.leBytes 2 check) + residue (skb.data.slice payloadOff payloadLen) = 0 := by
  unfold materializeTcpChecksum at made
  split at made
  · contradiction
  rename_i small
  have bound : maxIpv4TotalLen - iphdrSize - udphdrSize = 2276 := rfl
  have header : tcphdrSize = 20 := rfl
  dsimp only at made
  split at made
  · contradiction
  rename_i first firstEq
  split at made
  · contradiction
  rename_i second secondEq
  split at made
  · contradiction
  rename_i processed third chunksEq
  split at made
  · contradiction
  rename_i done sum remainderEq
  split at made
  · contradiction
  rename_i finished
  obtain rfl := Decidable.not_not.mp finished
  obtain ⟨_, reached, even, thirdLt, thirdResidue⟩ := chunks_residue (by decide) inside chunksEq
  rw [Nat.sub_zero] at even thirdResidue
  have within : processed ≤ done := by
    unfold checksumRemainder at remainderEq
    split at remainderEq
    · omega
    · exact Nat.le_of_eq (congrArg Prod.fst (Option.some.inj remainderEq))
  obtain ⟨complete, sumLt, sumResidue⟩ := remainder_residue even within reached remainderEq
  have bounded := sumLt (thirdLt (csumDiff_lt secondEq (csumDiff_lt firstEq (by decide))))
  let check := if foldCsum sum = 0 then 0xffff else foldCsum sum
  have checkBound : check < 65536 := by
    simp only [check]
    split
    · decide
    · exact foldCsum_lt sum
  have checkResidue : (check : ZMod 65535) = -sum := by
    rw [← cast_foldCsum bounded]
    simp only [check]
    split
    · rename_i zero
      rw [zero]
      rfl
    · rfl
  refine ⟨complete, check, checkBound, ?_, (Option.some.inj made).symm, ?_⟩
  · simp only [check]
    split
    · decide
    · assumption
  · have pseudo : residue (addresses ++ ([0, ipprotoTcp] ++ Bytes.beBytes16 (tcphdrSize + done))) =
        residue addresses + (ipprotoTcp.toNat + (tcphdrSize + done : Nat)) := by
      rw [residue_append (by rw [addressed]), WireFrame.residue_pseudo _ (by omega)]
    have empty : residue [] = 0 := rfl
    have wrap : (256 * 256 : ZMod 65535) = 1 := rfl
    rw [residue_leBytes checkBound, checkResidue, sumResidue, thirdResidue, csumDiff_residue secondEq,
      csumDiff_residue firstEq, pseudo, empty, Nat.add_zero]
    linear_combination (-(residue addresses + (ipprotoTcp.toNat + (tcphdrSize + done : Nat)) +
      residue (tcp.store 16 [0, 0]) + residue (skb.data.slice payloadOff done)) : ZMod 65535) * wrap

theorem rotateTail_spec {helpers : EncodeHelpers} {datagram : Datagram} (cut : skb.data = datagram.bytes)
    (payload : info.payloadOff = datagram.link.length + 28)
    (rotated : rotateTail helpers skb info = .ok after) :
    after.data = datagram.bytes ++ datagram.head := by
  unfold rotateTail at rotated
  split at rotated
  · contradiction
  rename_i head loaded
  split at rotated
  · contradiction
  rename_i grown changed
  split at rotated
  · contradiction
  rename_i moved stored
  cases Except.ok.inj rotated
  obtain ⟨_, rfl⟩ := Skb.loadBytes_some loaded
  obtain ⟨_, rfl⟩ := Skb.storeBytes_eq stored
  have delta : headerDelta = 12 := rfl
  have front : (datagram.link ++ (datagram.ip ++ datagram.udp)).length = datagram.link.length + 28 := by
    rw [List.length_append, List.length_append, datagram.length_ip, datagram.length_udp]
  have headEq : skb.data.slice info.payloadOff headerDelta = datagram.head := by
    have whole : skb.data = (datagram.link ++ (datagram.ip ++ datagram.udp)) ++ (datagram.head ++ datagram.body) := by
      simp only [cut, Datagram.bytes, List.append_assoc]
    rw [whole, payload, ← front, Bytes.slice_skip (Nat.le_refl _), Nat.sub_self,
      Bytes.slice_here datagram.head_length]
  have grownData : grown.data = datagram.bytes ++ (List.replicate 12 0 ++ []) := by
    unfold Skb.changeTail at changed
    split at changed
    · contradiction
    · rw [← Option.some.inj changed]
      dsimp only
      rw [List.take_of_length_le (by omega), Nat.add_sub_cancel_left, cut, List.append_nil, delta]
  have here : datagram.bytes.length = grown.data.length - headerDelta := by
    rw [grownData]
    simp only [List.length_append, List.length_replicate, List.length_nil, delta]
    omega
  dsimp only
  rw [headEq, ← here, grownData, Bytes.store_append rfl (by rw [datagram.head_length, List.length_replicate, delta]),
    List.append_nil]

/-- Only the total length, the protocol and the header checksum change. -/
theorem rewriteIpv4_spec {link vtos total ident protocol ipCheck addresses rest : Bytes}
    (second : total.length = 2) (first : vtos.length = 2) (third : ident.length = 5)
    (fourth : protocol.length = 1) (fifth : ipCheck.length = 2)
    (cut : skb.data = link ++ (WireFrame.ipWith vtos total ident protocol ipCheck addresses ++ rest))
    (rewritten : rewriteIpv4 helpers skb link.length oldTotalLen = some after) :
    ∃ field, field.length = 2 ∧ after.data = link ++ (WireFrame.ipWith vtos
      (Bytes.beBytes16 (oldTotalLen + headerDelta)) ident [ipprotoTcp] field addresses ++ rest) := by
  unfold rewriteIpv4 at rewritten
  dsimp only at rewritten
  split at rewritten
  · contradiction
  rename_i summed firstReplace
  split at rewritten
  · contradiction
  rename_i sized lengthStore
  obtain ⟨_, field, rfl⟩ := Skb.l3CsumReplace_some firstReplace
  obtain ⟨_, rfl⟩ := Skb.storeBytes_eq lengthStore
  unfold Tc.updateIpv4Protocol at rewritten
  split at rewritten
  · simp [Except.toOption] at rewritten
  rename_i again secondReplace
  split at rewritten
  · simp [Except.toOption] at rewritten
  rename_i done protocolStore
  obtain ⟨_, last, rfl⟩ := Skb.l3CsumReplace_some secondReplace
  obtain ⟨_, rfl⟩ := Skb.storeBytes_eq protocolStore
  obtain rfl : _ = after := Option.some.inj rewritten
  refine ⟨Bytes.leBytes 2 last, Bytes.length_leBytes _ _, ?_⟩
  let newTotal := Bytes.beBytes16 (oldTotalLen + headerDelta)
  have newLength : newTotal.length = 2 := rfl
  have atCheck (middle : Bytes) (sized : middle.length = 2) : (link ++ (vtos ++ (middle ++ (ident ++ protocol)))).length =
      link.length + 10 := by
    simp only [List.length_append, first, sized, third, fourth]
  have storeCheck (middle : Bytes) (sized : middle.length = 2) (old : Bytes) (oldSized : old.length = 2) (value : Nat) :
      (link ++ (WireFrame.ipWith vtos middle ident protocol old addresses ++ rest)).store (link.length + 10)
        (Bytes.leBytes 2 value) =
      link ++ (WireFrame.ipWith vtos middle ident protocol (Bytes.leBytes 2 value) addresses ++ rest) := by
    have stored : ((link ++ (vtos ++ (middle ++ (ident ++ protocol)))) ++ (old ++ (addresses ++ rest))).store
        (link.length + 10) (Bytes.leBytes 2 value) =
        (link ++ (vtos ++ (middle ++ (ident ++ protocol)))) ++ (Bytes.leBytes 2 value ++ (addresses ++ rest)) :=
      Bytes.store_append (atCheck middle sized) (by rw [Bytes.length_leBytes, oldSized])
    simpa only [WireFrame.ipWith, List.append_assoc] using stored
  have storeLength (value : Nat) : (link ++ (WireFrame.ipWith vtos total ident protocol (Bytes.leBytes 2 value)
      addresses ++ rest)).store (link.length + 2) newTotal =
      link ++ (WireFrame.ipWith vtos newTotal ident protocol (Bytes.leBytes 2 value) addresses ++ rest) := by
    have stored : ((link ++ vtos) ++ (total ++ (ident ++ (protocol ++ (Bytes.leBytes 2 value ++
        (addresses ++ rest)))))).store (link.length + 2) newTotal = (link ++ vtos) ++ (newTotal ++ (ident ++
          (protocol ++ (Bytes.leBytes 2 value ++ (addresses ++ rest))))) :=
      Bytes.store_append (by rw [List.length_append, first]) (by rw [newLength, second])
    simpa only [WireFrame.ipWith, List.append_assoc] using stored
  have storeProtocol (value : Nat) : (link ++ (WireFrame.ipWith vtos newTotal ident protocol
      (Bytes.leBytes 2 value) addresses ++ rest)).store (link.length + 9) [ipprotoTcp] =
      link ++ (WireFrame.ipWith vtos newTotal ident [ipprotoTcp] (Bytes.leBytes 2 value) addresses ++ rest) := by
    have front : (link ++ (vtos ++ (newTotal ++ ident))).length = link.length + 9 := by
      simp only [List.length_append, first, newLength, third]
    have stored : ((link ++ (vtos ++ (newTotal ++ ident))) ++ (protocol ++ (Bytes.leBytes 2 value ++
        (addresses ++ rest)))).store (link.length + 9) [ipprotoTcp] = (link ++ (vtos ++ (newTotal ++ ident))) ++
          ([ipprotoTcp] ++ (Bytes.leBytes 2 value ++ (addresses ++ rest))) :=
      Bytes.store_append front (by rw [fourth]; rfl)
    simpa only [WireFrame.ipWith, List.append_assoc] using stored
  dsimp only
  rw [cut, storeCheck total second ipCheck fifth, storeLength, storeCheck newTotal newLength _
    (Bytes.length_leBytes _ _), storeProtocol]

/-- How the emitted frame relates to the datagram. -/
structure Encodes (datagram : Datagram) (wire : WireFrame) : Prop where
  link : wire.link = datagram.link
  vtos : wire.vtos = datagram.vtos
  total : wire.total = Bytes.beBytes16 wire.totalLen
  ident : wire.ident = datagram.ident
  protocol : wire.protocol = [ipprotoTcp]
  addresses : wire.addresses = datagram.addresses
  ports : wire.ports = datagram.ports
  rest : wire.rest = datagram.body
  tail : wire.tail = datagram.head
  padding : wire.padding = []
  closed : residue wire.addresses + ipprotoTcp.toNat + (tcphdrSize + wire.payloadLen : Nat) + residue wire.tcp +
    residue (wire.rest ++ wire.tail) = 0

theorem tcpHeader_cut (ports : Bytes) (mutation : SessionMutationResult) :
    ∃ sequences : Bytes, sequences.length = 12 ∧
      tcpHeader ports mutation = ports ++ (sequences ++ ([0, 0] ++ [0, 0])) := by
  refine ⟨Bytes.beBytes32 mutation.sequence.toNat ++ (Bytes.beBytes32 mutation.acknowledgement.toNat ++
    ([0x50, flagAck ||| flagPsh] ++ Bytes.beBytes16 (if mutation.window = 0 then 65535 else mutation.window.toNat))),
    ?_, ?_⟩
  · simp only [List.length_append, Bytes.beBytes32, Bytes.beBytes16, List.length_cons, List.length_nil]
  · simp only [tcpHeader, List.append_assoc, List.cons_append, List.nil_append]

/-- The bytes that a completed segment consists of. -/
theorem writeSegment_spec {datagram : Datagram} {headers : Bytes}
    (cut : skb.data = datagram.bytes ++ datagram.head) (start : info.ipOff = datagram.link.length)
    (transport : info.udpOff = datagram.link.length + 20) (payload : info.payloadLen = datagram.payloadLen)
    (loaded : headers = datagram.ip ++ datagram.udp) (declared : headers.be16 2 = 28 + datagram.payloadLen)
    (written : writeSegment helpers skb info headers mutation = .ok after) :
    ∃ wire : WireFrame, after.data = wire.bytes ∧ Encodes datagram wire := by
  have delta : headerDelta = 12 := rfl
  unfold writeSegment at written
  dsimp only at written
  split at written
  · contradiction
  rename_i tcp made
  split at written
  · contradiction
  rename_i stored storedEq
  split at written
  · contradiction
  rename_i done rewritten
  cases Except.ok.inj written
  have ipLen := datagram.length_ip
  have udpLen := datagram.length_udp
  have portsEq : headers.slice 20 4 = datagram.ports := by
    rw [loaded, Bytes.slice_skip (by rw [ipLen]), ipLen, Datagram.udp, Bytes.slice_here datagram.ports_length]
  have addressesEq : headers.slice 12 8 = datagram.addresses := by
    have front : (datagram.vtos ++ (datagram.total ++ (datagram.ident ++ (datagram.protocol ++
        datagram.ipCheck)))).length = 12 := by
      simp only [List.length_append, datagram.vtos_length, datagram.total_length, datagram.ident_length,
        datagram.protocol_length, datagram.ipCheck_length]
    have whole : headers = (datagram.vtos ++ (datagram.total ++ (datagram.ident ++ (datagram.protocol ++
        datagram.ipCheck)))) ++ (datagram.addresses ++ datagram.udp) := by
      rw [loaded, Datagram.ip, WireFrame.ipWith]
      simp only [List.append_assoc]
    rw [whole, Bytes.slice_skip (Nat.le_of_eq front), front, Bytes.slice_here datagram.addresses_length]
  obtain ⟨sequences, sequencesLen, headerEq⟩ := tcpHeader_cut datagram.ports mutation
  rw [portsEq, addressesEq, headerEq] at made
  let front := datagram.link ++ (datagram.ip ++ (datagram.udp ++ datagram.head))
  have frontLen : front.length = datagram.link.length + 40 := by
    simp only [front, List.length_append, ipLen, udpLen, datagram.head_length]
    omega
  have dataEq : skb.data = front ++ ((datagram.body ++ datagram.head) ++ []) := by
    rw [cut, Datagram.bytes]
    simp only [front, List.append_assoc, List.append_nil]
  have payloadOff : info.udpOff + tcphdrSize = front.length := by
    rw [transport, frontLen, tcphdrSize]
  have payloadEq : skb.data.slice (info.udpOff + tcphdrSize) info.payloadLen = datagram.body ++ datagram.head := by
    rw [dataEq, payloadOff, Bytes.slice_skip (Nat.le_refl _), Nat.sub_self, payload]
    apply Bytes.slice_here
    rw [List.length_append, datagram.head_length, Datagram.payloadLen, Nat.add_comm]
  obtain ⟨_, check, _, _, tcpEq, closed⟩ := materialize_spec datagram.addresses_length
    (by rw [payloadOff, dataEq]; simp only [front, List.length_append]; omega) made
  have atCheck : (datagram.ports ++ sequences).length = 16 := by
    rw [List.length_append, datagram.ports_length, sequencesLen]
  have storeCheck (old field : Bytes) (oldSized : old.length = 2) (sized : field.length = 2) :
      (datagram.ports ++ (sequences ++ (old ++ [0, 0]))).store 16 field =
        datagram.ports ++ (sequences ++ (field ++ [0, 0])) := by
    rw [← List.append_assoc, Bytes.store_append atCheck (by rw [sized, oldSized]), List.append_assoc]
  rw [storeCheck [0, 0] [0, 0] rfl rfl] at tcpEq closed
  rw [storeCheck [0, 0] _ rfl (Bytes.length_leBytes _ _)] at tcpEq
  have tcpLen : tcp.length = 20 := by
    rw [tcpEq]
    simp only [List.length_append, datagram.ports_length, sequencesLen, Bytes.length_leBytes, List.length_cons,
      List.length_nil]
  obtain ⟨_, rfl⟩ := Skb.storeBytes_eq storedEq
  have storedData : skb.data.store info.udpOff tcp =
      datagram.link ++ (datagram.ip ++ (tcp ++ (datagram.body ++ datagram.head))) := by
    have here : (datagram.link ++ datagram.ip).length = info.udpOff := by
      rw [List.length_append, ipLen, transport]
    have whole : skb.data = (datagram.link ++ datagram.ip) ++ ((datagram.udp ++ datagram.head) ++
        (datagram.body ++ datagram.head)) := by
      rw [cut, Datagram.bytes]
      simp only [List.append_assoc]
    rw [whole, Bytes.store_append here (by rw [tcpLen, List.length_append, udpLen, datagram.head_length, delta]),
      List.append_assoc]
  rw [start, declared] at rewritten
  obtain ⟨field, fieldLen, final⟩ := rewriteIpv4_spec datagram.total_length datagram.vtos_length
    datagram.ident_length datagram.protocol_length datagram.ipCheck_length storedData rewritten
  let wire : WireFrame := ⟨datagram.link, datagram.vtos, Bytes.beBytes16 (28 + datagram.payloadLen + headerDelta),
    datagram.ident, [ipprotoTcp], field, datagram.addresses, datagram.ports, sequences, Bytes.leBytes 2 check, [0, 0],
    datagram.body, datagram.head, [], datagram.vtos_length, rfl, datagram.ident_length, rfl, fieldLen,
    datagram.addresses_length, datagram.ports_length, sequencesLen, Bytes.length_leBytes _ _, rfl,
    datagram.head_length⟩
  have sameLen : wire.payloadLen = datagram.payloadLen := Nat.add_comm _ _
  refine ⟨wire, ?_, ⟨rfl, rfl, ?_, rfl, rfl, rfl, rfl, rfl, rfl, rfl, ?_⟩⟩
  · rw [final, tcpEq, WireFrame.bytes, WireFrame.ip, WireFrame.tcp, WireFrame.tcpWith, List.append_nil]
  · rw [WireFrame.totalLen, sameLen]
    show Bytes.beBytes16 (28 + datagram.payloadLen + 12) = _
    congr 1
    omega
  · rw [payloadEq, payload] at closed
    have field : residue wire.tcp = residue (wire.tcpWith [0, 0]) + residue (Bytes.leBytes 2 check) :=
      wire.residue_tcpWith (Bytes.length_leBytes _ _)
    rw [field, sameLen, ← closed]
    simp only [wire, WireFrame.tcpWith]
    ring

/-- A successful encoding, from the datagram to the emitted frame. -/
theorem encode_spec {helpers : EncodeHelpers} (encoded : encodeEstablishedAuthorized helpers env kernel tc info generation
    key authority projection = (after, sent, .ok)) :
    ∃ (datagram : Datagram) (wire : WireFrame), tc.skb.data = datagram.bytes ∧
      info.ipOff = datagram.link.length ∧ info.udpOff = datagram.link.length + 20 ∧
      datagram.total = Bytes.beBytes16 (28 + datagram.payloadLen) ∧
      datagram.udpTail.take 2 = Bytes.beBytes16 (datagram.payloadLen + 8) ∧
      datagram.payloadLen ≤ 2276 ∧ sent.skb.data = wire.bytes ∧ Encodes datagram wire := by
  unfold encodeEstablishedAuthorized at encoded
  split at encoded
  · cases encoded
  split at encoded
  · cases encoded
  rename_i headers snapshot
  split at encoded
  · cases encoded
  split at encoded
  · cases encoded
  rename_i held found
  split at encoded
  · cases encoded
  rename_i lengths
  split at encoded
  · cases encoded
  rename_i grown rotated
  split at encoded
  · cases encoded
  rename_i value mutation mutated
  dsimp only at encoded
  split at encoded
  · cases encoded
  · cases encoded
  rename_i finished written
  obtain ⟨rfl, rfl, _⟩ := encoded
  unfold loadIpv4UdpSnapshot at snapshot
  split at snapshot
  · contradiction
  rename_i offsets
  obtain ⟨_, headersEq⟩ := Skb.loadBytes_some snapshot
  have delta : headerDelta = 12 := rfl
  have sizes : iphdrSize = 20 ∧ udphdrSize = 8 ∧ maxIpv4TotalLen = 2304 := ⟨rfl, rfl, rfl⟩
  simp only [lengthsBad, decide_eq_true_eq] at lengths
  have enough : info.payloadOff + headerDelta ≤ tc.skb.data.length := by
    unfold rotateTail at rotated
    split at rotated
    · contradiction
    · rename_i head loaded
      exact (Skb.loadBytes_some loaded).1
  obtain ⟨datagram, cut, start, payload⟩ := Datagram.exists_of_length tc.skb.data info.ipOff info.payloadLen
    (by omega) (by omega)
  have wholeHeaders : headers = datagram.ip ++ datagram.udp := by
    have sized : (datagram.ip ++ datagram.udp).length = iphdrSize + udphdrSize := by
      rw [List.length_append, datagram.length_ip, datagram.length_udp, sizes.1, sizes.2.1]
    rw [headersEq, ← cut, ← start, Datagram.bytes, Bytes.slice_skip (Nat.le_refl _), Nat.sub_self,
      ← List.append_assoc, Bytes.slice_here sized]
  have declared : headers.be16 2 = 28 + datagram.payloadLen := by omega
  have totalEq : datagram.total = Bytes.beBytes16 (28 + datagram.payloadLen) := by
    rw [← declared, wholeHeaders, Datagram.ip, WireFrame.ipWith, List.append_assoc,
      Bytes.be16_skip (by rw [datagram.vtos_length]), datagram.vtos_length, List.append_assoc,
      Bytes.be16_here (by rw [datagram.total_length]; omega), Bytes.beBytes16_be16 datagram.total_length]
  have udpEq : datagram.udpTail.take 2 = Bytes.beBytes16 (datagram.payloadLen + 8) := by
    have declaredUdp : headers.be16 24 = datagram.payloadLen + 8 := by omega
    have two : (datagram.udpTail.take 2).length = 2 := by
      rw [List.length_take, datagram.udpTail_length]
      rfl
    have split : datagram.udp = datagram.ports ++ (datagram.udpTail.take 2 ++ datagram.udpTail.drop 2) := by
      rw [List.take_append_drop, Datagram.udp]
    rw [← declaredUdp, wholeHeaders, Bytes.be16_skip (by rw [datagram.length_ip]; omega), datagram.length_ip, split,
      Bytes.be16_skip (by rw [datagram.ports_length]), datagram.ports_length,
      Bytes.be16_here (by rw [two]; omega), Bytes.beBytes16_be16 two]
  have moved := rotateTail_spec cut.symm (by omega) rotated
  obtain ⟨wire, final, encodes⟩ := writeSegment_spec moved start.symm (by omega) payload.symm wholeHeaders declared
    written
  exact ⟨datagram, wire, cut.symm, start.symm, by omega, totalEq, udpEq, by omega, final, encodes⟩

/-- Addresses and ports behind twelve bytes of a header. -/
theorem slice_flow {vtos total ident protocol ipCheck addresses ports rest : Bytes} (first : vtos.length = 2)
    (second : total.length = 2) (third : ident.length = 5) (fourth : protocol.length = 1)
    (fifth : ipCheck.length = 2) (sixth : addresses.length = 8) (seventh : ports.length = 4) (link : Bytes) :
    (link ++ (WireFrame.ipWith vtos total ident protocol ipCheck addresses ++ (ports ++ rest))).slice
      (link.length + 12) 12 = addresses ++ ports := by
  have front : (link ++ (vtos ++ (total ++ (ident ++ (protocol ++ ipCheck))))).length = link.length + 12 := by
    simp only [List.length_append, first, second, third, fourth, fifth]
  have cut : link ++ (WireFrame.ipWith vtos total ident protocol ipCheck addresses ++ (ports ++ rest)) =
      (link ++ (vtos ++ (total ++ (ident ++ (protocol ++ ipCheck))))) ++ ((addresses ++ ports) ++ rest) := by
    simp only [WireFrame.ipWith, List.append_assoc]
  rw [cut, Bytes.slice_skip (Nat.le_of_eq front), front, Nat.sub_self, Bytes.slice_here]
  rw [List.length_append, sixth, seventh]

/-- The flow of the frame is that of the datagram, and its length grows by the difference
of the headers. -/
theorem encode_flow {helpers : EncodeHelpers} (encoded : encodeEstablishedAuthorized helpers env kernel tc info generation
    key authority projection = (after, sent, .ok)) :
    sent.skb.data.length = tc.skb.data.length + headerDelta ∧
      sent.skb.data.be16 (info.ipOff + 2) = tc.skb.data.be16 (info.ipOff + 2) + headerDelta ∧
      sent.skb.data.slice (info.ipOff + 12) 12 = tc.skb.data.slice (info.ipOff + 12) 12 := by
  obtain ⟨datagram, wire, cut, start, _, declared, _, bounded, sentEq, encodes⟩ := encode_spec encoded
  have delta : headerDelta = 12 := rfl
  have payload : wire.payloadLen = datagram.payloadLen := by
    rw [WireFrame.payloadLen, encodes.rest, Datagram.payloadLen, Nat.add_comm]
  have length (link vtos : Bytes) (total rest : Bytes) (skipped : vtos.length = 2) (sized : total.length = 2) :
      (link ++ (vtos ++ (total ++ rest))).be16 (link.length + 2) = total.be16 0 := by
    rw [Bytes.be16_skip (Nat.le_add_right _ _), Nat.add_sub_cancel_left, Bytes.be16_skip (by rw [skipped]), skipped,
      Bytes.be16_here (by rw [sized]; omega)]
  have word (value : Nat) (small : value < 65536) : (Bytes.beBytes16 value).be16 0 = value := by
    have stored := Bytes.be16_beBytes16 small []
    rwa [List.append_nil] at stored
  rw [sentEq, cut, start]
  refine ⟨?_, ?_, ?_⟩
  · simp only [WireFrame.bytes, Datagram.bytes, List.length_append, wire.length_ip, wire.length_tcp,
      datagram.length_ip, datagram.length_udp, wire.tail_length, datagram.head_length, encodes.link, encodes.rest,
      encodes.padding, List.length_nil]
    omega
  · have wireTotal : wire.bytes.be16 (datagram.link.length + 2) = wire.total.be16 0 := by
      rw [← encodes.link, WireFrame.bytes, WireFrame.ip, WireFrame.ipWith, List.append_assoc, List.append_assoc]
      exact length _ _ _ _ wire.vtos_length wire.total_length
    have datagramTotal : datagram.bytes.be16 (datagram.link.length + 2) = datagram.total.be16 0 := by
      rw [Datagram.bytes, Datagram.ip, WireFrame.ipWith, List.append_assoc, List.append_assoc]
      exact length _ _ _ _ datagram.vtos_length datagram.total_length
    rw [wireTotal, datagramTotal, encodes.total, declared, WireFrame.totalLen, payload, word _ (by omega),
      word _ (by omega), delta]
    omega
  · have wireFlow : wire.bytes.slice (datagram.link.length + 12) 12 = wire.addresses ++ wire.ports := by
      rw [← encodes.link, WireFrame.bytes, WireFrame.ip, WireFrame.tcp, WireFrame.tcpWith, List.append_assoc wire.ports]
      exact slice_flow wire.vtos_length wire.total_length wire.ident_length wire.protocol_length wire.ipCheck_length
        wire.addresses_length wire.ports_length _
    have datagramFlow : datagram.bytes.slice (datagram.link.length + 12) 12 = datagram.addresses ++ datagram.ports := by
      rw [Datagram.bytes, Datagram.ip, Datagram.udp, List.append_assoc datagram.ports]
      exact slice_flow datagram.vtos_length datagram.total_length datagram.ident_length datagram.protocol_length
        datagram.ipCheck_length datagram.addresses_length datagram.ports_length _
    rw [wireFlow, datagramFlow, encodes.addresses, encodes.ports]

/-- What a successful encoding has compared of the packet and of the session. -/
theorem encode_admits {helpers : EncodeHelpers} (encoded : encodeEstablishedAuthorized helpers env kernel tc info generation
    key authority projection = (after, sent, .ok)) :
    (∃ headers, loadIpv4UdpSnapshot helpers.toHelpers tc.skb info.ipOff info.udpOff info.payloadOff = some headers ∧
      headers.le32 12 = key.localIpv4 ∧ headers.le32 16 = key.remoteIpv4 ∧
      headers.be16 20 = key.localPort.toNat ∧ headers.be16 22 = key.remotePort.toNat) ∧
    ∃ held, (kernel.sessions key).map env.racing = some held ∧ held.authority = authority ∧
      held.projection = projection := by
  unfold encodeEstablishedAuthorized at encoded
  split at encoded
  · cases encoded
  split at encoded
  · cases encoded
  rename_i headers snapshot
  split at encoded
  · cases encoded
  rename_i flow
  simp only [not_or, Decidable.not_not] at flow
  refine ⟨⟨headers, snapshot, flow⟩, ?_⟩
  split at encoded
  · cases encoded
  rename_i held found
  refine ⟨held, found, ?_⟩
  split at encoded
  · cases encoded
  split at encoded
  · cases encoded
  split at encoded
  · cases encoded
  rename_i value mutation mutated
  rw [SessionValue.mutate] at mutated
  split at mutated
  · rename_i current
    obtain ⟨current, _⟩ := current
    simp only [SessionValue.authorityMatches, decide_eq_true_eq] at current
    obtain ⟨_, identified, projected, same⟩ := current
    refine ⟨?_, projected⟩
    rw [SessionValue.authority, identified, (FixedBytes.difference_eq_zero _ _).mp same]
  · cases mutated

end Encoder
end WgMix.Bpf
