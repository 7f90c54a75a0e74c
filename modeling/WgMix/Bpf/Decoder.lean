import WgMix.Bpf.L3Spec
import WgMix.Bpf.XdpSpec

/-! The TCP-to-UDP transform as a rearrangement of frame pieces, and what it does
to the transport checksum: the written field carries the residual of the received
one, so it verifies exactly when that did. -/
namespace WgMix.Bpf
open L3 OnesComplement

/-- A received frame cut at every boundary that the transform reads or moves. -/
structure WireFrame where
  link : Bytes
  vtos : Bytes
  total : Bytes
  ident : Bytes
  protocol : Bytes
  ipCheck : Bytes
  addresses : Bytes
  ports : Bytes
  sequences : Bytes
  check : Bytes
  urgent : Bytes
  rest : Bytes
  tail : Bytes
  padding : Bytes
  vtos_length : vtos.length = 2
  total_length : total.length = 2
  ident_length : ident.length = 5
  protocol_length : protocol.length = 1
  ipCheck_length : ipCheck.length = 2
  addresses_length : addresses.length = 8
  ports_length : ports.length = 4
  sequences_length : sequences.length = 12
  check_length : check.length = 2
  urgent_length : urgent.length = 2
  tail_length : tail.length = headerDelta

namespace WireFrame

def ipWith (vtos total ident protocol ipCheck addresses : Bytes) : Bytes :=
  vtos ++ (total ++ (ident ++ (protocol ++ (ipCheck ++ addresses))))

variable (wire : WireFrame)

def ip : Bytes := ipWith wire.vtos wire.total wire.ident wire.protocol wire.ipCheck wire.addresses
def tcpWith (check : Bytes) : Bytes := wire.ports ++ (wire.sequences ++ (check ++ wire.urgent))
def tcp : Bytes := wire.tcpWith wire.check
def bytes : Bytes := wire.link ++ (wire.ip ++ (wire.tcp ++ (wire.rest ++ (wire.tail ++ wire.padding))))

def payloadLen : Nat := wire.rest.length + headerDelta
def totalLen : Nat := 40 + wire.payloadLen

theorem length_ipWith {vtos total ident protocol ipCheck addresses : Bytes} (first : vtos.length = 2)
    (second : total.length = 2) (third : ident.length = 5) (fourth : protocol.length = 1)
    (fifth : ipCheck.length = 2) (sixth : addresses.length = 8) :
    (ipWith vtos total ident protocol ipCheck addresses).length = 20 := by
  simp only [ipWith, List.length_append]
  omega

theorem length_ip : wire.ip.length = 20 :=
  length_ipWith wire.vtos_length wire.total_length wire.ident_length wire.protocol_length
    wire.ipCheck_length wire.addresses_length

theorem length_tcpWith {field : Bytes} (sized : field.length = 2) : (wire.tcpWith field).length = 20 := by
  simp only [tcpWith, List.length_append, wire.ports_length, wire.sequences_length, sized, wire.urgent_length]

theorem length_tcp : wire.tcp.length = 20 := wire.length_tcpWith wire.check_length

/-- Every frame long enough for its total length can be cut. -/
theorem exists_of_length (frame : Bytes) (l3Off payload : Nat) (long : l3Off + 40 + payload ≤ frame.length)
    (enough : headerDelta ≤ payload) :
    ∃ wire : WireFrame, wire.bytes = frame ∧ wire.link.length = l3Off ∧ wire.payloadLen = payload := by
  have delta : headerDelta = 12 := rfl
  let piece (skip width : Nat) : Bytes := (frame.drop (l3Off + skip)).take width
  have sized (skip width : Nat) (within : skip + width ≤ 40 + payload) : (piece skip width).length = width := by
    simp only [piece, List.length_take, List.length_drop]
    omega
  refine ⟨⟨frame.take l3Off, piece 0 2, piece 2 2, piece 4 5, piece 9 1, piece 10 2, piece 12 8, piece 20 4,
    piece 24 12, piece 36 2, piece 38 2, piece 40 (payload - 12), piece (28 + payload) 12,
    frame.drop (l3Off + (28 + payload) + 12), sized _ _ (by omega), sized _ _ (by omega), sized _ _ (by omega),
    sized _ _ (by omega), sized _ _ (by omega), sized _ _ (by omega), sized _ _ (by omega),
    sized _ _ (by omega), sized _ _ (by omega), sized _ _ (by omega), sized _ _ (by omega)⟩, ?_, ?_, ?_⟩
  · simp only [bytes, ip, ipWith, tcp, tcpWith, piece, List.append_assoc]
    have next (start width : Nat) : (frame.drop (l3Off + start)).take width ++
        frame.drop (l3Off + (start + width)) = frame.drop (l3Off + start) := by
      rw [← Nat.add_assoc, Bytes.take_drop_append]
    rw [Bytes.take_drop_append frame (l3Off + (28 + payload)) 12, show 28 + payload = 40 + (payload - 12) by omega,
      next 40, next 38 2, next 36 2, next 24 12, next 20 4, next 12 8, next 10 2, next 9 1, next 4 5, next 2 2, next 0 2, Nat.add_zero,
      List.take_append_drop]
  · simp only [List.length_take]
    omega
  · simp only [payloadLen, sized _ _ (show 40 + (payload - 12) ≤ 40 + payload by omega)]
    omega

/-- The rewritten IPv4 header, with a given checksum field. -/
def decodedIpWith (newTotalLen : Nat) (field : Bytes) : Bytes :=
  ipWith wire.vtos (Bytes.beBytes16 newTotalLen) wire.ident [ipprotoUdp] field wire.addresses

theorem length_decodedIpWith {field : Bytes} (sized : field.length = 2) :
    (wire.decodedIpWith newTotalLen field).length = 20 :=
  length_ipWith wire.vtos_length rfl wire.ident_length rfl sized wire.addresses_length

def udpWith (field : Bytes) : Bytes :=
  wire.ports ++ (Bytes.beBytes16 (wire.payloadLen + udphdrSize) ++ field)

theorem length_udpWith {field : Bytes} (sized : field.length = 2) : (wire.udpWith field).length = 8 := by
  simp only [udpWith, Bytes.beBytes16, List.length_append, wire.ports_length, sized, List.length_cons,
    List.length_nil]

/-- What an odd payload adds to the sum when its tail is moved to the front. -/
def rotation : ZMod 65535 := if wire.payloadLen % 2 = 1 then residue wire.tail - residue (0 :: wire.tail) else 0

/-- The UDP checksum field, pseudo header and header have the residue of those of the TCP packet. -/
def Balances (check : Nat) : Prop :=
  residue (Bytes.leBytes 2 check) + residue ([0, ipprotoUdp] ++ Bytes.beBytes16 (wire.payloadLen + udphdrSize)) +
      residue (wire.udpWith [0, 0]) + wire.rotation =
    residue wire.check + residue ([0, ipprotoTcp] ++ Bytes.beBytes16 (wire.payloadLen + tcphdrSize)) +
      residue (wire.tcpWith [0, 0])

section Envelope
variable {wire} {headers : Xdp.Envelope} (cut : headers.bytes = wire.ip ++ wire.tcp)
include cut

theorem envelope_ip : headers.ip = wire.ip := by
  rw [Xdp.Envelope.ip, cut, Bytes.slice_here wire.length_ip]

theorem envelope_tcp : headers.tcp = wire.tcp := by
  rw [Xdp.Envelope.tcp, cut, Bytes.slice_skip (by rw [wire.length_ip]), wire.length_ip,
    Bytes.slice_all wire.length_tcp]

theorem envelope_ports : headers.bytes.slice 20 4 = wire.ports := by
  rw [cut, Bytes.slice_skip (by rw [wire.length_ip]), wire.length_ip, tcp, tcpWith,
    Bytes.slice_here wire.ports_length]

theorem envelope_check : headers.bytes.slice 36 2 = wire.check := by
  rw [cut, Bytes.slice_skip (by rw [wire.length_ip]; omega), wire.length_ip, tcp, tcpWith,
    Bytes.slice_skip (by rw [wire.ports_length]; omega), wire.ports_length,
    Bytes.slice_skip (by rw [wire.sequences_length]), wire.sequences_length,
    Bytes.slice_here wire.check_length]

theorem envelope_cleared : headers.tcp.store 16 [0, 0] = wire.tcpWith [0, 0] := by
  have here : (wire.ports ++ wire.sequences).length = 16 := by
    rw [List.length_append, wire.ports_length, wire.sequences_length]
  rw [envelope_tcp cut, tcp, tcpWith, ← List.append_assoc,
    Bytes.store_append here (by rw [wire.check_length]; rfl), List.append_assoc, tcpWith]

theorem decodedIp_eq (newTotalLen : Nat) :
    ∃ sum, csumDiff [] (wire.decodedIpWith newTotalLen [0, 0]) 0 = some sum ∧
      Xdp.decodedIp headers newTotalLen =
        some (wire.decodedIpWith newTotalLen (Bytes.leBytes 2 (foldCsum sum))) := by
  let length := Bytes.beBytes16 newTotalLen
  have front : (wire.vtos ++ (length ++ wire.ident)).length = 9 := by
    simp only [List.length_append, wire.vtos_length, wire.ident_length]
    rfl
  have longer : (wire.vtos ++ (length ++ (wire.ident ++ [ipprotoUdp]))).length = 10 := by
    simp only [List.length_append, wire.vtos_length, wire.ident_length]
    rfl
  have storeLength : wire.ip.store 2 length =
      (wire.vtos ++ (length ++ wire.ident)) ++ (wire.protocol ++ (wire.ipCheck ++ wire.addresses)) := by
    rw [ip, ipWith, Bytes.store_append wire.vtos_length (by rw [wire.total_length]; rfl)]
    simp only [List.append_assoc]
  have storeProtocol : (wire.ip.store 2 length).store 9 [ipprotoUdp] =
      (wire.vtos ++ (length ++ (wire.ident ++ [ipprotoUdp]))) ++ (wire.ipCheck ++ wire.addresses) := by
    rw [storeLength, Bytes.store_append front (by rw [wire.protocol_length]; rfl)]
    simp only [List.append_assoc]
  have storeCheck {field : Bytes} (sized : field.length = 2) {old : Bytes} (oldSized : old.length = 2) :
      ((wire.vtos ++ (length ++ (wire.ident ++ [ipprotoUdp]))) ++ (old ++ wire.addresses)).store 10 field =
        wire.decodedIpWith newTotalLen field := by
    rw [Bytes.store_append longer (by rw [sized, oldSized])]
    simp only [decodedIpWith, ipWith, List.append_assoc, length]
  have cleared : ((wire.ip.store 2 length).store 9 [ipprotoUdp]).store 10 [0, 0] =
      wire.decodedIpWith newTotalLen [0, 0] := by
    rw [storeProtocol, storeCheck rfl wire.ipCheck_length]
  have filled (field : Bytes) (sized : field.length = 2) :
      (wire.decodedIpWith newTotalLen [0, 0]).store 10 field = wire.decodedIpWith newTotalLen field := by
    have stored := storeCheck sized (List.length_replicate : (List.replicate 2 (0 : UInt8)).length = 2)
    rw [← stored]
    simp only [decodedIpWith, ipWith, List.append_assoc, length, List.replicate]
  obtain ⟨sum, computed⟩ := csumDiff_isSome [] (wire.decodedIpWith newTotalLen [0, 0]) 0 rfl
    (by rw [wire.length_decodedIpWith rfl]) (by rw [wire.length_decodedIpWith rfl]; decide)
  refine ⟨sum, computed, ?_⟩
  rw [Xdp.decodedIp, envelope_ip cut, cleared, computed, Option.map_some, filled _ (Bytes.length_leBytes _ _)]

theorem decodedUdp_eq :
    ∃ check, check < 65536 ∧ check ≠ 0 ∧
      Xdp.decodedUdp headers wire.tail wire.payloadLen = some (wire.udpWith (Bytes.leBytes 2 check)) ∧
      wire.Balances check := by
  have seedLt : 65535 - headers.check.toNat < 2 ^ 32 := by omega
  have checkLt : Bytes.leNat wire.check < 65536 := by
    have bounded := Bytes.leNat_lt wire.check
    rwa [wire.check_length] at bounded
  have checkNat : headers.check.toNat = Bytes.leNat wire.check := by
    rw [Xdp.Envelope.check, Bytes.le16, envelope_check cut, UInt16.toNat_ofNat']
    exact Nat.mod_eq_of_lt checkLt
  have seed : ((65535 - headers.check.toNat : Nat) : ZMod 65535) = -(256 * residue wire.check) := by
    have ones : ((65535 : Nat) : ZMod 65535) = 0 := rfl
    have field := residue_leBytes checkLt
    rw [← wire.check_length, Bytes.leBytes_leNat] at field
    rw [field, swap_swap, checkNat, Nat.cast_sub (by omega), ones, zero_sub]
  obtain ⟨first, firstEq⟩ := csumDiff_isSome
    ([0, ipprotoTcp] ++ Bytes.beBytes16 (wire.payloadLen + tcphdrSize))
    ([0, ipprotoUdp] ++ Bytes.beBytes16 (wire.payloadLen + udphdrSize)) (65535 - headers.check.toNat)
    (by simp [Bytes.beBytes16]) (by simp [Bytes.beBytes16]) (by simp [Bytes.beBytes16])
  obtain ⟨second, secondEq⟩ := csumDiff_isSome (wire.tcpWith [0, 0]) (wire.udpWith [0, 0]) first
    (by rw [wire.length_tcpWith rfl]) (by rw [wire.length_udpWith rfl])
    (by rw [wire.length_tcpWith rfl, wire.length_udpWith rfl]; decide)
  have third : ∃ sum, (if wire.payloadLen % 2 = 1 then rotationChecksum wire.tail second true else some second) =
      some sum ∧ sum < 2 ^ 32 ∧ (sum : ZMod 65535) = second + 256 *
        wire.rotation := by
    have secondLt := csumDiff_lt secondEq (csumDiff_lt firstEq seedLt)
    rw [rotation]
    split
    · obtain ⟨sum, computed⟩ := rotationChecksum_isSome wire.tail_length second true
      exact ⟨sum, computed, rotationChecksum_lt computed secondLt, rotationChecksum_residue computed⟩
    · exact ⟨second, rfl, secondLt, by rw [mul_zero, add_zero]⟩
  obtain ⟨sum, sumEq, sumLt, sumResidue⟩ := third
  let check := if foldCsum sum = 0 then 0xffff else foldCsum sum
  have checkBound : check < 65536 := by
    simp only [check]
    split
    · decide
    · exact foldCsum_lt sum
  have checkResidue : (check : ZMod 65535) = -sum := by
    rw [← cast_foldCsum sumLt]
    simp only [check]
    split
    · rename_i zero
      rw [zero]
      rfl
    · rfl
  refine ⟨check, checkBound, ?_, ?_, ?_⟩
  · simp only [check]
    split
    · decide
    · assumption
  · have written : wire.ports ++ Bytes.beBytes16 (wire.payloadLen + udphdrSize) ++ [0, 0] = wire.udpWith [0, 0] := by
      simp only [udpWith, List.append_assoc]
    simp only [Xdp.decodedUdp, envelope_ports cut, envelope_cleared cut, firstEq, written, secondEq, sumEq]
    simp only [udpWith, List.append_assoc, check]
  · rw [Balances, residue_leBytes checkBound, checkResidue, sumResidue, csumDiff_residue secondEq,
      csumDiff_residue firstEq, seed]
    have wrap : (256 * 256 : ZMod 65535) = 1 := rfl
    linear_combination (residue wire.check -
      (residue ([0, ipprotoUdp] ++ Bytes.beBytes16 (wire.payloadLen + udphdrSize)) -
        residue ([0, ipprotoTcp] ++ Bytes.beBytes16 (wire.payloadLen + tcphdrSize))) -
      (residue (wire.udpWith [0, 0]) - residue (wire.tcpWith [0, 0])) - wire.rotation) * wrap

end Envelope

/-- The frame after the three stores; the rotated bytes are still in place. -/
def decodedFrame (ipField udpField : Bytes) : Bytes :=
  wire.link ++ (wire.decodedIpWith (wire.totalLen - headerDelta) ipField ++
    (wire.udpWith udpField ++ (wire.tail ++ (wire.rest ++ (wire.tail ++ wire.padding)))))

end WireFrame

namespace Xdp

/-- What the transform branch may assume about a frame and its cut. The legacy
build has bounded offsets. -/
structure Received (build : Build) (ctx : Context) (headers : Envelope) (l3 : L3Info)
    (admission : IngressAdmission) (wire : WireFrame) : Prop where
  frame : ctx.frame = wire.bytes
  start : l3.l3Off = wire.link.length
  transport : l3.l4Off = wire.link.length + 20
  envelope : headers.bytes = wire.ip ++ wire.tcp
  payload : admission.payloadLen = wire.payloadLen
  total : admission.wireTotalLen = wire.totalLen
  bounded : build = .legacy515 → wire.link.length ≤ 22 ∧ wire.totalLen ≤ maxIpv4TotalLen + headerDelta

variable {build : Build} {ctx : Context} {headers : Envelope} {l3 : L3Info} {admission : IngressAdmission}
  {wire : WireFrame}

theorem loadBytes_append {first part rest : Bytes} (reach : build = .legacy515 → first.length ≤ legacyMaxOffset) :
    loadBytes build (first ++ (part ++ rest)) first.length part.length = some part := by
  have inside : ¬(build = .legacy515 ∧ first.length > legacyMaxOffset) := fun ⟨legacy, far⟩ =>
    absurd (reach legacy) (by omega)
  rw [loadBytes, if_neg inside, if_neg (by simp only [List.length_append]; omega),
    Bytes.slice_skip (Nat.le_refl _), Nat.sub_self, Bytes.slice_here rfl]

theorem storeBytes_append {first old source rest : Bytes} (sized : source.length = old.length)
    (reach : build = .legacy515 → first.length ≤ legacyMaxOffset) :
    storeBytes build (first ++ (old ++ rest)) first.length source = some (first ++ (source ++ rest)) := by
  have inside : ¬(build = .legacy515 ∧ first.length > legacyMaxOffset) := fun ⟨legacy, far⟩ =>
    absurd (reach legacy) (by omega)
  rw [storeBytes, if_neg inside, if_neg (by simp only [List.length_append, sized]; omega),
    Bytes.store_append rfl sized]

/-- The transform on a cut frame: it leaves the frame alone, or writes the decoded
one and may give the rotated bytes back. -/
theorem transform_frame (kernel : Kernel) (env : Env) (generation : UInt64) (session : SessionSnapshot)
    (received : Received build ctx headers l3 admission wire)
    (ipEq : decodedIp headers (wire.totalLen - headerDelta) =
      some (wire.decodedIpWith (wire.totalLen - headerDelta) ipField)) (ipSized : ipField.length = 2)
    (udpEq : decodedUdp headers wire.tail wire.payloadLen = some (wire.udpWith udpField))
    (udpSized : udpField.length = 2) :
    let outcome := transformBranch build kernel env ctx headers l3 generation admission session
    let decoded := wire.decodedFrame ipField udpField
    (env.adjustMeta = false → outcome.frame = ctx.frame ∧ outcome.action = .drop) ∧
      (env.adjustMeta = true → outcome.frame = decoded ∨
        outcome.frame = decoded.take (decoded.length - headerDelta)) := by
  have delta : headerDelta = 12 := rfl
  have ipLen := wire.length_ip
  have tcpLen := wire.length_tcp
  have newIpLen : (wire.decodedIpWith (wire.totalLen - headerDelta) ipField).length = 20 :=
    wire.length_decodedIpWith ipSized
  have udpLen := wire.length_udpWith udpSized
  have totalEq : wire.totalLen = 40 + (wire.rest.length + 12) := rfl
  have reach (offset : Nat) (within : offset ≤ wire.link.length + wire.totalLen) :
      build = .legacy515 → offset ≤ legacyMaxOffset := by
    intro legacy
    have bounds := received.bounded legacy
    have maximum : legacyMaxOffset = 14 + 2 * 4 + 2304 + 12 := rfl
    have total : maxIpv4TotalLen = 2304 := rfl
    omega
  let rotated := wire.rest ++ (wire.tail ++ wire.padding)
  have tailEq : loadBytes build ctx.frame (l3.l3Off + wire.totalLen - headerDelta) headerDelta =
      some wire.tail := by
    let front := wire.link ++ (wire.ip ++ (wire.tcp ++ wire.rest))
    have whole : ctx.frame = front ++ (wire.tail ++ wire.padding) := by
      rw [received.frame, WireFrame.bytes]
      simp only [front, List.append_assoc]
    have here : front.length = wire.link.length + (40 + wire.rest.length) := by
      simp only [front, List.length_append, ipLen, tcpLen]
      omega
    have offset : l3.l3Off + wire.totalLen - headerDelta = front.length := by
      rw [received.start, totalEq, here]
      omega
    have loaded : loadBytes build (front ++ (wire.tail ++ wire.padding)) front.length wire.tail.length =
        some wire.tail := loadBytes_append (reach front.length (by omega))
    rw [wire.tail_length] at loaded
    rw [offset, whole, loaded]
  have headerCut : (wire.tcp.take 8).length = 8 ∧ (wire.tcp.drop 8).length = 12 := by
    rw [List.length_take, List.length_drop, tcpLen]
    decide
  have udpStored : storeBytes build ctx.frame l3.l4Off (wire.udpWith udpField) =
      some ((wire.link ++ wire.ip) ++ (wire.udpWith udpField ++ (wire.tcp.drop 8 ++ rotated))) := by
    have whole : ctx.frame = (wire.link ++ wire.ip) ++ (wire.tcp.take 8 ++ (wire.tcp.drop 8 ++ rotated)) := by
      rw [← List.append_assoc (wire.tcp.take 8), List.take_append_drop, received.frame, WireFrame.bytes,
        List.append_assoc]
    have offset : l3.l4Off = (wire.link ++ wire.ip).length := by
      rw [received.transport, List.length_append, ipLen]
    rw [offset, whole]
    apply storeBytes_append (udpLen.trans headerCut.1.symm)
    exact reach _ (by rw [List.length_append]; omega)
  have tailStored : storeBytes build
      ((wire.link ++ wire.ip) ++ (wire.udpWith udpField ++ (wire.tcp.drop 8 ++ rotated)))
      (l3.l4Off + udphdrSize) wire.tail =
      some ((wire.link ++ (wire.ip ++ wire.udpWith udpField)) ++ (wire.tail ++ rotated)) := by
    have whole : (wire.link ++ wire.ip) ++ (wire.udpWith udpField ++ (wire.tcp.drop 8 ++ rotated)) =
        (wire.link ++ (wire.ip ++ wire.udpWith udpField)) ++ (wire.tcp.drop 8 ++ rotated) := by
      simp only [List.append_assoc]
    have offset : l3.l4Off + udphdrSize = (wire.link ++ (wire.ip ++ wire.udpWith udpField)).length := by
      simp only [received.transport, List.length_append, ipLen, udpLen, udphdrSize]
    rw [offset, whole]
    apply storeBytes_append (wire.tail_length.trans headerCut.2.symm)
    exact reach _ (by simp only [List.length_append]; omega)
  have ipStored : storeBytes build ((wire.link ++ (wire.ip ++ wire.udpWith udpField)) ++ (wire.tail ++ rotated))
      l3.l3Off (wire.decodedIpWith (wire.totalLen - headerDelta) ipField) =
      some (wire.decodedFrame ipField udpField) := by
    have whole : (wire.link ++ (wire.ip ++ wire.udpWith udpField)) ++ (wire.tail ++ rotated) =
        wire.link ++ (wire.ip ++ (wire.udpWith udpField ++ (wire.tail ++ rotated))) := by
      simp only [List.append_assoc]
    rw [received.start, whole, WireFrame.decodedFrame]
    apply storeBytes_append (newIpLen.trans ipLen.symm)
    exact reach _ (by omega)
  intro outcome decoded
  have evaluated : outcome = transformBranch build kernel env ctx headers l3 generation admission session := rfl
  simp only [transformBranch, tailEq, received.payload, received.total, udpEq, udpStored, tailStored, ipEq,
    ipStored] at evaluated
  constructor
  · intro refused
    rw [if_pos refused] at evaluated
    rw [evaluated]
    exact ⟨rfl, rfl⟩
  · intro accepted
    rw [if_neg (by rw [accepted]; decide)] at evaluated
    split at evaluated
    · rw [evaluated]
      exact .inl rfl
    split at evaluated
    all_goals
      rw [evaluated]
      dsimp only
      split
      · exact .inr rfl
      · exact .inl rfl

end Xdp

/-- The IPv4 packet at an offset, cut to its own total length. -/
def ipv4Packet (frame : Bytes) (l3Off : Nat) : Bytes := frame.slice l3Off (frame.be16 (l3Off + 2))

/-- The checksum of a fixed-header packet's transport verifies over its pseudo
header: the sum is zero modulo 2^16 - 1. -/
def transportVerifies (packet : Bytes) : Prop :=
  (wordSum (packet.slice 12 8) + (packet.byteAt 9).toNat + (packet.length - iphdrSize) +
    wordSum (packet.drop iphdrSize)) % 65535 = 0

instance (packet : Bytes) : Decidable (transportVerifies packet) :=
  inferInstanceAs (Decidable (_ % 65535 = 0))

namespace WireFrame

theorem byteAt_protocol {vtos total ident ipCheck addresses transport : Bytes} {protocol : UInt8}
    (first : vtos.length = 2) (second : total.length = 2) (third : ident.length = 5) :
    (ipWith vtos total ident [protocol] ipCheck addresses ++ transport).byteAt 9 = protocol := by
  have front : (vtos ++ (total ++ ident)).length = 9 := by
    simp only [List.length_append, first, second, third]
  have whole : ipWith vtos total ident [protocol] ipCheck addresses ++ transport =
      (vtos ++ (total ++ ident)) ++ (protocol :: (ipCheck ++ (addresses ++ transport))) := by
    simp only [ipWith, List.append_assoc, List.cons_append, List.nil_append]
  rw [whole, Bytes.byteAt_skip (Nat.le_of_eq front), front]
  rfl

/-- A header in front of a transport, read field by field. -/
theorem verifies_iff {vtos total ident ipCheck addresses : Bytes} {protocol : UInt8} (first : vtos.length = 2)
    (second : total.length = 2) (third : ident.length = 5) (fifth : ipCheck.length = 2)
    (sixth : addresses.length = 8) (transport : Bytes) :
    transportVerifies (ipWith vtos total ident [protocol] ipCheck addresses ++ transport) ↔
      residue addresses + protocol.toNat + transport.length + residue transport = 0 := by
  let header := ipWith vtos total ident [protocol] ipCheck addresses
  have sized : header.length = 20 := length_ipWith first second third rfl fifth sixth
  have atAddresses : (header ++ transport).slice 12 8 = addresses := by
    have front : (vtos ++ (total ++ (ident ++ ([protocol] ++ ipCheck)))).length = 12 := by
      simp only [List.length_append, first, second, third, fifth, List.length_singleton]
    have whole : header ++ transport =
        (vtos ++ (total ++ (ident ++ ([protocol] ++ ipCheck)))) ++ (addresses ++ transport) := by
      simp only [header, ipWith, List.append_assoc]
    rw [whole, Bytes.slice_skip (Nat.le_of_eq front), front, Bytes.slice_here sixth]
  have atProtocol : (header ++ transport).byteAt 9 = protocol := byteAt_protocol first second third
  have atTransport : (header ++ transport).drop iphdrSize = transport := by
    rw [show iphdrSize = header.length from sized.symm, List.drop_left]
  have transportLength : (header ++ transport).length - iphdrSize = transport.length := by
    rw [List.length_append, sized, iphdrSize]
    omega
  rw [transportVerifies, atAddresses, atProtocol, atTransport, transportLength, ← Nat.dvd_iff_mod_eq_zero,
    ← ZMod.natCast_eq_zero_iff]
  simp only [Nat.cast_add, residue]

variable (wire : WireFrame)

theorem residue_tcpWith {field : Bytes} (sized : field.length = 2) :
    residue (wire.tcpWith field) = residue (wire.tcpWith [0, 0]) + residue field := by
  have split {value : Bytes} (valueSized : value.length = 2) : residue (wire.tcpWith value) =
      residue wire.ports + (residue wire.sequences + (residue value + residue wire.urgent)) := by
    rw [tcpWith, residue_append (by rw [wire.ports_length]), residue_append (by rw [wire.sequences_length]),
      residue_append (by rw [valueSized])]
  have zeros : residue [0, 0] = 0 := rfl
  rw [split sized, split rfl, zeros]
  ring

theorem residue_udpWith (field : Bytes) :
    residue (wire.udpWith field) = residue (wire.udpWith [0, 0]) + residue field := by
  have split {value : Bytes} : residue (wire.udpWith value) = residue wire.ports +
      (residue (Bytes.beBytes16 (wire.payloadLen + udphdrSize)) + residue value) := by
    rw [udpWith, residue_append (by rw [wire.ports_length]), residue_append (by simp [Bytes.beBytes16])]
  have zeros : residue [0, 0] = 0 := rfl
  rw [split, split, zeros]
  ring

/-- Moving the tail in front changes the payload sum by its lane correction. -/
theorem residue_rotated :
    residue (wire.rest ++ wire.tail) = residue (wire.tail ++ wire.rest) -
      wire.rotation := by
  have parity : wire.payloadLen % 2 = wire.rest.length % 2 := by
    simp only [payloadLen, headerDelta]
    omega
  rw [residue_append (show wire.tail.length % 2 = 0 by rw [wire.tail_length]; rfl), rotation, parity]
  rcases Nat.mod_two_eq_zero_or_one wire.rest.length with even | odd
  · rw [residue_append even, if_neg (by omega)]
    ring
  · rw [residue_append_odd odd, if_pos odd]
    ring

theorem residue_pseudo (protocol : UInt8) {length : Nat} (bounded : length < 65536) :
    residue ([0, protocol] ++ Bytes.beBytes16 length) = protocol.toNat + length := by
  rw [residue_append (by simp), residue_beBytes16 bounded]
  simp [residue, wordSum]

/-- The received packet, with a known total length. -/
theorem packet_bytes (declared : wire.bytes.be16 (wire.link.length + 2) = wire.totalLen) :
    ipv4Packet wire.bytes wire.link.length = wire.ip ++ (wire.tcp ++ (wire.rest ++ wire.tail)) := by
  have sized : (wire.ip ++ (wire.tcp ++ (wire.rest ++ wire.tail))).length = wire.totalLen := by
    simp only [List.length_append, wire.length_ip, wire.length_tcp, wire.tail_length, totalLen, payloadLen]
    omega
  have whole : wire.bytes = wire.link ++ ((wire.ip ++ (wire.tcp ++ (wire.rest ++ wire.tail))) ++ wire.padding) := by
    simp only [bytes, List.append_assoc]
  rw [ipv4Packet, declared, whole, Bytes.slice_skip (Nat.le_refl _), Nat.sub_self, Bytes.slice_here sized]

/-- The decoded packet, whether or not the rotated bytes were cut off. -/
theorem packet_decoded {ipField udpField frame : Bytes} (ipSized : ipField.length = 2)
    (udpSized : udpField.length = 2) (bounded : wire.totalLen < 65536)
    (written : frame = wire.decodedFrame ipField udpField ∨
      frame = (wire.decodedFrame ipField udpField).take
        ((wire.decodedFrame ipField udpField).length - headerDelta)) :
    ipv4Packet frame wire.link.length = wire.decodedIpWith (wire.totalLen - headerDelta) ipField ++
      (wire.udpWith udpField ++ (wire.tail ++ wire.rest)) := by
  let packet := wire.decodedIpWith (wire.totalLen - headerDelta) ipField ++
    (wire.udpWith udpField ++ (wire.tail ++ wire.rest))
  have delta : headerDelta = 12 := rfl
  have ipLen : (wire.decodedIpWith (wire.totalLen - headerDelta) ipField).length = 20 :=
    wire.length_decodedIpWith ipSized
  have sized : packet.length = wire.totalLen - headerDelta := by
    simp only [packet, List.length_append, ipLen, wire.length_udpWith udpSized, wire.tail_length]
    simp only [totalLen, payloadLen]
    omega
  have whole : wire.decodedFrame ipField udpField = (wire.link ++ packet) ++ (wire.tail ++ wire.padding) := by
    simp only [decodedFrame, packet, List.append_assoc]
  obtain ⟨extra, layout⟩ : ∃ extra, frame = wire.link ++ (packet ++ extra) := by
    rcases written with rfl | rfl
    · exact ⟨wire.tail ++ wire.padding, by rw [whole, List.append_assoc]⟩
    · refine ⟨(wire.tail ++ wire.padding).take wire.padding.length, ?_⟩
      have kept : (wire.decodedFrame ipField udpField).length - headerDelta =
          (wire.link ++ packet).length + wire.padding.length := by
        simp only [whole, List.length_append, wire.tail_length]
        omega
      rw [kept, whole, List.take_length_add_append, List.append_assoc]
  have declared : frame.be16 (wire.link.length + 2) = wire.totalLen - headerDelta := by
    have front : (wire.link ++ wire.vtos).length = wire.link.length + 2 := by
      rw [List.length_append, wire.vtos_length]
    have fields : frame = (wire.link ++ wire.vtos) ++ (Bytes.beBytes16 (wire.totalLen - headerDelta) ++
        (wire.ident ++ ([ipprotoUdp] ++ (ipField ++ (wire.addresses ++
          (wire.udpWith udpField ++ (wire.tail ++ wire.rest) ++ extra)))))) := by
      rw [layout]
      simp only [packet, decodedIpWith, ipWith, List.append_assoc]
    rw [fields, Bytes.be16_skip (Nat.le_of_eq front), front, Nat.sub_self]
    exact Bytes.be16_beBytes16 (by omega) _
  rw [ipv4Packet, declared, layout, Bytes.slice_skip (Nat.le_refl _), Nat.sub_self, Bytes.slice_here sized]

end WireFrame

namespace Xdp

variable {build : Build} {maps : PolicyMaps} {kernel : Kernel} {ctx : Context} {headers : Envelope}
  {l3 : L3Info} {managed : ManagedPortValue} {policyListener : Option IngressListenerValue}
  {managedInterface : Bool} {generation : UInt64} {admission : IngressAdmission} {session : SessionSnapshot}
  {wire : WireFrame}

/-- A managed frame in front of the transform branch: parsed, its headers loaded,
and classified by the checkpoint. -/
structure ReachesTransform (build : Build) (maps : PolicyMaps) (kernel : Kernel) (ctx : Context)
    (headers : Envelope) (l3 : L3Info) (managed : ManagedPortValue)
    (policyListener : Option IngressListenerValue) (managedInterface : Bool) (generation : UInt64)
    (admission : IngressAdmission) (session : SessionSnapshot) : Prop where
  parsed : ∃ l3Off family, parseL3 ctx.frame ctx.frame.length l3Off family = (.ok, l3)
  loaded : loadEnvelope build ctx.frame l3.l3Off = some headers.bytes
  classified : (admissionCheckpoint build maps kernel ctx headers l3 managed policyListener managedInterface
    generation).2 = .transform admission session

/-- A frame that reaches the transform can be cut as it expects. -/
theorem ReachesTransform.received (reached : ReachesTransform build maps kernel ctx headers l3 managed
    policyListener managedInterface generation admission session) :
    ∃ wire, Received build ctx headers l3 admission wire ∧ wire.protocol = [ipprotoTcp] ∧
      wire.bytes.be16 (wire.link.length + 2) = wire.totalLen ∧
      wire.totalLen ≤ maxIpv4TotalLen + headerDelta := by
  obtain ⟨l3Off, family, parsed⟩ := reached.parsed
  obtain ⟨_, dropped | ⟨policy, profile, cipher, admitted, classified⟩⟩ :=
    checkpoint_cases build maps kernel ctx headers l3 managed policyListener managedInterface generation
  · rw [reached.classified] at dropped
    cases dropped
  rw [reached.classified] at classified
  obtain ⟨rfl, _, enough, _⟩ := classified
  have shape := admitted.shape
  rw [managedTransformStatus] at shape
  split at shape
  · cases shape
  rename_i fixed
  simp only [not_or, Decidable.not_not] at fixed
  have ipv4 := parseL3_ipv4 parsed fixed.1
  have loaded := reached.loaded
  rw [loadEnvelope] at loaded
  split at loaded
  · cases loaded
  rename_i offsets
  split at loaded
  · cases loaded
  rename_i inside
  have headerBytes : headers.bytes = ctx.frame.slice l3.l3Off 40 := (Option.some.inj loaded).symm
  have exactLen := admitted.exactLen
  have minimum := admitted.minimum
  have within := ipv4.within
  rw [← ipv4.start] at within
  have payloadEq : (admissionOf ctx headers policy generation).payloadLen = headers.totalLen - 20 - 20 := rfl
  have sizes : iphdrSize = 20 ∧ tcphdrSize = 20 := ⟨rfl, rfl⟩
  obtain ⟨wire, frame, start, payload⟩ := WireFrame.exists_of_length ctx.frame l3.l3Off
    (headers.totalLen - 20 - 20) (by omega) enough
  have totalEq : headers.totalLen = wire.totalLen := by
    rw [WireFrame.totalLen, payload]
    omega
  refine ⟨wire, ⟨frame.symm, start.symm, ?_, ?_, payload.symm, totalEq, ?_⟩, ?_, ?_, ?_⟩
  · rw [admitted.adjacent, start, iphdrSize]
  · have cutLen : (wire.ip ++ wire.tcp).length = 40 := by
      rw [List.length_append, wire.length_ip, wire.length_tcp]
    rw [headerBytes, ← frame, ← start, WireFrame.bytes, Bytes.slice_skip (Nat.le_refl _), Nat.sub_self,
      ← List.append_assoc, Bytes.slice_here cutLen]
  · intro legacy
    have known : l3.l3Off = 0 ∨ l3.l3Off = 14 ∨ l3.l3Off = 18 ∨ l3.l3Off = 22 := by
      have sizes : ethhdrSize = 14 ∧ vlanSize = 4 := ⟨rfl, rfl⟩
      simp only [not_and, Decidable.not_not] at offsets
      by_contra none
      have last := offsets legacy
      omega
    have maximum := admitted.maximum
    omega
  · have front : (wire.link ++ (wire.vtos ++ (wire.total ++ wire.ident))).length = l3Off + 9 := by
      simp only [List.length_append, wire.vtos_length, wire.total_length, wire.ident_length]
      rw [start, ipv4.start]
    have protocolByte := ipv4.protocol
    rw [fixed.2.2] at protocolByte
    obtain ⟨byte, single⟩ := List.length_eq_one_iff.mp wire.protocol_length
    have whole : ctx.frame = (wire.link ++ (wire.vtos ++ (wire.total ++ wire.ident))) ++
        (byte :: (wire.ipCheck ++ (wire.addresses ++ (wire.tcp ++ (wire.rest ++ (wire.tail ++ wire.padding)))))) := by
      rw [← frame, WireFrame.bytes, WireFrame.ip, WireFrame.ipWith, single]
      simp only [List.append_assoc, List.cons_append, List.nil_append]
    rw [whole, Bytes.byteAt_skip (Nat.le_of_eq front), front, Nat.sub_self] at protocolByte
    rw [single, protocolByte]
    rfl
  · rw [frame, start, ipv4.start, ← ipv4.totalLen, ← exactLen, totalEq]
  · rw [← totalEq]
    exact admitted.maximum

/-- The packet that the transform writes, once it may prepend its metadata. -/
theorem Received.decoded (received : Received build ctx headers l3 admission wire) (running : Kernel) (env : Env)
    (generation : UInt64) (session : SessionSnapshot) (opened : env.adjustMeta = true)
    (bounded : wire.totalLen < 65536) :
    ∃ sum check, csumDiff [] (wire.decodedIpWith (wire.totalLen - headerDelta) [0, 0]) 0 = some sum ∧
      check < 65536 ∧ check ≠ 0 ∧
      ipv4Packet (transformBranch build running env ctx headers l3 generation admission session).frame l3.l3Off =
        wire.decodedIpWith (wire.totalLen - headerDelta) (Bytes.leBytes 2 (foldCsum sum)) ++
          (wire.udpWith (Bytes.leBytes 2 check) ++ (wire.tail ++ wire.rest)) ∧
      wire.Balances check := by
  obtain ⟨sum, computed, ipEq⟩ := WireFrame.decodedIp_eq received.envelope (wire.totalLen - headerDelta)
  obtain ⟨check, checkLt, nonzero, udpEq, balance⟩ := WireFrame.decodedUdp_eq received.envelope
  have written := (transform_frame running env generation session received ipEq (Bytes.length_leBytes _ _) udpEq
    (Bytes.length_leBytes _ _)).2 opened
  have packet := wire.packet_decoded (Bytes.length_leBytes _ _) (Bytes.length_leBytes _ _) bounded written
  rw [← received.start] at packet
  exact ⟨sum, check, computed, checkLt, nonzero, packet, balance⟩

/-- The pseudo header, header and payload of both packets have one residue. -/
theorem Received.keeps_verification (received : Received build ctx headers l3 admission wire)
    (protocol : wire.protocol = [ipprotoTcp]) (declared : wire.bytes.be16 (wire.link.length + 2) = wire.totalLen)
    (maximum : wire.totalLen ≤ maxIpv4TotalLen + headerDelta) (running : Kernel) (env : Env) (generation : UInt64)
    (session : SessionSnapshot) (opened : env.adjustMeta = true) :
    let outcome := transformBranch build running env ctx headers l3 generation admission session
    (ipv4Packet ctx.frame l3.l3Off).byteAt 9 = ipprotoTcp ∧
      (ipv4Packet outcome.frame l3.l3Off).byteAt 9 = ipprotoUdp ∧
      (transportVerifies (ipv4Packet outcome.frame l3.l3Off) ↔
        transportVerifies (ipv4Packet ctx.frame l3.l3Off)) := by
  intro outcome
  have bounds : maxIpv4TotalLen + headerDelta = 2316 := rfl
  have total : wire.totalLen = 40 + wire.payloadLen := rfl
  obtain ⟨sum, check, _, _, _, after, balance⟩ :=
    received.decoded running env generation session opened (by omega)
  have before := wire.packet_bytes declared
  rw [← received.start, ← received.frame, WireFrame.ip, protocol] at before
  rw [WireFrame.decodedIpWith] at after
  rw [before, after]
  refine ⟨WireFrame.byteAt_protocol wire.vtos_length wire.total_length wire.ident_length,
    WireFrame.byteAt_protocol wire.vtos_length rfl wire.ident_length, ?_⟩
  rw [WireFrame.verifies_iff wire.vtos_length wire.total_length wire.ident_length wire.ipCheck_length
      wire.addresses_length,
    WireFrame.verifies_iff wire.vtos_length rfl wire.ident_length (Bytes.length_leBytes _ _)
      wire.addresses_length]
  have udpLength : (wire.udpWith (Bytes.leBytes 2 check) ++ (wire.tail ++ wire.rest)).length =
      wire.payloadLen + udphdrSize := by
    simp only [List.length_append, wire.length_udpWith (Bytes.length_leBytes _ _), wire.tail_length]
    simp only [WireFrame.payloadLen, udphdrSize]
    omega
  have tcpLength : (wire.tcp ++ (wire.rest ++ wire.tail)).length = wire.payloadLen + tcphdrSize := by
    simp only [List.length_append, wire.length_tcp, wire.tail_length]
    simp only [WireFrame.payloadLen, tcphdrSize]
    omega
  have udpResidue : residue (wire.udpWith (Bytes.leBytes 2 check) ++ (wire.tail ++ wire.rest)) =
      residue (wire.udpWith [0, 0]) + residue (Bytes.leBytes 2 check) + residue (wire.tail ++ wire.rest) := by
    rw [residue_append (by rw [wire.length_udpWith (Bytes.length_leBytes _ _)]), wire.residue_udpWith]
  have tcpResidue : residue (wire.tcp ++ (wire.rest ++ wire.tail)) =
      residue (wire.tcpWith [0, 0]) + residue wire.check + residue (wire.rest ++ wire.tail) := by
    rw [residue_append (by rw [wire.length_tcp]), WireFrame.tcp, wire.residue_tcpWith wire.check_length]
  have rotated := wire.residue_rotated
  rw [WireFrame.Balances, WireFrame.residue_pseudo _ (by simp only [udphdrSize]; omega),
    WireFrame.residue_pseudo _ (by simp only [tcphdrSize]; omega)] at balance
  rw [udpLength, tcpLength, udpResidue, tcpResidue]
  have same : residue wire.addresses + ipprotoUdp.toNat + (wire.payloadLen + udphdrSize : Nat) +
      (residue (wire.udpWith [0, 0]) + residue (Bytes.leBytes 2 check) + residue (wire.tail ++ wire.rest)) =
      residue wire.addresses + ipprotoTcp.toNat + (wire.payloadLen + tcphdrSize : Nat) +
      (residue (wire.tcpWith [0, 0]) + residue wire.check + residue (wire.rest ++ wire.tail)) := by
    linear_combination balance - rotated
  rw [same]

/-- The transform carries the checksum residual through: the UDP packet it writes
verifies if and only if the received TCP packet did, whatever bytes either holds. -/
theorem transform_keeps_verification (running : Kernel) (env : Env)
    (reached : ReachesTransform build maps kernel ctx headers l3 managed policyListener managedInterface
      generation admission session) (opened : env.adjustMeta = true) :
    let outcome := transformBranch build running env ctx headers l3 generation admission session
    (ipv4Packet ctx.frame l3.l3Off).byteAt 9 = ipprotoTcp ∧
      (ipv4Packet outcome.frame l3.l3Off).byteAt 9 = ipprotoUdp ∧
      (transportVerifies (ipv4Packet outcome.frame l3.l3Off) ↔
        transportVerifies (ipv4Packet ctx.frame l3.l3Off)) := by
  obtain ⟨wire, received, protocol, declared, maximum⟩ := reached.received
  exact received.keeps_verification protocol declared maximum running env generation session opened

section Example

/-- The established session between 192.0.2.1:51820 and 198.51.100.9:40000. -/
def sampleKernel : Kernel where
  sessions key := if key = samplePeer then
    some { generation := 7, lastSeenNanos := 0, txSequence := 100, rxSequence := 1, localIsn := 99, remoteIsn := 0,
           window := 65535, state := .established, revision := 1, sessionId := 5,
           runtimeIncarnation := sampleIncarnation } else none

/-- An Ethernet frame of that session with an odd payload: a data message whose
first twelve bytes were moved to the end. -/
def sampleContext (check : Bytes) : Context where
  frame := [2, 0, 0, 0, 0, 1, 2, 0, 0, 0, 0, 2, 0x08, 0x00] ++
    [0x45, 0, 0, 73, 0, 1, 0x40, 0, 64, 6, 0, 0, 198, 51, 100, 9, 192, 0, 2, 1] ++
    [0x9c, 0x40, 0xca, 0x6c, 0, 0, 0, 1, 0, 0, 0, 100, 0x50, 0x10, 0xff, 0xff] ++ check ++ [0, 0] ++
    List.replicate 21 7 ++ [0xdd, 0x44, 0, 0, 9, 9, 9, 9, 1, 2, 3, 4]
  ingressIfindex := 2

def sampleL3 (check : Bytes) : L3Info :=
  (parseL3 (sampleContext check).frame (sampleContext check).frame.length 14 .ipv4).2

def sampleHeaders (check : Bytes) : Envelope := ⟨(sampleContext check).frame.slice 14 40⟩

def SampleReaches (check : Bytes) (admission : IngressAdmission) (session : SessionSnapshot) : Prop :=
  ReachesTransform .default sampleMaps sampleKernel (sampleContext check) (sampleHeaders check) (sampleL3 check)
    ⟨7, 1, .rewrite⟩ (some ⟨7, 1, 1, 0, .rewrite, .faketcp⟩) true 7 admission session

def sampleDecision (check : Bytes) : Decision :=
  (admissionCheckpoint .default sampleMaps sampleKernel (sampleContext check) (sampleHeaders check)
    (sampleL3 check) ⟨7, 1, .rewrite⟩ (some ⟨7, 1, 1, 0, .rewrite, .faketcp⟩) true 7).2

/-- What the transform branch is entered with. -/
def transformOf : Decision → Option (IngressAdmission × SessionSnapshot)
  | .transform admission session => some (admission, session)
  | _ => none

theorem exists_transform {decision : Decision} (entered : (transformOf decision).isSome = true) :
    ∃ admission session, decision = .transform admission session := by
  cases decision with
  | transform admission session => exact ⟨admission, session, rfl⟩
  | drop => cases entered
  | control => cases entered
  | close => cases entered
  | keepalive => cases entered

def sampleFrame (check : Bytes) (admission : IngressAdmission) (session : SessionSnapshot) : Bytes :=
  (transformBranch .default sampleKernel { now := 1000 } (sampleContext check) (sampleHeaders check)
    (sampleL3 check) 7 admission session).frame

end Example

/-- One frame with a valid checksum and one with a corrupted field, both in front
of the transform: the first verifies afterwards, the second does not. -/
theorem sample_frames_keep_verification :
    (∃ admission session, SampleReaches [0xb2, 0x29] admission session ∧
      transportVerifies (ipv4Packet (sampleFrame [0xb2, 0x29] admission session) (sampleL3 [0xb2, 0x29]).l3Off)) ∧
    ∃ admission session, SampleReaches [0, 0] admission session ∧
      ¬ transportVerifies (ipv4Packet (sampleFrame [0, 0] admission session) (sampleL3 [0, 0]).l3Off) := by
  constructor
  · obtain ⟨admission, session, classified⟩ :=
      exists_transform (show (transformOf (sampleDecision [0xb2, 0x29])).isSome = true by decide +kernel)
    have reached : SampleReaches [0xb2, 0x29] admission session :=
      ⟨⟨14, .ipv4, Prod.ext (by decide +kernel) rfl⟩, by decide +kernel, classified⟩
    refine ⟨admission, session, reached, ?_⟩
    rw [sampleFrame, (transform_keeps_verification sampleKernel { now := 1000 } reached rfl).2.2]
    decide +kernel
  · obtain ⟨admission, session, classified⟩ :=
      exists_transform (show (transformOf (sampleDecision [0, 0])).isSome = true by decide +kernel)
    have reached : SampleReaches [0, 0] admission session :=
      ⟨⟨14, .ipv4, Prod.ext (by decide +kernel) rfl⟩, by decide +kernel, classified⟩
    refine ⟨admission, session, reached, ?_⟩
    rw [sampleFrame, (transform_keeps_verification sampleKernel { now := 1000 } reached rfl).2.2]
    decide +kernel

end Xdp
end WgMix.Bpf
