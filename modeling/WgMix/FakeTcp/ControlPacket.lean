import WgMix.Bpf.FakeTcpEgress
import WgMix.FakeTcp.L3Parser
import WgMix.FakeTcp.RawBackend

/-! The control packet that user space marshals is the one that the packet programs take for
canonical. Both sides verify the same two residues, in different byte orders and widths. -/
namespace WgMix.FakeTcp
open Bpf L3 OnesComplement

theorem finishChecksum_eq_zero (bounded : sum < 2 ^ 32) :
    finishChecksum sum = 0 ↔ 0 < sum ∧ (sum : ZMod 65535) = 0 := by
  have below := fold_lt bounded
  rw [finishChecksum, ZMod.natCast_eq_zero_iff]
  constructor
  · intro complete
    have ones : fold sum = 65535 := by omega
    have residue := fold_modEq sum
    refine ⟨?_, by omega⟩
    by_contra empty
    have zero : sum = 0 := by omega
    subst zero
    cases ones
  · rintro ⟨positive, multiple⟩
    rw [fold_eq_ones bounded positive (Nat.mod_eq_zero_of_dvd multiple)]

/-- A byte swap loses no residue. -/
theorem swapped_eq_zero (value : ZMod 65535) : 256 * value = 0 ↔ value = 0 := by
  constructor
  · intro zero
    rw [← swap_swap value, zero, mul_zero]
  · rintro rfl
    exact mul_zero _

section Agreement
variable {packet : Bytes}

theorem checksumValid_iff (short : packet.length ≤ 40) :
    checksumValid packet = true ↔ 0 < wordSum packet ∧ residue packet = 0 := by
  have bound := wordSum_le packet
  have small : wordSum packet < 2 ^ 32 := by omega
  rw [checksumValid, decide_eq_true_eq, addChecksumBytes, Nat.zero_add, Nat.mod_eq_of_lt small,
    finishChecksum_eq_zero small]
  rfl

/-- One accumulation of the packet program over whole words. -/
theorem csumDiff_residual (packet : Bytes) (seed : Nat) (whole : packet.length % 4 = 0)
    (short : packet.length ≤ 512) (seedLt : seed < 2 ^ 32) :
    ∃ sum, csumDiff [] packet seed = some sum ∧ sum < 2 ^ 32 ∧ (0 < sum ↔ 0 < seed + wordSum packet) ∧
      (sum : ZMod 65535) = seed + 256 * residue packet := by
  obtain ⟨sum, computed⟩ := csumDiff_isSome [] packet seed rfl whole (by simpa using short)
  refine ⟨sum, computed, csumDiff_lt computed seedLt, csumDiff_pos computed, ?_⟩
  rw [csumDiff_residue computed]
  simp [residue, wordSum]

/-- The program's test of a control packet's checksums is user space's. -/
theorem controlChecksumsValid_iff (sized : packet.length = 40) :
    Xdp.Envelope.controlChecksumsValid ⟨packet⟩ = true ↔ checksumValid (packet.take 20) = true ∧
      transportChecksumValid (packet.slice 12 8) 6 (packet.drop 20) = true := by
  have ip : Xdp.Envelope.ip ⟨packet⟩ = packet.take 20 := by
    simp only [Xdp.Envelope.ip, Bytes.slice, List.drop_zero]
  have tcp : Xdp.Envelope.tcp ⟨packet⟩ = packet.drop 20 := by
    rw [Xdp.Envelope.tcp, Bytes.slice, List.take_of_length_le]
    rw [List.length_drop, sized]
  have ipLength : (packet.take 20).length = 20 := by rw [List.length_take, sized]; rfl
  have tcpLength : (packet.drop 20).length = 20 := by rw [List.length_drop, sized]
  have addresses : (packet.slice 12 8).length = 8 := Bytes.length_slice (by omega)
  have all : (packet.slice 12 8).take 8 = packet.slice 12 8 := List.take_of_length_le (Nat.le_of_eq addresses)
  generalize pseudoIs : packet.slice 12 8 ++ [0, ipprotoTcp] ++ Bytes.beBytes16 tcphdrSize = pseudo
  have pseudoLength : pseudo.length = 12 := by
    rw [← pseudoIs, List.length_append, List.length_append, addresses]
    rfl
  have pseudoPositive : 0 < wordSum pseudo := by
    rw [← pseudoIs, List.append_assoc, wordSum_append (by rw [addresses])]
    exact Nat.lt_add_left _ (by decide)
  -- the two sums that user space folds
  have total : transportChecksumSum (packet.slice 12 8) 6 (packet.drop 20) =
      wordSum pseudo + wordSum (packet.drop 20) := by
    have low := wordSum_le pseudo
    have high := wordSum_le (packet.drop 20)
    rw [pseudoLength] at low
    rw [tcpLength] at high
    rw [transportChecksumSum, all, tcpLength]
    simp only [addChecksumBytes, Nat.zero_add]
    rw [show packet.slice 12 8 ++ [0, 6] ++ Bytes.beBytes16 (20 % 65536) = pseudo from pseudoIs,
      Nat.mod_eq_of_lt (by omega), Nat.mod_eq_of_lt (by omega)]
  have totalLt : wordSum pseudo + wordSum (packet.drop 20) < 2 ^ 32 := by
    have low := wordSum_le pseudo
    have high := wordSum_le (packet.drop 20)
    omega
  -- the three sums that the program folds
  obtain ⟨header, headerComputed, headerLt, headerPos, headerIs⟩ :=
    csumDiff_residual (packet.take 20) 0 (by omega) (by omega) (by decide)
  obtain ⟨first, firstComputed, firstLt, firstPos, firstIs⟩ :=
    csumDiff_residual pseudo 0 (by omega) (by omega) (by decide)
  obtain ⟨second, secondComputed, secondLt, secondPos, secondIs⟩ :=
    csumDiff_residual (packet.drop 20) first (by omega) (by omega) firstLt
  rw [Nat.zero_add] at headerPos firstPos
  rw [Nat.cast_zero, zero_add] at headerIs firstIs
  have headerValid : foldCsum header = 0 ↔ checksumValid (packet.take 20) = true := by
    rw [foldCsum_eq_zero headerLt, checksumValid_iff (by omega), headerPos, headerIs, swapped_eq_zero]
  have transportValid : foldCsum second = 0 ↔
      transportChecksumValid (packet.slice 12 8) 6 (packet.drop 20) = true := by
    rw [foldCsum_eq_zero secondLt, transportChecksumValid, decide_eq_true_eq, total,
      finishChecksum_eq_zero totalLt, secondPos, secondIs, firstIs, ← mul_add, swapped_eq_zero, Nat.cast_add]
    exact and_congr_left' (by omega)
  simp only [Xdp.Envelope.controlChecksumsValid, ip, tcp, pseudoIs, headerComputed, firstComputed,
    secondComputed, ← headerValid, ← transportValid]
  by_cases valid : foldCsum header = 0
  · simp [valid]
  · simp [valid]

end Agreement

section Completion
variable {front : Bytes} (even : front.length % 2 = 0) (rest : Bytes)
include even

theorem checksumValid_completed (short : front.length + rest.length ≤ 60) :
    checksumValid (front ++ (Bytes.beBytes16
      (finishChecksum (addChecksumBytes 0 (front ++ (Bytes.beBytes16 0 ++ rest)))) ++ rest)) = true := by
  have bound := wordSum_le (front ++ (Bytes.beBytes16 0 ++ rest))
  simp only [List.length_append, show (Bytes.beBytes16 0).length = 2 from rfl] at bound
  have small : wordSum (front ++ (Bytes.beBytes16 0 ++ rest)) < 2 ^ 32 - 65536 := by omega
  have complete := fold_complete small (.inl rfl)
  have below : finishChecksum (wordSum (front ++ (Bytes.beBytes16 0 ++ rest))) < 65536 := by
    rw [finishChecksum]
    omega
  have plain : addChecksumBytes 0 (front ++ (Bytes.beBytes16 0 ++ rest)) =
      wordSum (front ++ (Bytes.beBytes16 0 ++ rest)) := by
    rw [addChecksumBytes, Nat.zero_add, Nat.mod_eq_of_lt (by omega)]
  rw [checksumValid, decide_eq_true_eq, plain, addChecksumBytes, Nat.zero_add, wordSum_field even below,
    Nat.mod_eq_of_lt (by omega), finishChecksum, finishChecksum, complete]

theorem transportChecksumValid_completed (addresses : Bytes) (protocol : UInt8)
    (short : front.length + rest.length ≤ 60) :
    transportChecksumValid addresses protocol (front ++ (Bytes.beBytes16
      (transportChecksum addresses protocol (front ++ (Bytes.beBytes16 0 ++ rest))) ++ rest)) = true := by
  have sized (check : Nat) : (front ++ (Bytes.beBytes16 check ++ rest)).length = front.length + 2 + rest.length := by
    simp only [List.length_append, show (Bytes.beBytes16 check).length = 2 from rfl]
    omega
  generalize pseudoIs : addresses.take 8 ++ [0, protocol] ++
    Bytes.beBytes16 ((front.length + 2 + rest.length) % 65536) = pseudo
  have pseudoLt : wordSum pseudo < 2 ^ 20 := by
    have bound := wordSum_le pseudo
    have few : (addresses.take 8).length ≤ 8 := List.length_take_le ..
    simp only [← pseudoIs, List.length_append, List.length_cons, List.length_nil,
      Bytes.beBytes16] at bound ⊢
    omega
  have plainLt : wordSum (front ++ (Bytes.beBytes16 0 ++ rest)) < 2 ^ 24 := by
    have bound := wordSum_le (front ++ (Bytes.beBytes16 0 ++ rest))
    rw [sized] at bound
    omega
  have sum (check : Nat) (bounded : check < 65536) :
      transportChecksumSum addresses protocol (front ++ (Bytes.beBytes16 check ++ rest)) =
        wordSum pseudo + wordSum (front ++ (Bytes.beBytes16 0 ++ rest)) + check := by
    rw [transportChecksumSum, sized]
    simp only [addChecksumBytes, pseudoIs, wordSum_field even bounded, Nat.zero_add]
    rw [Nat.mod_eq_of_lt (by omega), Nat.mod_eq_of_lt (by omega)]
    omega
  have complete := fold_complete
    (show wordSum pseudo + wordSum (front ++ (Bytes.beBytes16 0 ++ rest)) < 2 ^ 32 - 65536 by omega) (.inl rfl)
  rw [transportChecksumValid, decide_eq_true_eq, transportChecksum, sum 0 (by decide), Nat.add_zero,
    sum _ (by rw [finishChecksum]; omega), finishChecksum, finishChecksum, complete]

end Completion

section Marshalled
variable (flow : SessionKey) (control : ControlPacket)

def controlAddresses : Bytes := Bytes.leBytes 4 flow.localIpv4.toNat ++ Bytes.leBytes 4 flow.remoteIpv4.toNat

/-- The IPv4 header up to its checksum. -/
def controlHeaderFront : Bytes := [0x45, 0, 0, 40, 0x57, 0x47, 0, 0, 64, 6]

/-- The TCP header up to its checksum. -/
def controlTcpFront : Bytes := Bytes.beBytes16 flow.localPort.toNat ++ Bytes.beBytes16 flow.remotePort.toNat ++
  Bytes.beBytes32 control.sequence.toNat ++ Bytes.beBytes32 control.acknowledgement.toNat ++
  [0x50, control.flags] ++ Bytes.beBytes16 control.window.toNat

/-- The marshalled packet around its two checksums. -/
def controlBytes (ipCheck tcpCheck : Nat) : Bytes :=
  (controlHeaderFront ++ (Bytes.beBytes16 ipCheck ++ controlAddresses flow)) ++
    (controlTcpFront flow control ++ (Bytes.beBytes16 tcpCheck ++ [0, 0]))

def controlIpCheck : Nat := finishChecksum (addChecksumBytes 0
  (controlHeaderFront ++ (Bytes.beBytes16 0 ++ controlAddresses flow)))

def controlTcpCheck : Nat := transportChecksum (controlAddresses flow) 6
  (controlTcpFront flow control ++ (Bytes.beBytes16 0 ++ [0, 0]))

/-- The flags that the marshaller supports. -/
def ControlPacket.Supported (control : ControlPacket) : Prop :=
  control.flags = flagSyn ∨ control.flags = flagSyn ||| flagAck ∨ control.flags = flagAck

variable {flow control}

theorem marshal_eq (valid : validatePacketFlow flow = .ok ()) (supported : control.Supported) :
    marshalIPv4TCPControl flow control =
      .ok (controlBytes flow control (controlIpCheck flow) (controlTcpCheck flow control)) := by
  have known : ¬(control.flags ≠ flagSyn ∧ control.flags ≠ flagSyn ||| flagAck ∧ control.flags ≠ flagAck) := by
    rintro ⟨syn, synAck, ack⟩
    rcases supported with same | same | same
    · exact syn same
    · exact synAck same
    · exact ack same
  simp only [marshalIPv4TCPControl, valid, if_neg known]
  rfl

variable (flow control) (ipCheck tcpCheck : Nat)

theorem controlBytes_length : (controlBytes flow control ipCheck tcpCheck).length = 40 := rfl

theorem controlBytes_addresses :
    (controlBytes flow control ipCheck tcpCheck).slice 12 8 = controlAddresses flow := rfl

theorem controlBytes_total : (controlBytes flow control ipCheck tcpCheck).be16 2 = 40 := by
  have bytes : (controlBytes flow control ipCheck tcpCheck).byteAt 2 = 0 ∧
      (controlBytes flow control ipCheck tcpCheck).byteAt 3 = 40 := ⟨rfl, rfl⟩
  rw [Bytes.be16, bytes.1, bytes.2]
  decide

theorem controlBytes_fragment : (controlBytes flow control ipCheck tcpCheck).be16 6 = 0 := by
  have bytes : (controlBytes flow control ipCheck tcpCheck).byteAt 6 = 0 ∧
      (controlBytes flow control ipCheck tcpCheck).byteAt 7 = 0 := ⟨rfl, rfl⟩
  rw [Bytes.be16, bytes.1, bytes.2]
  decide

theorem le32_leBytes (word : UInt32) : UInt32.ofNat (Bytes.leNat (Bytes.leBytes 4 word.toNat)) = word := by
  rw [Bytes.leNat_leBytes, show 256 ^ 4 = 2 ^ 32 from rfl, Nat.mod_eq_of_lt word.toNat_lt, UInt32.ofNat_toNat]

/-- What the marshalled bytes decode to. -/
structure Decodes (headers : Xdp.Envelope) (flow : SessionKey) (control : ControlPacket) : Prop where
  saddr : headers.saddr = flow.localIpv4
  daddr : headers.daddr = flow.remoteIpv4
  source : headers.source = flow.localPort
  dest : headers.dest = flow.remotePort
  seq : headers.seq = control.sequence
  ackSeq : headers.ackSeq = control.acknowledgement
  flags : headers.flags = control.flags
  window : headers.window = control.window

theorem be16_word (word : UInt16) (rest : Bytes) : (Bytes.beBytes16 word.toNat ++ rest).be16 0 = word.toNat :=
  Bytes.be16_beBytes16 word.toNat_lt rest

theorem be32_word (word : UInt32) (rest : Bytes) : (Bytes.beBytes32 word.toNat ++ rest).be32 0 = word.toNat := by
  have below := word.toNat_lt
  have high := Bytes.be16_beBytes16 (show word.toNat / 65536 < 65536 by omega)
    (Bytes.beBytes16 (word.toNat % 65536) ++ rest)
  have low := Bytes.be16_beBytes16 (show word.toNat % 65536 < 65536 by omega) rest
  have split : (Bytes.beBytes32 word.toNat ++ rest).be32 0 =
      (Bytes.beBytes16 (word.toNat / 65536) ++ (Bytes.beBytes16 (word.toNat % 65536) ++ rest)).be16 0 * 65536 +
        (Bytes.beBytes16 (word.toNat % 65536) ++ rest).be16 0 := rfl
  rw [split, high, low]
  omega

theorem controlBytes_decodes : Decodes ⟨controlBytes flow control ipCheck tcpCheck⟩ flow control where
  saddr := le32_leBytes flow.localIpv4
  daddr := le32_leBytes flow.remoteIpv4
  source := by
    have field : (controlBytes flow control ipCheck tcpCheck).be16 20 = flow.localPort.toNat :=
      be16_word flow.localPort []
    rw [Xdp.Envelope.source, field, UInt16.ofNat_toNat]
  dest := by
    have field : (controlBytes flow control ipCheck tcpCheck).be16 22 = flow.remotePort.toNat :=
      be16_word flow.remotePort []
    rw [Xdp.Envelope.dest, field, UInt16.ofNat_toNat]
  seq := by
    have field : (controlBytes flow control ipCheck tcpCheck).be32 24 = control.sequence.toNat :=
      be32_word control.sequence []
    rw [Xdp.Envelope.seq, field, UInt32.ofNat_toNat]
  ackSeq := by
    have field : (controlBytes flow control ipCheck tcpCheck).be32 28 = control.acknowledgement.toNat :=
      be32_word control.acknowledgement []
    rw [Xdp.Envelope.ackSeq, field, UInt32.ofNat_toNat]
  flags := rfl
  window := by
    have field : (controlBytes flow control ipCheck tcpCheck).be16 34 = control.window.toNat :=
      be16_word control.window []
    rw [Xdp.Envelope.window, field, UInt16.ofNat_toNat]

theorem controlBytes_ip_valid :
    checksumValid ((controlBytes flow control (controlIpCheck flow) tcpCheck).take 20) = true := by
  have even : controlHeaderFront.length % 2 = 0 := rfl
  have short : controlHeaderFront.length + (controlAddresses flow).length ≤ 60 := by
    simp [controlHeaderFront, controlAddresses]
  exact checksumValid_completed even (controlAddresses flow) short

theorem controlBytes_tcp_valid : transportChecksumValid (controlAddresses flow) 6
    ((controlBytes flow control ipCheck (controlTcpCheck flow control)).drop 20) = true := by
  have width : (controlTcpFront flow control).length = 16 := rfl
  exact transportChecksumValid_completed (by rw [width]) [0, 0] (controlAddresses flow) 6
    (by rw [width]; decide)

end Marshalled

/-- A frame that carries a packet behind its link header, with the IPv4 header in the linear part and a
load that works. -/
structure Carried (helpers : EgressHelpers) (env : Env) (maps : PolicyMaps) (flight : Flight)
    (generation : UInt64) (networkOff : Nat) (packet : Bytes) : Prop where
  scratch : env.scratch = true
  link : Tc.parseLink maps flight.tc.skb (flight.tc.skb.data.take flight.tc.skb.linear) generation =
    (.ok, networkOff, ethPIp)
  payload : flight.tc.skb.data.drop networkOff = packet
  linear : networkOff + iphdrSize ≤ flight.tc.skb.linear
  single : flight.tc.skb.gsoSize = 0
  loads : helpers.loadFails flight.tc.skb.data networkOff (iphdrSize + tcphdrSize) = false

/-- The descriptor of every control packet. -/
def controlL3 : L3Info where
  l3Length := 40
  l3HeaderLength := 20
  l4Offset := 20
  l4Length := 20
  l4HeaderLength := 20
  family := L3Parser.l3FamilyIpv4
  transportProtocol := L3Parser.l3ProtocolTcp

/-- A control packet for a flow as every reader of it wants it. -/
structure CanonicalControl (flow : SessionKey) (control : ControlPacket) (packet : Bytes) : Prop where
  decodes : Decodes ⟨packet⟩ flow control
  canonical : Flight.controlCanonical ⟨packet⟩ = true
  parsed : L3Parser.parseL3 packet = some ((controlL3, .ok), 0)
  authorized : ∀ helpers env maps flight generation networkOff,
    Carried helpers env maps flight generation networkOff packet →
    Flight.authorizeUserspaceControl helpers env maps flight generation =
      Flight.authorizeFlow maps flight generation ⟨packet⟩
  written : ∀ mark, validateRawIPv4Write ⟨packet, flow.underlayIndex, mark⟩ = .ok () ↔
    flow.underlayIndex.toNat ≤ 2 ^ 31 - 1

section Canonical
variable {flow : SessionKey} {control : ControlPacket}

theorem authorize_carried {helpers : EgressHelpers} {flight : Flight}
    (carried : Carried helpers env maps flight generation networkOff packet) (sized : packet.length = 40)
    (canonical : Flight.controlCanonical ⟨packet⟩ = true) :
    Flight.authorizeUserspaceControl helpers env maps flight generation =
      Flight.authorizeFlow maps flight generation ⟨packet⟩ := by
  obtain ⟨scratch, link, payload, linear, single, loads⟩ := carried
  have whole : flight.tc.skb.data.length - networkOff = 40 := by
    rw [← List.length_drop, payload, sized]
  have within : networkOff + 40 = flight.tc.skb.data.length := by omega
  have protocol : Bytes.byteAt (flight.tc.skb.data.take flight.tc.skb.linear) (networkOff + 9) = ipprotoTcp := by
    have inside : networkOff + 9 < flight.tc.skb.linear := by
      simp only [iphdrSize] at linear
      omega
    have same : flight.tc.skb.data.byteAt (networkOff + 9) = packet.byteAt 9 := by
      rw [← payload]
      simp only [Bytes.byteAt, List.getD_eq_getElem?_getD, List.getElem?_drop]
    rw [Bytes.byteAt_take inside, same]
    simp only [Flight.controlCanonical, decide_eq_true_eq] at canonical
    exact canonical.2.2.2.2.1
  have loaded : flight.tc.skb.loadBytes helpers.toHelpers networkOff (iphdrSize + tcphdrSize) = some packet := by
    have bounded : ¬(networkOff + (iphdrSize + tcphdrSize) > flight.tc.skb.data.length) := by
      simp only [iphdrSize, tcphdrSize]
      omega
    have all : flight.tc.skb.data.slice networkOff (iphdrSize + tcphdrSize) = packet := by
      rw [Bytes.slice, payload, List.take_of_length_le]
      rw [sized]
      decide
    rw [Skb.loadBytes, if_neg (by rw [not_or, Bool.not_eq_true]; exact ⟨bounded, loads⟩), all]
  have ip : ¬(networkOff + iphdrSize > (flight.tc.skb.data.take flight.tc.skb.linear).length) := by
    simp only [iphdrSize, List.length_take] at linear ⊢
    omega
  have fits : ¬(networkOff > flight.tc.skb.data.length) := by omega
  have exact_ : iphdrSize + tcphdrSize = flight.tc.skb.data.length - networkOff := by
    rw [whole]
    rfl
  simp only [Flight.authorizeUserspaceControl, scratch, link, protocol, ip, single, fits, ← exact_, loaded,
    canonical, ne_eq, not_true_eq_false, or_self, if_false, Bool.true_eq_false]

theorem valid_fields (valid : flow.valid = true) :
    flow.localIpv4 ≠ 0 ∧ flow.remoteIpv4 ≠ 0 ∧ flow.underlayIndex ≠ 0 ∧ flow.localPort ≠ 0 ∧ flow.remotePort ≠ 0 := by
  simp only [SessionKey.valid, decide_eq_true_eq] at valid
  obtain ⟨_, localIp, remoteIp, underlay, localPort, remotePort, _, _⟩ := valid
  exact ⟨localIp, remoteIp, underlay, localPort, remotePort⟩

theorem leBytes_ne_zero {word : UInt32} (nonzero : word ≠ 0) : Bytes.leBytes 4 word.toNat ≠ [0, 0, 0, 0] := by
  intro zero
  have same := le32_leBytes word
  rw [zero] at same
  exact nonzero same.symm

theorem controlBytes_raw (valid : flow.valid = true) (mark : UInt32) :
    validateRawIPv4Write ⟨controlBytes flow control (controlIpCheck flow) (controlTcpCheck flow control),
      flow.underlayIndex, mark⟩ = .ok () ↔ flow.underlayIndex.toNat ≤ 2 ^ 31 - 1 := by
  obtain ⟨localIp, remoteIp, underlay, _, _⟩ := valid_fields valid
  have source : (controlBytes flow control (controlIpCheck flow) (controlTcpCheck flow control)).slice 12 4 ≠
      [0, 0, 0, 0] := leBytes_ne_zero localIp
  have destination : (controlBytes flow control (controlIpCheck flow) (controlTcpCheck flow control)).slice 16 4 ≠
      [0, 0, 0, 0] := leBytes_ne_zero remoteIp
  have ip := controlBytes_ip_valid flow control (controlTcpCheck flow control)
  have tcp := controlBytes_tcp_valid flow control (controlIpCheck flow)
  rw [← controlBytes_addresses flow control (controlIpCheck flow) (controlTcpCheck flow control)] at tcp
  have first : (controlBytes flow control (controlIpCheck flow) (controlTcpCheck flow control)).byteAt 0 = 0x45 := rfl
  have protocol : (controlBytes flow control (controlIpCheck flow) (controlTcpCheck flow control)).byteAt 9 = 6 := rfl
  have total := controlBytes_total flow control (controlIpCheck flow) (controlTcpCheck flow control)
  have fragment := controlBytes_fragment flow control (controlIpCheck flow) (controlTcpCheck flow control)
  have sized := controlBytes_length flow control (controlIpCheck flow) (controlTcpCheck flow control)
  generalize controlBytes flow control (controlIpCheck flow) (controlTcpCheck flow control) = packet at *
  have header : (0x45 : UInt8).toNat % 16 * 4 = 20 := rfl
  have version : (0x45 : UInt8).toNat / 16 = 4 := rfl
  have rest : (packet.drop 20).length = 20 := by rw [List.length_drop, sized]
  simp only [validateRawIPv4Write, first, header, version, protocol, total, fragment, sized, ip, tcp, rest,
    underlay, source, destination, materializedIPv4HeaderLength]
  by_cases range : flow.underlayIndex.toNat > 2 ^ 31 - 1
  · simp only [if_pos range, if_false, reduceCtorEq, false_iff, Nat.not_le]
    exact range
  · refine iff_of_true ?_ (by omega)
    rw [if_neg not_false, if_neg range]
    simp

theorem controlBytes_parsed (ipCheck tcpCheck : Nat) :
    L3Parser.parseL3 (controlBytes flow control ipCheck tcpCheck) = some ((controlL3, .ok), 0) := by
  have total := controlBytes_total flow control ipCheck tcpCheck
  have fragment := controlBytes_fragment flow control ipCheck tcpCheck
  have sized := controlBytes_length flow control ipCheck tcpCheck
  have first : (controlBytes flow control ipCheck tcpCheck).byteAt 0 = 0x45 := rfl
  have protocol : (controlBytes flow control ipCheck tcpCheck).byteAt 9 = 6 := rfl
  have offset : (controlBytes flow control ipCheck tcpCheck).byteAt 32 = 0x50 := rfl
  generalize controlBytes flow control ipCheck tcpCheck = packet at *
  have whole : L3Parser.sliceTo packet 40 = some packet := by
    rw [L3Parser.sliceTo, sized, if_pos (Nat.le_refl 40), List.take_of_length_le (Nat.le_of_eq sized)]
  have transport : L3Parser.validateL4 packet { controlL3 with l4HeaderLength := 0 } = some (controlL3, .ok) := by
    simp [controlL3, L3Parser.validateL4, L3Parser.l3ProtocolTcp, L3Parser.l3ProtocolUdp, sized,
      Bytes.read8_bind (show 32 < packet.length by omega), offset]
  have ipv4 : L3Parser.parseIpv4L3 packet = some (controlL3, .ok) := by
    rw [← transport]
    simp [controlL3, L3Parser.parseIpv4L3, L3Parser.parseIpv4Fragment, sized, L3Parser.l3ProtocolTcp,
      L3Parser.l3ProtocolUdp, L3Parser.l3ProtocolIcmp, Bytes.read8_bind (show 0 < packet.length by omega),
      Bytes.read8_bind (show 9 < packet.length by omega), Bytes.read16_bind (show 2 + 2 ≤ packet.length by omega),
      Bytes.read16_bind (show 6 + 2 ≤ packet.length by omega), first, protocol, total, fragment, whole]
  simp [L3Parser.parseL3, sized, Bytes.read8_bind (show 0 < packet.length by omega), first, ipv4,
    controlL3, L3Parser.l3FamilyIpv4]

theorem controlBytes_canonical (valid : flow.valid = true) (supported : control.Supported)
    (open_ : control.window ≠ 0) :
    Flight.controlCanonical ⟨controlBytes flow control (controlIpCheck flow) (controlTcpCheck flow control)⟩ =
      true := by
  obtain ⟨_, _, _, localPort, remotePort⟩ := valid_fields valid
  have decodes := controlBytes_decodes flow control (controlIpCheck flow) (controlTcpCheck flow control)
  have total := controlBytes_total flow control (controlIpCheck flow) (controlTcpCheck flow control)
  have fragment := controlBytes_fragment flow control (controlIpCheck flow) (controlTcpCheck flow control)
  have checksums := (controlChecksumsValid_iff
    (controlBytes_length flow control (controlIpCheck flow) (controlTcpCheck flow control))).mpr
    ⟨controlBytes_ip_valid flow control _, controlBytes_tcp_valid flow control _⟩
  have id : (controlBytes flow control (controlIpCheck flow) (controlTcpCheck flow control)).be16 4 =
      Flight.controlIpv4Id := by
    have bytes : (controlBytes flow control (controlIpCheck flow) (controlTcpCheck flow control)).byteAt 4 = 0x57 ∧
        (controlBytes flow control (controlIpCheck flow) (controlTcpCheck flow control)).byteAt 5 = 0x47 := ⟨rfl, rfl⟩
    rw [Bytes.be16, bytes.1, bytes.2]
    decide
  simp only [Flight.controlCanonical, decide_eq_true_eq, decodes.source, decodes.dest, decodes.window,
    decodes.flags, Xdp.Envelope.totalLen, total, fragment, id, checksums]
  exact ⟨rfl, rfl, trivial, rfl, rfl, rfl, rfl, rfl, rfl, localPort, remotePort, open_, supported, trivial⟩

/-- Whatever the engine asks to send is marshalled, and every reader accepts the packet. -/
theorem marshal_canonical (valid : flow.valid = true) (supported : control.Supported) (open_ : control.window ≠ 0) :
    ∃ packet, marshalIPv4TCPControl flow control = .ok packet ∧ CanonicalControl flow control packet := by
  have canonical := controlBytes_canonical valid supported open_
  refine ⟨_, marshal_eq (flow_valid valid) supported, ?_⟩
  exact {
    decodes := controlBytes_decodes flow control _ _
    canonical := canonical
    parsed := controlBytes_parsed _ _
    authorized := fun _ _ _ _ _ _ carried =>
      authorize_carried carried (controlBytes_length flow control _ _) canonical
    written := controlBytes_raw valid }

end Canonical

end WgMix.FakeTcp
