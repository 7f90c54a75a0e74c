import WgMix.Foundation.Keystream
import WgMix.Foundation.OnesComplement
import WgMix.FakeTcp.Event

/-! Userspace checksums: completing a captured IPv4/UDP packet and validating a
completed one. What completion writes depends on nothing that the two fields held,
and no sum on the way leaves its 32-bit word. -/
namespace WgMix.FakeTcp
open Bpf OnesComplement

def materializedIPv4HeaderLength : Nat := 20
def udpHeaderLength : Nat := 8

inductive MaterializeError where
  | incomplete
  | headerLength
  | totalLength
  | fragment
  | protocol
  | udpLength
  | flow (cause : FlowError)
  | endpoints
  | ports
  | ipChecksum
  | udpChecksumAbsent
  | udpChecksum
  deriving DecidableEq, Repr

/-- The sum is a 32-bit word. -/
def addChecksumBytes (sum : Nat) (data : Bytes) : Nat := (sum + wordSum data) % 2 ^ 32

def finishChecksum (sum : Nat) : Nat := 65535 - fold sum

def checksumValid (data : Bytes) : Bool := finishChecksum (addChecksumBytes 0 data) = 0

def transportChecksumSum (addresses : Bytes) (protocol : UInt8) (transport : Bytes) : Nat :=
  let pseudo := addresses.take 8 ++ [0, protocol] ++ Bytes.beBytes16 (transport.length % 65536)
  addChecksumBytes (addChecksumBytes 0 pseudo) transport

def transportChecksum (addresses : Bytes) (protocol : UInt8) (transport : Bytes) : Nat :=
  finishChecksum (transportChecksumSum addresses protocol transport)

def transportChecksumValid (addresses : Bytes) (protocol : UInt8) (transport : Bytes) : Bool :=
  finishChecksum (transportChecksumSum addresses protocol transport) = 0

/-- Returns the UDP datagram inside the packet. -/
def fixedIPv4UDP (packet : Bytes) : Except MaterializeError Bytes :=
  if packet.length < materializedIPv4HeaderLength + udpHeaderLength ∨
      (packet.byteAt 0).toNat / 16 ≠ 4 then .error .incomplete
  else if (packet.byteAt 0).toNat % 16 * 4 ≠ materializedIPv4HeaderLength then .error .headerLength
  else if packet.be16 2 ≠ packet.length then .error .totalLength
  else if packet.be16 6 &&& 0xbfff ≠ 0 then .error .fragment
  else if packet.byteAt 9 ≠ 17 then .error .protocol
  else if packet.be16 (materializedIPv4HeaderLength + 4) ≠ packet.length - materializedIPv4HeaderLength then
    .error .udpLength
  else .ok (packet.drop materializedIPv4HeaderLength)

/-- A zero UDP checksum would mean an absent one. -/
def presentChecksum (checksum : Nat) : Nat := if checksum = 0 then 0xffff else checksum

/-- Both checksums are written over offload seeds. -/
def materializeIPv4UDPChecksums (packet : Bytes) : Except MaterializeError Bytes :=
  match fixedIPv4UDP packet with
  | .error cause => .error cause
  | .ok _ =>
    let cleared := packet.store 10 [0, 0]
    let header := finishChecksum (addChecksumBytes 0 (cleared.take materializedIPv4HeaderLength))
    let packet := (cleared.store 10 (Bytes.beBytes16 header)).store 26 [0, 0]
    let checksum := transportChecksum (packet.slice 12 8) 17 (packet.drop materializedIPv4HeaderLength)
    .ok (packet.store 26 (Bytes.beBytes16 (presentChecksum checksum)))

/-- A packet cut at its two checksum fields. -/
structure Pieces where
  first : Bytes
  ipCheck : Bytes
  addresses : Bytes
  ports : Bytes
  udpCheck : Bytes
  payload : Bytes
  first_length : first.length = 10
  ipCheck_length : ipCheck.length = 2
  addresses_length : addresses.length = 8
  ports_length : ports.length = 6
  udpCheck_length : udpCheck.length = 2

namespace Pieces
variable (pieces : Pieces)

def transport : Bytes := pieces.ports ++ (pieces.udpCheck ++ pieces.payload)
def whole : Bytes := pieces.first ++ (pieces.ipCheck ++ (pieces.addresses ++ pieces.transport))

def withIp (check : Nat) : Pieces := { pieces with ipCheck := Bytes.beBytes16 check, ipCheck_length := rfl }
def withUdp (check : Nat) : Pieces := { pieces with udpCheck := Bytes.beBytes16 check, udpCheck_length := rfl }

theorem withIp_withIp (first second : Nat) : (pieces.withIp first).withIp second = pieces.withIp second := rfl
theorem withUdp_withUdp (first second : Nat) :
    (pieces.withUdp first).withUdp second = pieces.withUdp second := rfl

theorem exists_of_length {packet : Bytes} (long : 28 ≤ packet.length) :
    ∃ pieces : Pieces, pieces.whole = packet := by
  refine ⟨{
    first := packet.take 10, ipCheck := (packet.drop 10).take 2
    addresses := (packet.drop 12).take 8, ports := (packet.drop 20).take 6
    udpCheck := (packet.drop 26).take 2, payload := packet.drop 28
    first_length := ?_, ipCheck_length := ?_, addresses_length := ?_, ports_length := ?_
    udpCheck_length := ?_ }, ?_⟩
  case refine_6 =>
    have join (start width : Nat) :
        (packet.drop start).take width ++ packet.drop (start + width) = packet.drop start := by
      rw [← List.drop_drop, List.take_append_drop]
    simp only [whole, transport]
    rw [join 26 2, join 20 6, join 12 8, join 10 2, List.take_append_drop]
  all_goals
    simp only [List.length_take, List.length_drop]
    omega

theorem length_transport : pieces.transport.length = 8 + pieces.payload.length := by
  simp only [transport, List.length_append, pieces.ports_length, pieces.udpCheck_length]
  omega

theorem length_whole : pieces.whole.length = 28 + pieces.payload.length := by
  simp only [whole, List.length_append, pieces.first_length, pieces.ipCheck_length,
    pieces.addresses_length, pieces.length_transport]
  omega

theorem byteAt_first (within : offset < 10) : pieces.whole.byteAt offset = pieces.first.byteAt offset :=
  Bytes.byteAt_here (by rw [pieces.first_length]; exact within)

theorem drop_whole : pieces.whole.drop 20 = pieces.transport := by
  have cut : (pieces.first ++ pieces.ipCheck ++ pieces.addresses).length = 20 := by
    simp only [List.length_append, pieces.first_length, pieces.ipCheck_length, pieces.addresses_length]
  rw [whole, ← List.append_assoc, ← List.append_assoc, ← cut, List.drop_left]

theorem take_whole : pieces.whole.take 20 = pieces.first ++ (pieces.ipCheck ++ pieces.addresses) := by
  have cut : (pieces.first ++ (pieces.ipCheck ++ pieces.addresses)).length = 20 := by
    simp only [List.length_append, pieces.first_length, pieces.ipCheck_length, pieces.addresses_length]
  have grouped : pieces.whole = (pieces.first ++ (pieces.ipCheck ++ pieces.addresses)) ++ pieces.transport := by
    simp only [whole, List.append_assoc]
  rw [grouped, ← cut, List.take_left]

theorem slice_addresses : pieces.whole.slice 12 8 = pieces.addresses := by
  have past : pieces.first.length ≤ 12 := by rw [pieces.first_length]; decide
  rw [whole, Bytes.slice_skip past, pieces.first_length,
    Bytes.slice_skip (by rw [pieces.ipCheck_length]), pieces.ipCheck_length,
    Bytes.slice_here pieces.addresses_length]

theorem byteAt_transport (offset : Nat) : pieces.whole.byteAt (20 + offset) = pieces.transport.byteAt offset := by
  rw [← pieces.drop_whole]
  simp only [Bytes.byteAt, List.getD_eq_getElem?_getD, List.getElem?_drop]

theorem byteAt_ports (within : offset < 6) : pieces.transport.byteAt offset = pieces.ports.byteAt offset :=
  Bytes.byteAt_here (by rw [pieces.ports_length]; exact within)

theorem store_ip (check : Nat) :
    pieces.whole.store 10 (Bytes.beBytes16 check) = (pieces.withIp check).whole :=
  Bytes.store_append pieces.first_length (by rw [pieces.ipCheck_length]; rfl)

theorem store_udp (check : Nat) :
    pieces.whole.store 26 (Bytes.beBytes16 check) = (pieces.withUdp check).whole := by
  have cut : (pieces.first ++ pieces.ipCheck ++ pieces.addresses ++ pieces.ports).length = 26 := by
    simp only [List.length_append, pieces.first_length, pieces.ipCheck_length,
      pieces.addresses_length, pieces.ports_length]
  have grouped (other : Bytes) : pieces.first ++ (pieces.ipCheck ++ (pieces.addresses ++
      (pieces.ports ++ (other ++ pieces.payload)))) =
      (pieces.first ++ pieces.ipCheck ++ pieces.addresses ++ pieces.ports) ++ (other ++ pieces.payload) := by
    simp only [List.append_assoc]
  simp only [whole, transport, withUdp]
  rw [grouped, grouped, Bytes.store_append cut (by rw [pieces.udpCheck_length]; rfl)]

/-- The shape checks read neither checksum field. -/
theorem fixed_iff : fixedIPv4UDP pieces.whole = .ok udp ↔ udp = pieces.transport ∧
    (pieces.first.byteAt 0).toNat / 16 = 4 ∧ (pieces.first.byteAt 0).toNat % 16 * 4 = 20 ∧
    pieces.first.be16 2 = 28 + pieces.payload.length ∧ pieces.first.be16 6 &&& 0xbfff = 0 ∧
    pieces.first.byteAt 9 = 17 ∧ pieces.ports.be16 4 = 8 + pieces.payload.length := by
  have reads (offset : Nat) (within : offset + 1 < 10) :
      pieces.whole.be16 offset = pieces.first.be16 offset := by
    simp only [Bytes.be16, pieces.byteAt_first (show offset < 10 by omega), pieces.byteAt_first within]
  have sized : pieces.whole.be16 24 = pieces.ports.be16 4 := by
    simp only [Bytes.be16, pieces.byteAt_transport 4, pieces.byteAt_transport 5,
      pieces.byteAt_ports (show 4 < 6 by decide), pieces.byteAt_ports (show 5 < 6 by decide)]
  simp only [fixedIPv4UDP, materializedIPv4HeaderLength, udpHeaderLength, pieces.length_whole,
    pieces.byteAt_first (show 0 < 10 by decide), pieces.byteAt_first (show 9 < 10 by decide),
    reads 2 (by decide), reads 6 (by decide), Nat.reduceAdd, sized, pieces.drop_whole]
  have long : ¬ 28 + pieces.payload.length < 28 := by omega
  have rest : 28 + pieces.payload.length - 20 = 8 + pieces.payload.length := by omega
  rw [rest]
  simp only [long, false_or]
  split_ifs <;> simp_all [eq_comm]

/-- The header sum without its checksum field. -/
def headerSum : Nat := wordSum pieces.first + wordSum pieces.addresses

/-- Pseudo-header and datagram without its checksum field. -/
def datagramSum : Nat :=
  wordSum (pieces.addresses ++ [0, 17] ++ Bytes.beBytes16 (pieces.transport.length % 65536)) +
    (wordSum pieces.ports + wordSum pieces.payload)

theorem headerSum_lt : pieces.headerSum < 2 ^ 32 - 65536 := by
  have first := wordSum_le pieces.first
  have addresses := wordSum_le pieces.addresses
  rw [pieces.first_length] at first
  rw [pieces.addresses_length] at addresses
  simp only [headerSum]
  omega

theorem header_checksum (check : Nat) (bounded : check < 65536) :
    addChecksumBytes 0 ((pieces.withIp check).whole.take 20) = pieces.headerSum + check := by
  have sum : wordSum ((pieces.withIp check).whole.take 20) = pieces.headerSum + check := by
    rw [take_whole, wordSum_append (by rw [(pieces.withIp check).first_length]),
      wordSum_append (by rw [(pieces.withIp check).ipCheck_length])]
    simp only [withIp, wordSum_beBytes16 bounded, headerSum]
    omega
  have below := pieces.headerSum_lt
  rw [addChecksumBytes, sum, Nat.zero_add, Nat.mod_eq_of_lt (by omega)]

theorem datagramSum_lt (short : pieces.payload.length < 65536) : pieces.datagramSum < 2 ^ 32 - 65536 := by
  have pseudo := wordSum_le
    (pieces.addresses ++ [0, 17] ++ Bytes.beBytes16 (pieces.transport.length % 65536))
  have ports := wordSum_le pieces.ports
  have payload := wordSum_le pieces.payload
  simp only [List.length_append, pieces.addresses_length, List.length_cons, List.length_nil,
    Bytes.beBytes16] at pseudo
  rw [pieces.ports_length] at ports
  simp only [datagramSum]
  simp only [Bytes.beBytes16]
  omega

theorem datagram_checksum (check : Nat) (bounded : check < 65536)
    (short : pieces.payload.length < 65536) :
    transportChecksumSum (pieces.withUdp check).addresses 17 (pieces.withUdp check).transport =
      pieces.datagramSum + check := by
  have sameLength : (pieces.withUdp check).transport.length = pieces.transport.length := by
    rw [length_transport, length_transport]
    rfl
  have sum : wordSum (pieces.withUdp check).transport = wordSum pieces.ports + wordSum pieces.payload + check := by
    rw [transport, wordSum_append (by rw [(pieces.withUdp check).ports_length]),
      wordSum_append (by rw [(pieces.withUdp check).udpCheck_length])]
    simp only [withUdp, wordSum_beBytes16 bounded]
    omega
  have all : (pieces.withUdp check).addresses.take 8 = pieces.addresses :=
    List.take_of_length_le (Nat.le_of_eq pieces.addresses_length)
  have below := pieces.datagramSum_lt short
  simp only [datagramSum] at below
  simp only [transportChecksumSum, addChecksumBytes, sum, sameLength, all, Nat.zero_add, datagramSum]
  rw [Nat.mod_eq_of_lt (by omega), Nat.mod_eq_of_lt (by omega)]
  omega

end Pieces

namespace Pieces
variable (pieces : Pieces)

/-- The complement of each sum without its field. -/
def completed : Pieces :=
  (pieces.withIp (65535 - fold pieces.headerSum)).withUdp (presentChecksum (65535 - fold pieces.datagramSum))

theorem datagramSum_seeded (header checksum : Nat) :
    ((pieces.withIp header).withUdp checksum).datagramSum = pieces.datagramSum := by
  rw [datagramSum, datagramSum, length_transport, length_transport]
  rfl

theorem completed_seeded (header checksum : Nat) :
    ((pieces.withIp header).withUdp checksum).completed = pieces.completed := by
  rw [completed, pieces.datagramSum_seeded header checksum]
  rfl

theorem materialize (fixed : fixedIPv4UDP pieces.whole = .ok udp) (short : pieces.payload.length < 65536) :
    materializeIPv4UDPChecksums pieces.whole = .ok pieces.completed.whole := by
  have clear : ([0, 0] : Bytes) = Bytes.beBytes16 0 := rfl
  have header : finishChecksum (addChecksumBytes 0 ((pieces.withIp 0).whole.take 20)) =
      65535 - fold pieces.headerSum := by
    rw [pieces.header_checksum 0 (by decide), Nat.add_zero, finishChecksum]
  have checksum (field : Nat) :
      transportChecksum (((pieces.withIp field).withUdp 0).whole.slice 12 8) 17
        (((pieces.withIp field).withUdp 0).whole.drop 20) = 65535 - fold pieces.datagramSum := by
    rw [slice_addresses, drop_whole, transportChecksum,
      (pieces.withIp field).datagram_checksum 0 (by decide) short, Nat.add_zero, finishChecksum]
    rfl
  simp only [materializeIPv4UDPChecksums, fixed, materializedIPv4HeaderLength, completed]
  generalize 65535 - fold pieces.headerSum = field at header ⊢
  rw [clear, pieces.store_ip 0, header, (pieces.withIp 0).store_ip field, withIp_withIp,
    (pieces.withIp field).store_udp 0, checksum, ((pieces.withIp field).withUdp 0).store_udp,
    withUdp_withUdp]

/-- Offload seeds do not matter. -/
theorem materialize_seeded (fixed : fixedIPv4UDP pieces.whole = .ok udp) (short : pieces.payload.length < 65536)
    (header checksum : Nat) :
    materializeIPv4UDPChecksums ((pieces.withIp header).withUdp checksum).whole = .ok pieces.completed.whole := by
  obtain ⟨_, shape⟩ := pieces.fixed_iff.mp fixed
  have same : fixedIPv4UDP ((pieces.withIp header).withUdp checksum).whole = .ok _ :=
    ((pieces.withIp header).withUdp checksum).fixed_iff.mpr ⟨rfl, shape⟩
  rw [materialize _ same short, completed_seeded]

theorem header_complete : fold (addChecksumBytes 0 (pieces.completed.whole.take 20)) = 65535 := by
  have same : pieces.completed.whole.take 20 =
      (pieces.withIp (65535 - fold pieces.headerSum)).whole.take 20 := by
    rw [take_whole, take_whole]
    rfl
  rw [same, pieces.header_checksum _ (by omega)]
  exact fold_complete pieces.headerSum_lt (.inl rfl)

/-- A zero field is written as all ones, which adds nothing. -/
theorem presentChecksum_cases (short : pieces.payload.length < 65536) :
    presentChecksum (65535 - fold pieces.datagramSum) < 65536 ∧
      presentChecksum (65535 - fold pieces.datagramSum) ≠ 0 ∧
      (presentChecksum (65535 - fold pieces.datagramSum) = 65535 - fold pieces.datagramSum ∨
        fold pieces.datagramSum = 65535 ∧ presentChecksum (65535 - fold pieces.datagramSum) = 65535) := by
  have small : fold pieces.datagramSum < 65536 := fold_lt (by have := pieces.datagramSum_lt short; omega)
  rw [presentChecksum]
  split
  · exact ⟨by decide, by decide, .inr ⟨by omega, rfl⟩⟩
  · exact ⟨by omega, by assumption, .inl rfl⟩

theorem datagram_complete (short : pieces.payload.length < 65536) :
    fold (transportChecksumSum (pieces.completed.whole.slice 12 8) 17 (pieces.completed.whole.drop 20)) = 65535 := by
  obtain ⟨bounded, _, field⟩ := pieces.presentChecksum_cases short
  rw [slice_addresses, drop_whole, completed,
    (pieces.withIp (65535 - fold pieces.headerSum)).datagram_checksum _ bounded short]
  exact fold_complete (pieces.datagramSum_lt short) field

theorem be16_checksum (short : pieces.payload.length < 65536) : pieces.completed.transport.be16 6 ≠ 0 := by
  obtain ⟨bounded, present, _⟩ := pieces.presentChecksum_cases short
  have past (position : Nat) : pieces.completed.transport.byteAt (6 + position) =
      (pieces.completed.udpCheck ++ pieces.payload).byteAt position := by
    have beyond : pieces.ports.length ≤ 6 + position := by rw [pieces.ports_length]; omega
    rw [transport, completed, withUdp, withIp, Bytes.byteAt_skip beyond, pieces.ports_length,
      Nat.add_sub_cancel_left]
  have field := Bytes.be16_beBytes16 bounded pieces.payload
  have read : pieces.completed.transport.be16 6 = presentChecksum (65535 - fold pieces.datagramSum) := by
    rw [← field, Bytes.be16, Bytes.be16, past 0, past 1]
    rfl
  rwa [read]

end Pieces

/-- The sums that `addChecksumBytes` goes through, before they are taken modulo 2^32. -/
def runningSums (sum : Nat) : Bytes → List Nat
  | high :: low :: rest =>
    (sum + (high.toNat * 256 + low.toNat)) :: runningSums (sum + (high.toNat * 256 + low.toNat)) rest
  | [last] => [sum + last.toNat * 256]
  | [] => []

theorem runningSums_le {step sum : Nat} {data : Bytes} (member : step ∈ runningSums sum data) :
    step ≤ sum + wordSum data := by
  induction sum, data using runningSums.induct with
  | case1 sum high low rest ih =>
    rw [wordSum, ← Nat.add_assoc]
    rcases List.mem_cons.mp member with rfl | later
    · exact Nat.le_add_right _ _
    · exact ih later
  | case2 sum last => exact Nat.le_of_eq (List.mem_singleton.mp member)
  | case3 sum => exact absurd member List.not_mem_nil

def pseudoHeader (packet : Bytes) : Bytes :=
  packet.slice 12 8 ++ [0, 17] ++ Bytes.beBytes16 ((packet.length - materializedIPv4HeaderLength) % 65536)

/-- All of them for one packet: its header, its pseudo-header and from there its datagram. -/
def accumulations (packet : Bytes) : List Nat :=
  runningSums 0 (packet.take materializedIPv4HeaderLength) ++ runningSums 0 (pseudoHeader packet) ++
    runningSums (wordSum (pseudoHeader packet)) (packet.drop materializedIPv4HeaderLength)

theorem accumulations_lt {packet : Bytes} (short : packet.length ≤ 65535) (member : sum ∈ accumulations packet) :
    sum < 2 ^ 32 := by
  have header := wordSum_le (packet.take materializedIPv4HeaderLength)
  have pseudo := wordSum_le (pseudoHeader packet)
  have datagram := wordSum_le (packet.drop materializedIPv4HeaderLength)
  have width : (pseudoHeader packet).length ≤ 12 := by
    simp only [pseudoHeader, Bytes.slice, Bytes.beBytes16, List.length_append, List.length_take, List.length_cons,
      List.length_nil]
    omega
  rw [List.length_take] at header
  rw [List.length_drop] at datagram
  simp only [materializedIPv4HeaderLength] at header datagram
  rcases List.mem_append.mp member with early | inDatagram
  · rcases List.mem_append.mp early with inHeader | inPseudo
    · have below := runningSums_le inHeader
      rw [materializedIPv4HeaderLength] at below
      omega
    · have below := runningSums_le inPseudo
      omega
  · have below := runningSums_le inDatagram
    rw [materializedIPv4HeaderLength] at below
    omega

/-- A completed packet next to the captured one. -/
structure Completes (packet completed : Bytes) : Prop where
  length : completed.length = packet.length
  others : ∀ index, index ≠ 10 → index ≠ 11 → index ≠ 26 → index ≠ 27 → completed[index]? = packet[index]?
  header : fold (addChecksumBytes 0 (completed.take 20)) = 0xffff
  present : Bytes.be16 (completed.drop 20) 6 ≠ 0
  datagram : fold (transportChecksumSum (completed.slice 12 8) 17 (completed.drop 20)) = 0xffff

theorem Pieces.completes (pieces : Pieces) (short : pieces.payload.length < 65536) :
    Completes pieces.whole pieces.completed.whole where
  length := by
    rw [length_whole, length_whole]
    rfl
  others index apart apart' beyond beyond' := by
    have sized (check : Nat) : (Bytes.beBytes16 check).length = 2 := rfl
    have long := pieces.length_whole
    rw [completed, ← store_udp, ← store_ip, Bytes.getElem?_store, if_neg, Bytes.getElem?_store, if_neg]
    · rw [sized]
      omega
    · rw [sized]
      omega
    · rw [sized]
      omega
    · rw [sized, Bytes.length_store (by rw [sized]; omega)]
      omega
  header := pieces.header_complete
  present := by
    rw [drop_whole]
    exact pieces.be16_checksum short
  datagram := pieces.datagram_complete short

/-- Completion for every packet of the accepted shape and every content of its two fields. -/
theorem checksum_materialisation {packet udp : Bytes} (fixed : fixedIPv4UDP packet = .ok udp) :
    28 ≤ packet.length ∧ packet.length ≤ 65535 ∧ ∃ completed, materializeIPv4UDPChecksums packet = .ok completed ∧
      Completes packet completed ∧ materializeIPv4UDPChecksums completed = .ok completed ∧
      ∀ ipSeed udpSeed : Bytes, ipSeed.length = 2 → udpSeed.length = 2 →
        materializeIPv4UDPChecksums ((packet.store 10 ipSeed).store 26 udpSeed) = .ok completed ∧
        ∀ sum ∈ accumulations ((packet.store 10 ipSeed).store 26 udpSeed), sum ≤ 2 ^ 32 - 1 := by
  have long : 28 ≤ packet.length := by
    by_contra short
    have few : packet.length < materializedIPv4HeaderLength + udpHeaderLength := by
      simpa only [materializedIPv4HeaderLength, udpHeaderLength, not_le] using short
    simp [fixedIPv4UDP, few] at fixed
  obtain ⟨pieces, rfl⟩ := Pieces.exists_of_length long
  obtain ⟨_, _, _, total, _⟩ := pieces.fixed_iff.mp fixed
  have bounded := Bytes.be16_lt pieces.first 2
  have short : pieces.payload.length < 65536 := by omega
  have whole := pieces.length_whole
  refine ⟨long, by omega, pieces.completed.whole, pieces.materialize fixed short, pieces.completes short,
    pieces.materialize_seeded fixed short _ _, fun ipSeed udpSeed ipSized udpSized => ?_⟩
  rw [← Bytes.beBytes16_be16 ipSized, ← Bytes.beBytes16_be16 udpSized, Pieces.store_ip, Pieces.store_udp]
  refine ⟨pieces.materialize_seeded fixed short _ _, fun sum member => ?_⟩
  have below := accumulations_lt (by rw [Pieces.length_whole]; exact (by omega : 28 + pieces.payload.length ≤ 65535)) member
  omega

/-- A datagram of 29 bytes with offload seeds in both fields. -/
def sampleCapture : Bytes :=
  [0x45, 0, 0, 29, 0, 1, 0x40, 0, 64, 17, 0xde, 0xad, 192, 0, 2, 1, 198, 51, 100, 9] ++
    [0xca, 0x6c, 0x9c, 0x40, 0, 9, 0xbe, 0xef, 4]

theorem checksum_materialisation_sample :
    fixedIPv4UDP sampleCapture = .ok (sampleCapture.drop 20) ∧
      ∃ completed, materializeIPv4UDPChecksums sampleCapture = .ok completed ∧ Completes sampleCapture completed := by
  have fixed : fixedIPv4UDP sampleCapture = .ok (sampleCapture.drop 20) := by decide
  obtain ⟨_, _, completed, done, completes, _⟩ := checksum_materialisation fixed
  exact ⟨fixed, completed, done, completes⟩

end WgMix.FakeTcp
