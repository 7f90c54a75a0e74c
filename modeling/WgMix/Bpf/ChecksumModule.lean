import WgMix.Bpf.Encoder
import WgMix.Foundation.Keystream

/-! The kernel module that the FakeTCP egress program calls: it admits one exact UDP
packet shape by its hidden buffer metadata and the path MTU, and commits an
admitted UDP aggregate as a TCP one. -/
namespace WgMix.Bpf
open L3

inductive IpSummed where
  | none
  | unnecessary
  | complete
  | checksumPartial
  deriving DecidableEq, Repr

/-- The bits of `gso_type` that the module tells apart. -/
structure GsoType where
  udpL4 : Bool := false
  dodgy : Bool := false
  tcpV4 : Bool := false
  other : Bool := false
  deriving DecidableEq, Repr

/-- A valid route: whether it leaves through the buffer's device, and its MTU. -/
structure Route where
  sameDevice : Bool
  mtu : Nat

/-- What the TC context does not show of a buffer. Offsets are `none` where the
header is unset or its offset is negative; `device` is the device's MTU. -/
structure SkbMeta where
  networkOffset : Option Nat
  transportOffset : Option Nat
  ipSummed : IpSummed
  csumNotInet : Bool := false
  csumStart : Option Nat := Option.none
  csumOffset : Nat := 0
  encapsulation : Bool := false
  fragList : Bool := false
  gsoType : GsoType := {}
  gsoSegs : Nat := 0
  shared : Bool := false
  cloned : Bool := false
  headerCloned : Bool := false
  nonlinear : Bool := false
  headroom : Nat := 0
  device : Option Nat
  route : Option Route

inductive PrepareReject where
  | packet
  | state
  | metadata
  | gsoType
  | gsoGeometry
  | writable
  | truncated
  | mtuInvalidInput
  | mtuArithmeticOverflow
  | mtuFragmentationRejected
  | mtuDeviceUnknown
  | mtuDeviceExceeded
  | mtuRouteUnknown
  | mtuRouteExceeded
  deriving DecidableEq, Repr

inductive PrepareAccept where
  | none
  | partialReset
  | gso
  deriving DecidableEq, Repr

namespace ChecksumModule

def minSegmentPayload : Nat := 32
def maxInputTotalLen : Nat := 0xffff - headerDelta

def divRoundUp (value size : Nat) : Nat := (value + size - 1) / size

/-- The length of the UDP payload of a packet that has the one supported shape. -/
def validateUdpPacket (skb : Skb) (hidden : SkbMeta) (networkOffset transportOffset udpLength : Nat) :
    Except PrepareReject Nat :=
  if skb.protocol ≠ ethPIp then .error .packet
  else if hidden.networkOffset ≠ some networkOffset then .error .packet
  else if networkOffset > skb.data.length ∨ transportOffset < networkOffset ∨
      transportOffset > skb.data.length ∨ transportOffset - networkOffset ≠ iphdrSize ∨
      udpLength < udphdrSize ∨ udpLength > 0xffff ∨ udpLength ≠ skb.data.length - transportOffset then
    .error .truncated
  else
    let totalLen := skb.data.be16 (networkOffset + 2)
    if skb.data.byteAt networkOffset ≠ 0x45 ∨ skb.data.byteAt (networkOffset + 9) ≠ ipprotoUdp ∨
        totalLen ≠ iphdrSize + udpLength ∨ totalLen ≠ skb.data.length - networkOffset ∨
        skb.data.be16 (transportOffset + 4) ≠ udpLength then .error .packet
    else if skb.data.be16 (networkOffset + 6) &&& (ipMf ||| ipOffset) ≠ 0 then
      .error .mtuFragmentationRejected
    else if totalLen > maxInputTotalLen then .error .mtuArithmeticOverflow
    else .ok (udpLength - udphdrSize)

/-- Where a pending UDP checksum must be described. -/
def checksumDescribed (hidden : SkbMeta) (transportOffset udpLength : Nat) : Bool :=
  hidden.csumNotInet = false ∧ hidden.csumStart = some transportOffset ∧ hidden.csumOffset = 6 ∧
    hidden.csumOffset ≤ udpLength - 2

def validateUdpChecksum (skb : Skb) (hidden : SkbMeta) (transportOffset payloadLength : Nat) :
    Except PrepareReject PrepareAccept :=
  if skb.gsoSize ≠ 0 then .error .gsoType
  else
    match hidden.ipSummed with
    | .none => .ok .none
    | .checksumPartial =>
      if hidden.transportOffset ≠ some transportOffset ∨
          checksumDescribed hidden transportOffset (payloadLength + udphdrSize) = false then
        .error .metadata
      else .ok .partialReset
    | _ => .error .state

def admitPmtu (hidden : SkbMeta) (plannedL3Length : Nat) : Except PrepareReject Unit :=
  if plannedL3Length < iphdrSize + tcphdrSize ∨ plannedL3Length > 0xffff then .error .mtuInvalidInput
  else
    match hidden.device with
    | none => .error .mtuDeviceUnknown
    | some deviceMtu =>
      if deviceMtu = 0 then .error .mtuDeviceUnknown
      else if plannedL3Length > deviceMtu then .error .mtuDeviceExceeded
      else
        match hidden.route with
        | none => .error .mtuRouteUnknown
        | some route =>
          if route.sameDevice = false then .error .mtuRouteUnknown
          else if route.mtu = 0 then .error .mtuRouteUnknown
          else if plannedL3Length > route.mtu then .error .mtuRouteExceeded
          else .ok ()

/-- The one aggregate that is supported; a count of zero is left to preparation. -/
def validateUdpGso (skb : Skb) (hidden : SkbMeta) (transportOffset payloadLength : Nat)
    (allowDodgyZeroSegments : Bool) : Except PrepareReject Unit :=
  if skb.gsoSize = 0 ∨ hidden.encapsulation ∨ hidden.fragList ∨ hidden.gsoType.udpL4 = false ∨
      hidden.gsoType.tcpV4 ∨ hidden.gsoType.other then .error .gsoType
  else if hidden.transportOffset ≠ some transportOffset then .error .metadata
  else if payloadLength ≤ skb.gsoSize ∨ skb.gsoSize < minSegmentPayload then .error .gsoGeometry
  else
    let expectedSegments := divRoundUp payloadLength skb.gsoSize
    if (hidden.gsoSegs ≠ expectedSegments ∧
          ¬(allowDodgyZeroSegments ∧ hidden.gsoSegs = 0 ∧ hidden.gsoType.dodgy)) ∨
        payloadLength - (expectedSegments - 1) * skb.gsoSize < minSegmentPayload then .error .gsoGeometry
    else if hidden.ipSummed ≠ .checksumPartial ∨
        checksumDescribed hidden transportOffset (payloadLength + udphdrSize) = false then .error .metadata
    else .ok ()

/-- Whether the buffer could be made linear and given headroom. -/
structure Allocation where
  linearizes : Bool := true
  growsHead : Bool := true

def resetChecksum (hidden : SkbMeta) : SkbMeta :=
  { hidden with csumNotInet := false, csumStart := none, csumOffset := 0, ipSummed := .none }

/-- `wg_mix_faketcp_skb_prepare_udp`. Packet bytes never change here. -/
def prepareUdp (allocation : Allocation) (skb : Skb) (hidden : SkbMeta)
    (networkOffset transportOffset udpLength : Nat) :
    Except PrepareReject (PrepareAccept × Skb × SkbMeta) := do
  let payloadLength ← validateUdpPacket skb hidden networkOffset transportOffset udpLength
  if skb.gsoSize = 0 then
    let accepted ← validateUdpChecksum skb hidden transportOffset payloadLength
    let totalLen := skb.data.be16 (networkOffset + 2)
    if totalLen > 0xffff - headerDelta then .error .mtuArithmeticOverflow
    else
      admitPmtu hidden (totalLen + headerDelta)
      if accepted = .none then .ok (.none, skb, hidden)
      else .ok (.partialReset, skb, resetChecksum hidden)
  else
    validateUdpGso skb hidden transportOffset payloadLength true
    if skb.gsoSize > 0xffff - iphdrSize - tcphdrSize then .error .mtuArithmeticOverflow
    else
      admitPmtu hidden (iphdrSize + tcphdrSize + skb.gsoSize)
      if hidden.shared ∨ allocation.linearizes = false ∨ allocation.growsHead = false then .error .writable
      else
        -- linear and exclusive from here on
        let skb := { skb with linear := skb.data.length }
        let hidden := { hidden with
          cloned := false, headerCloned := false, nonlinear := false
          headroom := max hidden.headroom headerDelta }
        let payloadLength ← validateUdpPacket skb hidden networkOffset transportOffset udpLength
        validateUdpGso skb hidden transportOffset payloadLength true
        .ok (.gso, skb, { hidden with gsoSegs := divRoundUp payloadLength skb.gsoSize })

/-- Each segment's first twelve bytes move to its end; one iteration a fuel unit. -/
def rotateGsoPayload (payloadOffset payloadLength gsoSize : Nat) :
    (fuel processed : Nat) → Bytes → Bytes
  | 0, _, data => data
  | fuel + 1, processed, data =>
    if processed < payloadLength then
      let segmentLength := min gsoSize (payloadLength - processed)
      let at_ := payloadOffset + processed
      let saved := data.slice at_ headerDelta
      let moved := data.store at_ (data.slice (at_ + headerDelta) (segmentLength - headerDelta))
      let rotated := moved.store (at_ + segmentLength - headerDelta) saved
      rotateGsoPayload payloadOffset payloadLength gsoSize fuel (processed + segmentLength) rotated
    else data

/-- The TCP header that covers the UDP header and the twelve bytes in front of the payload. -/
def aggregateTcp (ports addresses : Bytes) (sequence acknowledgement : UInt32) (window : UInt16)
    (payloadLength : Nat) : Bytes :=
  let seed := OnesComplement.fold (OnesComplement.wordSum
    (addresses ++ ([0, ipprotoTcp] ++ Bytes.beBytes16 (tcphdrSize + payloadLength))))
  ports ++ (Bytes.beBytes32 sequence.toNat ++ (Bytes.beBytes32 acknowledgement.toNat ++
    ([0x50, flagAck ||| flagPsh] ++ (Bytes.beBytes16 (if window = 0 then 0xffff else window.toNat) ++
      (Bytes.beBytes16 seed ++ [0, 0])))))

/-- Protocol, total length and a fresh header checksum. -/
def aggregateIp (ip : Bytes) : Bytes :=
  let cleared := ((ip.store 9 [ipprotoTcp]).store 2 (Bytes.beBytes16 (ip.be16 2 + headerDelta))).store 10 [0, 0]
  cleared.store 10 (Bytes.beBytes16 (0xffff - OnesComplement.fold (OnesComplement.wordSum cleared)))

/-- `wg_mix_faketcp_skb_commit_udp_gso`. Nothing after the checks can fail. -/
def commitUdpGso (skb : Skb) (hidden : SkbMeta) (networkOffset transportOffset : Nat) (sequence : UInt32)
    (ackWindow : UInt64) : Except PrepareReject (Skb × SkbMeta) := do
  if transportOffset > skb.data.length ∨ skb.data.length - transportOffset > 0xffff then .error .truncated
  else
    let udpLength := skb.data.length - transportOffset
    let payloadLength ← validateUdpPacket skb hidden networkOffset transportOffset udpLength
    validateUdpGso skb hidden transportOffset payloadLength false
    if hidden.shared ∨ hidden.cloned ∨ hidden.headerCloned ∨ hidden.nonlinear ∨
        hidden.headroom < headerDelta then .error .writable
    else
      let headerLength := transportOffset + udphdrSize
      let ports := skb.data.slice transportOffset 4
      let rotated := rotateGsoPayload headerLength payloadLength skb.gsoSize payloadLength 0 skb.data
      let ip := skb.data.slice networkOffset iphdrSize
      let tcp := aggregateTcp ports (ip.slice 12 8) sequence (UInt32.ofNat (ackWindow.toNat % 2 ^ 32))
        (UInt16.ofNat (ackWindow.toNat / 2 ^ 32 % 2 ^ 16)) payloadLength
      -- the headers move up by twelve bytes, the payload stays where it is
      let data := rotated.take networkOffset ++ (aggregateIp ip ++ (tcp ++ rotated.drop headerLength))
      .ok ({ skb with data, linear := data.length },
        { hidden with
          networkOffset := some networkOffset
          transportOffset := some transportOffset
          headroom := hidden.headroom - headerDelta
          csumNotInet := false
          ipSummed := .checksumPartial
          csumStart := some transportOffset
          csumOffset := 16
          gsoType := { tcpV4 := true, dodgy := hidden.gsoType.dodgy }
          gsoSegs := divRoundUp payloadLength skb.gsoSize })

end ChecksumModule
end WgMix.Bpf
