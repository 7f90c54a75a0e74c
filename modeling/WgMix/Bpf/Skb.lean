import WgMix.Bpf.Checksum
import WgMix.Bpf.Link
import WgMix.Bpf.Maps

/-! The socket buffer of the TC programs, the packet helpers they call and the
baseline packet parser. Words are those of a little-endian host. -/
namespace WgMix.Bpf
open L3

inductive TcVerdict where
  | ok
  | shot
  deriving DecidableEq, Repr

/-- `data` holds all `skb->len` bytes, of which the first `linear` are directly
accessible; `protocol` is in host order. -/
structure Skb where
  data : Bytes
  linear : Nat
  protocol : Nat
  mark : UInt32
  ifindex : UInt32
  gsoSize : Nat := 0
  checksumOffloaded : Bool := false
  cb : Fin 5 → Nat := fun _ => 0

/-- Failures beyond the bounds that each helper checks, and which slots of the
tail-call array hold a program. -/
structure Helpers where
  loadFails : Bytes → Nat → Nat → Bool := fun _ _ _ => false
  storeFails : Bytes → Nat → Bytes → Bool := fun _ _ _ => false
  csumFails : Bytes → Nat → Bool := fun _ _ => false
  xorEgressPrograms : Nat → Bool := fun _ => true

namespace Skb

def loadBytes (helpers : Helpers) (skb : Skb) (offset width : Nat) : Option Bytes :=
  if offset + width > skb.data.length ∨ helpers.loadFails skb.data offset width then none
  else some (skb.data.slice offset width)

def storeBytes (helpers : Helpers) (skb : Skb) (offset : Nat) (source : Bytes) : Option Skb :=
  if offset + source.length > skb.data.length ∨ helpers.storeFails skb.data offset source then none
  else some { skb with data := skb.data.store offset source }

def csumFold (sum : Nat) : Nat := 65535 - OnesComplement.fold sum

/-- The diff form with `BPF_F_MARK_MANGLED_0`: a disabled checksum stays
disabled, and a checksum left to the device covers the payload later. -/
def l4CsumReplace (helpers : Helpers) (skb : Skb) (offset diff : Nat) : Option Skb :=
  if offset + 2 > skb.data.length ∨ helpers.csumFails skb.data offset then none
  else
    let field := Bytes.leNat (skb.data.slice offset 2)
    if field = 0 ∨ skb.checksumOffloaded then some skb
    else
      let updated := csumFold (addCarry32 diff (2 ^ 32 - 1 - field))
      let updated := if updated = 0 then 0xffff else updated
      some { skb with data := skb.data.store offset (Bytes.leBytes 2 updated) }

def csum16Add (left right : Nat) : Nat :=
  let sum := left + right
  sum % 65536 + sum / 65536

/-- The two-byte form, on an IPv4 header checksum. -/
def l3CsumReplace (helpers : Helpers) (skb : Skb) (offset old new : Nat) : Option Skb :=
  if offset + 2 > skb.data.length ∨ helpers.csumFails skb.data offset then none
  else
    let field := Bytes.leNat (skb.data.slice offset 2)
    let updated := 65535 - csum16Add (csum16Add (65535 - field) (65535 - old)) new
    some { skb with data := skb.data.store offset (Bytes.leBytes 2 updated) }

end Skb

structure PacketInfo where
  family : Family := .unset
  ipOff : Nat := 0
  udpOff : Nat := 0
  payloadOff : Nat := 0
  payloadLen : Nat := 0
  srcPort : UInt16 := 0
  dstPort : UInt16 := 0
  ipv4UdpCsumZero : Bool := false
  deriving DecidableEq, Repr

inductive ParseStatus where
  | ok
  | short
  | notUdp
  | fragment
  | ipv6Ext
  | ipv4FirstFragment
  | ipv4NonFirstFragment
  | ipv6ExtUdp
  | ipv6FragmentFirst
  | ipv6FragmentNonFirst
  | badCsum
  | ipv6ExtTooDeep
  deriving DecidableEq, Repr

namespace ParseStatus

def isFragment (status : ParseStatus) : Bool :=
  status = .fragment ∨ status = .ipv4FirstFragment ∨ status = .ipv4NonFirstFragment ∨
    status = .ipv6FragmentFirst ∨ status = .ipv6FragmentNonFirst

def isIpv6Ext (status : ParseStatus) : Bool :=
  status = .ipv6Ext ∨ status = .ipv6ExtUdp ∨ status = .ipv6ExtTooDeep

end ParseStatus

namespace Tc

def parseL3Link (skb : Skb) : ParseStatus × Nat × Nat :=
  if skb.protocol = ethPIp ∨ skb.protocol = ethPIpv6 then (.ok, 0, skb.protocol) else (.notUdp, 0, 0)

def parseEthernetLink (data : Bytes) : ParseStatus × Nat × Nat :=
  if ethhdrSize ≤ data.length then
    let protocol := data.be16 12
    if protocol = ethPIp ∨ protocol = ethPIpv6 ∨ isVlan protocol then
      match skipVlan data 2 ethhdrSize protocol with
      | none => (.short, 0, 0)
      | some (offset, protocol) => (.ok, offset, protocol)
    else (.notUdp, 0, 0)
  else (.notUdp, 0, 0)

/-- Parser mode auto tries Ethernet first and falls back to the bare L3 link. -/
def parseLink (maps : PolicyMaps) (skb : Skb) (data : Bytes) (generation : UInt64) :
    ParseStatus × Nat × Nat :=
  match maps.lookupParserMode skb.ifindex generation with
  | .l3 => parseL3Link skb
  | .ethernet => parseEthernetLink data
  | .auto =>
    let link := parseEthernetLink data
    if link.1 = .ok then link else parseL3Link skb

def parseUdpAt (data : Bytes) (family : Family) (ipOff udpOff : Nat) (requirePayloadWord : Bool) :
    ParseStatus × PacketInfo :=
  if udpOff + udphdrSize > data.length then (.short, {})
  else
    let udpLen := data.be16 (udpOff + 4)
    if udpLen < udphdrSize then (.short, {})
    else
      let unchecked : Bool := data.be16 (udpOff + 6) = 0
      let info : PacketInfo := {
        family
        ipOff
        udpOff
        payloadOff := udpOff + udphdrSize
        payloadLen := udpLen - udphdrSize
        srcPort := UInt16.ofNat (data.be16 udpOff)
        dstPort := UInt16.ofNat (data.be16 (udpOff + 2))
        ipv4UdpCsumZero := family = .ipv4 ∧ unchecked }
      if family = .ipv6 ∧ unchecked then (.badCsum, info)
      else if requirePayloadWord ∧ info.payloadLen < 4 then (.short, info)
      else (.ok, info)

def parseIpv4 (data : Bytes) (off : Nat) : ParseStatus × PacketInfo :=
  if off + iphdrSize > data.length then (.short, {})
  else
    let ihl := (data.byteAt off).toNat % 16 * 4
    if ihl < iphdrSize ∨ off + ihl > data.length then (.short, {})
    else
      let frag := data.be16 (off + 6)
      if data.byteAt (off + 9) ≠ ipprotoUdp then (.notUdp, {})
      else if frag &&& ipOffset ≠ 0 then (.ipv4NonFirstFragment, {})
      else
        let parsed := parseUdpAt data .ipv4 off (off + ihl) (frag &&& ipMf = 0)
        if parsed.1 ≠ .ok then parsed
        else if frag &&& ipMf ≠ 0 then (.ipv4FirstFragment, parsed.2)
        else parsed

/-- One iteration of the unrolled header walk a fuel unit. -/
def walkIpv6 (data : Bytes) (off : Nat) :
    (fuel : Nat) → (nextHeader : UInt8) → (hdrOff : Nat) → (sawExt sawFrag : Bool) →
    ParseStatus × PacketInfo
  | 0, _, _, _, _ => (.ipv6ExtTooDeep, {})
  | fuel + 1, nextHeader, hdrOff, sawExt, sawFrag =>
    if nextHeader = ipprotoUdp then
      let parsed := parseUdpAt data .ipv6 off hdrOff (sawExt = false ∧ sawFrag = false)
      if parsed.1 ≠ .ok then parsed
      else if sawFrag then (.ipv6FragmentFirst, parsed.2)
      else if sawExt then (.ipv6ExtUdp, parsed.2)
      else parsed
    else if nextHeader = nexthdrFragment then
      if hdrOff + 8 > data.length then (.short, {})
      else if data.be16 (hdrOff + 2) &&& 0xfff8 ≠ 0 then (.ipv6FragmentNonFirst, {})
      else walkIpv6 data off fuel (data.byteAt hdrOff) (hdrOff + 8) sawExt true
    else if isIpv6OptionHeader nextHeader then
      if hdrOff + 2 > data.length then (.short, {})
      else
        let hdrOff' := hdrOff + ((data.byteAt (hdrOff + 1)).toNat + 1) * 8
        if hdrOff' > off + ipv6hdrSize + 512 then (.ipv6ExtTooDeep, {})
        else walkIpv6 data off fuel (data.byteAt hdrOff) hdrOff' true sawFrag
    else if nextHeader = nexthdrNone then (.notUdp, {})
    else (.ipv6Ext, {})

def parsePacket (maps : PolicyMaps) (skb : Skb) (generation : UInt64) : ParseStatus × PacketInfo :=
  let data : Bytes := skb.data.take skb.linear
  match parseLink maps skb data generation with
  | (.ok, off, protocol) =>
    if protocol = ethPIp then parseIpv4 data off
    else if protocol = ethPIpv6 then
      if off + ipv6hdrSize > data.length then (.short, {})
      else walkIpv6 data off 8 (data.byteAt (off + 6)) (off + ipv6hdrSize) false false
    else (.notUdp, {})
  | (status, _, _) => (status, {})

end Tc
end WgMix.Bpf
