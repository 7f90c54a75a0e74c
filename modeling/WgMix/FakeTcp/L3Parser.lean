import WgMix.Foundation.Bytes

/-! The userspace model of the datapath's L3 parser. Offsets count from the start of the L3
packet, an index outside of a slice has no result, and the IPv6 headers it looks at are
counted. -/
namespace WgMix.FakeTcp

inductive L3ParseStatus where
  | ok
  | safeBypass
  | truncated
  | malformed
  | unsupported
  | firstFragment
  | nonInitialFragment
  | extensionTooDeep
  deriving DecidableEq, Repr

structure L3Info where
  l3Offset : Nat := 0
  l3Length : Nat := 0
  l4Offset : Nat := 0
  l4Length : Nat := 0
  l3HeaderLength : Nat := 0
  l4HeaderLength : Nat := 0
  fragmentOffsetBytes : Nat := 0
  family : Nat := 0
  transportProtocol : UInt8 := 0
  extensionCount : Nat := 0
  flags : UInt8 := 0
  deriving DecidableEq, Repr

namespace L3Parser

def l3FamilyIpv4 : Nat := 4
def l3FamilyIpv6 : Nat := 6

def l3ProtocolIcmp : UInt8 := 1
def l3ProtocolTcp : UInt8 := 6
def l3ProtocolUdp : UInt8 := 17
def l3ProtocolAh : UInt8 := 51
def l3ProtocolIcmpv6 : UInt8 := 58
def l3ProtocolNone : UInt8 := 59
def l3Ipv6HopByHop : UInt8 := 0
def l3Ipv6Routing : UInt8 := 43
def l3Ipv6Fragment : UInt8 := 44
def l3Ipv6Destination : UInt8 := 60

def l3MaxIpv6ExtensionHeaders : Nat := 8
def l3MaxIpv6ExtensionBytes : Nat := 512

def l3FlagIpv4Options : UInt8 := 1
def l3FlagIpv4DontFragment : UInt8 := 2
def l3FlagMoreFragments : UInt8 := 4
def l3FlagIpv6Extensions : UInt8 := 8
def l3FlagFragment : UInt8 := 16

/-- A result and the number of IPv6 headers looked at; `none` is a panic. -/
abbrev Parsed := Option ((L3Info × L3ParseStatus) × Nat)

/-- `packet[:length]`. -/
def sliceTo (packet : Bytes) (length : Nat) : Option Bytes :=
  if length ≤ packet.length then some (packet.take length) else none

def validateL4 (packet : Bytes) (info : L3Info) : Option (L3Info × L3ParseStatus) :=
  let offset := info.l4Offset
  let length := info.l4Length
  if offset > packet.length ∨ length > packet.length - offset then some (info, .truncated)
  else if info.transportProtocol = l3ProtocolUdp then
    if length < 8 then some (info, .malformed)
    else (packet.read16 (offset + 4)).bind fun udpLength =>
      if udpLength < 8 ∨ udpLength ≠ length then some (info, .malformed)
      else some ({ info with l4HeaderLength := 8 }, .ok)
  else if info.transportProtocol = l3ProtocolTcp then
    if length < 20 then some (info, .malformed)
    else (packet.read8 (offset + 12)).bind fun offsetByte =>
      let headerLength := offsetByte.toNat / 16 * 4
      if headerLength < 20 ∨ headerLength > length then some (info, .malformed)
      else some ({ info with l4HeaderLength := headerLength }, .ok)
  else some (info, .unsupported)

/-- The part of `parseIPv4L3` from the fragment field on. -/
def parseIpv4Fragment (packet : Bytes) (totalLength : Nat) (info : L3Info) : Option (L3Info × L3ParseStatus) :=
  (packet.read16 6).bind fun fragment =>
    if fragment &&& 0x8000 ≠ 0 then some (info, .malformed)
    else
      let info := if fragment &&& 0x4000 ≠ 0 then
        { info with flags := info.flags ||| l3FlagIpv4DontFragment } else info
      if fragment &&& 0x4000 ≠ 0 ∧ fragment &&& 0x3fff ≠ 0 then some (info, .malformed)
      else
        let info := if fragment &&& 0x2000 ≠ 0 then
          { info with flags := info.flags ||| (l3FlagMoreFragments ||| l3FlagFragment) } else info
        let fragmentOffset := fragment &&& 0x1fff
        let info := { info with fragmentOffsetBytes := fragmentOffset * 8 }
        if fragmentOffset ≠ 0 then
          some ({ info with flags := info.flags ||| l3FlagFragment }, .nonInitialFragment)
        else if fragment &&& 0x2000 ≠ 0 then some (info, .firstFragment)
        else if info.transportProtocol = l3ProtocolIcmp then some (info, .safeBypass)
        else if info.transportProtocol ≠ l3ProtocolTcp ∧ info.transportProtocol ≠ l3ProtocolUdp then
          some (info, .unsupported)
        else (sliceTo packet totalLength).bind (validateL4 · info)

def parseIpv4L3 (packet : Bytes) : Option (L3Info × L3ParseStatus) :=
  let info : L3Info := { family := l3FamilyIpv4 }
  if packet.length < 20 then some (info, .truncated)
  else (packet.read8 0).bind fun first =>
    let headerLength := first.toNat % 16 * 4
    if headerLength < 20 then some (info, .malformed)
    else if headerLength > packet.length then some (info, .truncated)
    else (packet.read16 2).bind fun totalLength =>
      if totalLength < headerLength then some (info, .malformed)
      else if totalLength > packet.length then some (info, .truncated)
      else (packet.read8 9).bind fun protocol =>
        parseIpv4Fragment packet totalLength { info with
          l3Length := totalLength
          l3HeaderLength := headerLength
          l4Offset := headerLength
          l4Length := totalLength - headerLength
          transportProtocol := protocol
          flags := if headerLength > 20 then info.flags ||| l3FlagIpv4Options else info.flags }

/-- The loop of `parseIPv6L3`, `remaining` turns before its bound. -/
def walkIpv6 (packet : Bytes) (totalLength : Nat) :
    (remaining depth : Nat) → (nextHeader : UInt8) → (offset extensionBytes : Nat) → L3Info → Parsed
  | 0, depth, _, _, _, info => some ((info, .extensionTooDeep), depth)
  | remaining + 1, depth, nextHeader, offset, extensionBytes, info =>
    let stop (info : L3Info) (status : L3ParseStatus) : Parsed := some ((info, status), depth + 1)
    if nextHeader = l3ProtocolTcp ∨ nextHeader = l3ProtocolUdp then
      ((sliceTo packet totalLength).bind (validateL4 · { info with
        l4Offset := offset, l4Length := totalLength - offset, transportProtocol := nextHeader })).map (·, depth + 1)
    else if nextHeader = l3ProtocolIcmpv6 ∨ nextHeader = l3ProtocolNone then
      stop { info with
        l4Offset := offset, l4Length := totalLength - offset, transportProtocol := nextHeader } .safeBypass
    else if nextHeader = l3Ipv6Fragment then
      if depth = l3MaxIpv6ExtensionHeaders then stop info .extensionTooDeep
      else if totalLength - offset < 8 then stop info .malformed
      else (packet.read16 (offset + 2)).bind fun fragment => (packet.read8 (offset + 1)).bind fun reserved =>
        if reserved ≠ 0 ∨ fragment &&& 0x0006 ≠ 0 then stop info .malformed
        else (packet.read8 offset).bind fun protocol =>
          let flags := info.flags ||| (l3FlagIpv6Extensions ||| l3FlagFragment)
          let info := { info with
            flags := if fragment &&& 1 ≠ 0 then flags ||| l3FlagMoreFragments else flags
            extensionCount := info.extensionCount + 1
            transportProtocol := protocol
            fragmentOffsetBytes := (fragment &&& 0xfff8) >>> 3 * 8 }
          stop info (if info.fragmentOffsetBytes ≠ 0 then .nonInitialFragment else .firstFragment)
    else if nextHeader = l3Ipv6HopByHop ∨ nextHeader = l3Ipv6Routing ∨ nextHeader = l3Ipv6Destination then
      if depth = l3MaxIpv6ExtensionHeaders then stop info .extensionTooDeep
      else if nextHeader = l3Ipv6HopByHop ∧ depth ≠ 0 then stop info .malformed
      else if totalLength - offset < 2 then stop info .malformed
      else (packet.read8 (offset + 1)).bind fun headerLength =>
        let extensionLength := (headerLength.toNat + 1) * 8
        if extensionLength < 8 ∨ extensionLength > totalLength - offset then stop info .malformed
        else if extensionBytes + extensionLength > l3MaxIpv6ExtensionBytes then stop info .extensionTooDeep
        else (packet.read8 offset).bind fun following =>
          walkIpv6 packet totalLength remaining (depth + 1) following (offset + extensionLength)
            (extensionBytes + extensionLength) { info with
              flags := info.flags ||| l3FlagIpv6Extensions, extensionCount := info.extensionCount + 1 }
    else if nextHeader = l3ProtocolAh then
      if depth = l3MaxIpv6ExtensionHeaders then stop info .extensionTooDeep
      else if totalLength - offset < 2 then stop info .malformed
      else (packet.read8 (offset + 1)).bind fun headerLength =>
        let extensionLength := (headerLength.toNat + 2) * 4
        if extensionLength < 12 ∨ extensionLength > totalLength - offset then stop info .malformed
        else stop { info with
          flags := info.flags ||| l3FlagIpv6Extensions
          extensionCount := info.extensionCount + 1
          transportProtocol := nextHeader } .unsupported
    -- encapsulated IP and ESP end like every other protocol
    else stop { info with transportProtocol := nextHeader } .unsupported

def parseIpv6L3 (packet : Bytes) : Parsed :=
  let info : L3Info := { family := l3FamilyIpv6 }
  if packet.length < 40 then some ((info, .truncated), 0)
  else (packet.read16 4).bind fun payloadLength =>
    let totalLength := 40 + payloadLength
    if totalLength > packet.length then some ((info, .truncated), 0)
    else (packet.read8 6).bind fun nextHeader =>
      let info := { info with l3Length := totalLength, l3HeaderLength := 40 }
      if payloadLength = 0 then
        if nextHeader = l3ProtocolNone then some (({ info with transportProtocol := nextHeader }, .safeBypass), 1)
        else some ((info, .unsupported), 1)
      else walkIpv6 packet totalLength (l3MaxIpv6ExtensionHeaders + 1) 0 nextHeader 40 0 info

def parseL3 (packet : Bytes) : Parsed :=
  if packet.length = 0 then some (({}, .truncated), 0)
  else (packet.read8 0).bind fun first =>
    if first.toNat / 16 = l3FamilyIpv4 then (parseIpv4L3 packet).map (·, 0)
    else if first.toNat / 16 = l3FamilyIpv6 then parseIpv6L3 packet
    else some (({}, .malformed), 0)

end L3Parser
end WgMix.FakeTcp
