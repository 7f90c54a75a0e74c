import WgMix.Foundation.Bytes

/-! The bounded L3 parser shared by the XDP and TC programs. A result other
than `ok` never authorizes transport-port access; the partially filled
descriptor is returned with every status, as the source leaves it. -/
namespace WgMix.Bpf

inductive Family where
  | unset
  | ipv4
  | ipv6
  deriving DecidableEq, Repr

inductive L3Status where
  | ok
  | safeBypass
  | truncated
  | malformed
  | unsupported
  | firstFragment
  | nonInitialFragment
  | extensionTooDeep
  deriving DecidableEq, Repr

structure L3Info where
  l3Off : Nat := 0
  l3Len : Nat := 0
  l4Off : Nat := 0
  l4Len : Nat := 0
  l3HeaderLen : Nat := 0
  l4HeaderLen : Nat := 0
  fragmentOffsetBytes : Nat := 0
  family : Family := .unset
  transportProtocol : UInt8 := 0
  extensionCount : Nat := 0
  flags : UInt8 := 0
  deriving DecidableEq, Repr

namespace L3

def ipprotoIcmp : UInt8 := 1
def ipprotoTcp : UInt8 := 6
def ipprotoUdp : UInt8 := 17
def ipprotoIcmpv6 : UInt8 := 58
def nexthdrHop : UInt8 := 0
def nexthdrRouting : UInt8 := 43
def nexthdrFragment : UInt8 := 44
def nexthdrAuth : UInt8 := 51
def nexthdrNone : UInt8 := 59
def nexthdrDest : UInt8 := 60

def ipReserved : Nat := 0x8000
def ipDf : Nat := 0x4000
def ipMf : Nat := 0x2000
def ipOffset : Nat := 0x1fff

def flagIpv4Options : UInt8 := 1
def flagIpv4Df : UInt8 := 2
def flagMoreFragments : UInt8 := 4
def flagIpv6Extensions : UInt8 := 8
def flagFragment : UInt8 := 16

def iphdrSize : Nat := 20
def ipv6hdrSize : Nat := 40
def udphdrSize : Nat := 8
def tcphdrSize : Nat := 20
def maxExtensionHeaders : Nat := 8
def maxExtensionBytes : Nat := 512

/-- The sole gate before any transform: fixed-header IPv4 carrying UDP or TCP
without options. -/
def managedTransformStatus (info : L3Info) (transportProtocol : UInt8) : L3Status :=
  if info.family ≠ .ipv4 ∨ info.l3HeaderLen ≠ iphdrSize ∨
      info.transportProtocol ≠ transportProtocol then .unsupported
  else if (transportProtocol = ipprotoUdp ∧ info.l4HeaderLen = udphdrSize) ∨
      (transportProtocol = ipprotoTcp ∧ info.l4HeaderLen = tcphdrSize) then .ok
  else .unsupported

/-- `data` holds the directly accessible bytes, so `data.length` is `data_end`;
`frameLen` may exceed it on a paged socket buffer. -/
def validateTransport (data : Bytes) (frameLen : Nat) (info : L3Info) : L3Status × L3Info :=
  if info.l4Off > frameLen ∨ info.l4Off + info.l4Len > frameLen then (.truncated, info)
  else if info.transportProtocol = ipprotoUdp then
    if info.l4Len < udphdrSize then (.malformed, info)
    else if info.l4Off + udphdrSize > data.length then (.truncated, info)
    else
      let udpLen := data.be16 (info.l4Off + 4)
      if udpLen < udphdrSize ∨ udpLen ≠ info.l4Len then (.malformed, info)
      else (.ok, { info with l4HeaderLen := udphdrSize })
  else if info.transportProtocol = ipprotoTcp then
    if info.l4Len < tcphdrSize then (.malformed, info)
    else if info.l4Off + tcphdrSize > data.length then (.truncated, info)
    else
      let headerLen := (data.byteAt (info.l4Off + 12)).toNat / 16 * 4
      if headerLen < tcphdrSize ∨ headerLen > info.l4Len then (.malformed, info)
      else if info.l4Off + headerLen > data.length then (.truncated, info)
      else (.ok, { info with l4HeaderLen := headerLen })
  else (.unsupported, info)

/-- The fragment field decides before the protocol does: a fragment has no
trustworthy port. -/
def parseIpv4Fragment (data : Bytes) (frameLen l3Off : Nat) (info : L3Info) : L3Status × L3Info :=
  let fragment := data.be16 (l3Off + 6)
  if fragment &&& ipReserved ≠ 0 then (.malformed, info)
  else
    let info := if fragment &&& ipDf ≠ 0 then { info with flags := info.flags ||| flagIpv4Df } else info
    if fragment &&& ipDf ≠ 0 ∧ fragment &&& (ipMf ||| ipOffset) ≠ 0 then (.malformed, info)
    else
      let info := if fragment &&& ipMf ≠ 0 then
        { info with flags := info.flags ||| (flagMoreFragments ||| flagFragment) } else info
      let fragmentOffset := fragment &&& ipOffset
      let info := { info with fragmentOffsetBytes := fragmentOffset * 8 }
      if fragmentOffset ≠ 0 then
        (.nonInitialFragment, { info with flags := info.flags ||| flagFragment })
      else if fragment &&& ipMf ≠ 0 then (.firstFragment, info)
      else if info.transportProtocol = ipprotoIcmp then (.safeBypass, info)
      else if info.transportProtocol ≠ ipprotoTcp ∧ info.transportProtocol ≠ ipprotoUdp then
        (.unsupported, info)
      else validateTransport data frameLen info

def parseIpv4 (data : Bytes) (frameLen l3Off : Nat) (info : L3Info) : L3Status × L3Info :=
  let info := { info with family := .ipv4 }
  if l3Off > frameLen then (.truncated, info)
  else if l3Off + iphdrSize > data.length then (.truncated, info)
  else if (data.byteAt l3Off).toNat / 16 ≠ 4 then (.malformed, info)
  else
    let ihl := (data.byteAt l3Off).toNat % 16 * 4
    if ihl < iphdrSize then (.malformed, info)
    else if ihl > frameLen - l3Off ∨ l3Off + ihl > data.length then (.truncated, info)
    else
      let totalLen := data.be16 (l3Off + 2)
      if totalLen < ihl then (.malformed, info)
      else if totalLen > frameLen - l3Off then (.truncated, info)
      else
        let info := { info with
          l3Len := totalLen
          l3HeaderLen := ihl
          l4Off := l3Off + ihl
          l4Len := totalLen - ihl
          transportProtocol := data.byteAt (l3Off + 9)
          flags := if ihl > iphdrSize then info.flags ||| flagIpv4Options else info.flags }
        parseIpv4Fragment data frameLen l3Off info

def isIpv6OptionHeader (nextHeader : UInt8) : Bool :=
  nextHeader = nexthdrHop ∨ nextHeader = nexthdrRouting ∨ nextHeader = nexthdrDest

/-- One unrolled iteration a fuel unit; `depth` counts the headers already
consumed and the loop bound admits one more than the extension limit. -/
def walkIpv6 (data : Bytes) (frameLen l3Off totalLen : Nat) :
    (fuel depth : Nat) → (nextHeader : UInt8) → (headerOff extensionBytes : Nat) → L3Info →
    L3Status × L3Info
  | 0, _, _, _, _, info => (.extensionTooDeep, info)
  | fuel + 1, depth, nextHeader, headerOff, extensionBytes, info =>
    let limit := l3Off + totalLen
    if nextHeader = ipprotoTcp ∨ nextHeader = ipprotoUdp then
      validateTransport data frameLen { info with
        l4Off := headerOff, l4Len := limit - headerOff, transportProtocol := nextHeader }
    else if nextHeader = ipprotoIcmpv6 ∨ nextHeader = nexthdrNone then
      (.safeBypass, { info with
        l4Off := headerOff, l4Len := limit - headerOff, transportProtocol := nextHeader })
    else if nextHeader = nexthdrFragment then
      if depth = maxExtensionHeaders then (.extensionTooDeep, info)
      else if headerOff > limit ∨ 8 > limit - headerOff then (.malformed, info)
      else if headerOff + 8 > data.length then (.truncated, info)
      else
        let rawFragment := data.be16 (headerOff + 2)
        if data.byteAt (headerOff + 1) ≠ 0 ∨ rawFragment &&& 0x0006 ≠ 0 then (.malformed, info)
        else
          let flags := info.flags ||| (flagIpv6Extensions ||| flagFragment)
          let info := { info with
            flags := if rawFragment &&& 1 ≠ 0 then flags ||| flagMoreFragments else flags
            extensionCount := info.extensionCount + 1
            transportProtocol := data.byteAt headerOff
            fragmentOffsetBytes := rawFragment &&& 0xfff8 }
          (if info.fragmentOffsetBytes ≠ 0 then .nonInitialFragment else .firstFragment, info)
    else if isIpv6OptionHeader nextHeader then
      if depth = maxExtensionHeaders then (.extensionTooDeep, info)
      else if nextHeader = nexthdrHop ∧ depth ≠ 0 then (.malformed, info)
      else if headerOff > limit ∨ 2 > limit - headerOff then (.malformed, info)
      else if headerOff + 2 > data.length then (.truncated, info)
      else
        let extensionLen := ((data.byteAt (headerOff + 1)).toNat + 1) * 8
        if extensionLen < 8 ∨ extensionLen > limit - headerOff then (.malformed, info)
        else if headerOff + extensionLen > data.length then (.truncated, info)
        else if extensionBytes + extensionLen > maxExtensionBytes then (.extensionTooDeep, info)
        else walkIpv6 data frameLen l3Off totalLen fuel (depth + 1) (data.byteAt headerOff)
          (headerOff + extensionLen) (extensionBytes + extensionLen) { info with
            flags := info.flags ||| flagIpv6Extensions, extensionCount := info.extensionCount + 1 }
    else if nextHeader = nexthdrAuth then
      if depth = maxExtensionHeaders then (.extensionTooDeep, info)
      else if headerOff > limit ∨ 2 > limit - headerOff then (.malformed, info)
      else if headerOff + 2 > data.length then (.truncated, info)
      else
        let authLen := ((data.byteAt (headerOff + 1)).toNat + 2) * 4
        if authLen < 12 ∨ authLen > limit - headerOff then (.malformed, info)
        else (.unsupported, { info with
          flags := info.flags ||| flagIpv6Extensions
          extensionCount := info.extensionCount + 1
          transportProtocol := nextHeader })
    else (.unsupported, { info with transportProtocol := nextHeader })

def parseIpv6 (data : Bytes) (frameLen l3Off : Nat) (info : L3Info) : L3Status × L3Info :=
  let info := { info with family := .ipv6 }
  if l3Off > frameLen then (.truncated, info)
  else if l3Off + ipv6hdrSize > data.length then (.truncated, info)
  else if (data.byteAt l3Off).toNat / 16 ≠ 6 then (.malformed, info)
  else
    let payloadLen := data.be16 (l3Off + 4)
    let totalLen := ipv6hdrSize + payloadLen
    if totalLen > frameLen - l3Off then (.truncated, info)
    else
      let info := { info with l3Len := totalLen, l3HeaderLen := ipv6hdrSize }
      let nextHeader := data.byteAt (l3Off + 6)
      if payloadLen = 0 then
        (if nextHeader = nexthdrNone then .safeBypass else .unsupported,
          { info with transportProtocol := nextHeader })
      else walkIpv6 data frameLen l3Off totalLen (maxExtensionHeaders + 1) 0 nextHeader
        (l3Off + ipv6hdrSize) 0 info

def parseL3 (data : Bytes) (frameLen l3Off : Nat) (family : Family) : L3Status × L3Info :=
  let info : L3Info := { l3Off }
  match family with
  | .ipv4 => parseIpv4 data frameLen l3Off info
  | .ipv6 => parseIpv6 data frameLen l3Off info
  | .unset => (.malformed, info)

end L3
end WgMix.Bpf
