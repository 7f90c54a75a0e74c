import WgMix.Bpf.L3
import WgMix.Foundation.Guard

/-! The L3 parser as the machine runs it: its offsets are 32-bit words, a packet access
outside of the frame has no result, and the IPv6 headers it looks at are counted. -/
namespace WgMix.Bpf.L3Machine
open L3

def u32 (value : Nat) : Nat := value % 2 ^ 32

def sub32 (left right : Nat) : Nat := u32 (left + 2 ^ 32 - right)

def validateTransport (data : Bytes) (frameLen : Nat) (info : L3Info) : Option (L3Status × L3Info) :=
  -- the end of the transport part is a 64-bit sum
  if info.l4Off > frameLen ∨ info.l4Off + info.l4Len > frameLen then some (.truncated, info)
  else if info.transportProtocol = ipprotoUdp then
    if info.l4Len < udphdrSize then some (.malformed, info)
    else if info.l4Off + udphdrSize > data.length then some (.truncated, info)
    else (data.read16 (info.l4Off + 4)).bind fun udpLen =>
      if udpLen < udphdrSize ∨ udpLen ≠ info.l4Len then some (.malformed, info)
      else some (.ok, { info with l4HeaderLen := udphdrSize })
  else if info.transportProtocol = ipprotoTcp then
    if info.l4Len < tcphdrSize then some (.malformed, info)
    else if info.l4Off + tcphdrSize > data.length then some (.truncated, info)
    else (data.read8 (info.l4Off + 12)).bind fun offsetByte =>
      let headerLen := offsetByte.toNat / 16 * 4
      if headerLen < tcphdrSize ∨ headerLen > info.l4Len then some (.malformed, info)
      else if info.l4Off + headerLen > data.length then some (.truncated, info)
      else some (.ok, { info with l4HeaderLen := headerLen })
  else some (.unsupported, info)

def parseIpv4Fragment (data : Bytes) (frameLen l3Off : Nat) (info : L3Info) : Option (L3Status × L3Info) :=
  (data.read16 (l3Off + 6)).bind fun fragment =>
    if fragment &&& ipReserved ≠ 0 then some (.malformed, info)
    else
      let info := if fragment &&& ipDf ≠ 0 then { info with flags := info.flags ||| flagIpv4Df } else info
      if fragment &&& ipDf ≠ 0 ∧ fragment &&& (ipMf ||| ipOffset) ≠ 0 then some (.malformed, info)
      else
        let info := if fragment &&& ipMf ≠ 0 then
          { info with flags := info.flags ||| (flagMoreFragments ||| flagFragment) } else info
        let fragmentOffset := fragment &&& ipOffset
        let info := { info with fragmentOffsetBytes := fragmentOffset * 8 }
        if fragmentOffset ≠ 0 then
          some (.nonInitialFragment, { info with flags := info.flags ||| flagFragment })
        else if fragment &&& ipMf ≠ 0 then some (.firstFragment, info)
        else if info.transportProtocol = ipprotoIcmp then some (.safeBypass, info)
        else if info.transportProtocol ≠ ipprotoTcp ∧ info.transportProtocol ≠ ipprotoUdp then
          some (.unsupported, info)
        else validateTransport data frameLen info

def parseIpv4 (data : Bytes) (frameLen l3Off : Nat) (info : L3Info) : Option (L3Status × L3Info) :=
  let info := { info with family := .ipv4 }
  if l3Off > frameLen then some (.truncated, info)
  else if l3Off + iphdrSize > data.length then some (.truncated, info)
  else (data.read8 l3Off).bind fun first =>
    if first.toNat / 16 ≠ 4 then some (.malformed, info)
    else
      let ihl := first.toNat % 16 * 4
      if ihl < iphdrSize then some (.malformed, info)
      else if ihl > frameLen - l3Off ∨ l3Off + ihl > data.length then some (.truncated, info)
      else (data.read16 (l3Off + 2)).bind fun totalLen =>
        if totalLen < ihl then some (.malformed, info)
        else if totalLen > frameLen - l3Off then some (.truncated, info)
        else (data.read8 (l3Off + 9)).bind fun protocol =>
          parseIpv4Fragment data frameLen l3Off { info with
            l3Len := totalLen
            l3HeaderLen := ihl
            l4Off := u32 (l3Off + ihl)
            l4Len := totalLen - ihl
            transportProtocol := protocol
            flags := if ihl > iphdrSize then info.flags ||| flagIpv4Options else info.flags }

/-- The unrolled loop; the number is that of the headers looked at. -/
def walkIpv6 (data : Bytes) (frameLen l3Off totalLen : Nat) :
    (fuel depth : Nat) → (nextHeader : UInt8) → (headerOff extensionBytes : Nat) → L3Info →
    Option ((L3Status × L3Info) × Nat)
  | 0, depth, _, _, _, info => some ((.extensionTooDeep, info), depth)
  | fuel + 1, depth, nextHeader, headerOff, extensionBytes, info =>
    let limit := u32 (l3Off + totalLen)
    let stop (status : L3Status) (info : L3Info) : Option ((L3Status × L3Info) × Nat) :=
      some ((status, info), depth + 1)
    if nextHeader = ipprotoTcp ∨ nextHeader = ipprotoUdp then
      (validateTransport data frameLen { info with
        l4Off := headerOff, l4Len := sub32 limit headerOff, transportProtocol := nextHeader }).map (·, depth + 1)
    else if nextHeader = ipprotoIcmpv6 ∨ nextHeader = nexthdrNone then
      stop .safeBypass { info with
        l4Off := headerOff, l4Len := sub32 limit headerOff, transportProtocol := nextHeader }
    else if nextHeader = nexthdrFragment then
      if depth = maxExtensionHeaders then stop .extensionTooDeep info
      else if headerOff > limit ∨ 8 > sub32 limit headerOff then stop .malformed info
      else if headerOff + 8 > data.length then stop .truncated info
      else (data.read16 (headerOff + 2)).bind fun rawFragment => (data.read8 (headerOff + 1)).bind fun reserved =>
        if reserved ≠ 0 ∨ rawFragment &&& 0x0006 ≠ 0 then stop .malformed info
        else (data.read8 headerOff).bind fun protocol =>
          let flags := info.flags ||| (flagIpv6Extensions ||| flagFragment)
          let info := { info with
            flags := if rawFragment &&& 1 ≠ 0 then flags ||| flagMoreFragments else flags
            extensionCount := info.extensionCount + 1
            transportProtocol := protocol
            fragmentOffsetBytes := rawFragment &&& 0xfff8 }
          stop (if info.fragmentOffsetBytes ≠ 0 then .nonInitialFragment else .firstFragment) info
    else if isIpv6OptionHeader nextHeader then
      if depth = maxExtensionHeaders then stop .extensionTooDeep info
      else if nextHeader = nexthdrHop ∧ depth ≠ 0 then stop .malformed info
      else if headerOff > limit ∨ 2 > sub32 limit headerOff then stop .malformed info
      else if headerOff + 2 > data.length then stop .truncated info
      else (data.read8 (headerOff + 1)).bind fun headerLength =>
        let extensionLen := (headerLength.toNat + 1) * 8
        if extensionLen < 8 ∨ extensionLen > sub32 limit headerOff then stop .malformed info
        else if headerOff + extensionLen > data.length then stop .truncated info
        else if u32 (extensionBytes + extensionLen) > maxExtensionBytes then stop .extensionTooDeep info
        else (data.read8 headerOff).bind fun following =>
          walkIpv6 data frameLen l3Off totalLen fuel (depth + 1) following (u32 (headerOff + extensionLen))
            (u32 (extensionBytes + extensionLen)) { info with
              flags := info.flags ||| flagIpv6Extensions, extensionCount := info.extensionCount + 1 }
    else if nextHeader = nexthdrAuth then
      if depth = maxExtensionHeaders then stop .extensionTooDeep info
      else if headerOff > limit ∨ 2 > sub32 limit headerOff then stop .malformed info
      else if headerOff + 2 > data.length then stop .truncated info
      else (data.read8 (headerOff + 1)).bind fun headerLength =>
        let authLen := (headerLength.toNat + 2) * 4
        if authLen < 12 ∨ authLen > sub32 limit headerOff then stop .malformed info
        else stop .unsupported { info with
          flags := info.flags ||| flagIpv6Extensions
          extensionCount := info.extensionCount + 1
          transportProtocol := nextHeader }
    else stop .unsupported { info with transportProtocol := nextHeader }

def parseIpv6 (data : Bytes) (frameLen l3Off : Nat) (info : L3Info) : Option ((L3Status × L3Info) × Nat) :=
  let info := { info with family := .ipv6 }
  if l3Off > frameLen then some ((.truncated, info), 0)
  else if l3Off + ipv6hdrSize > data.length then some ((.truncated, info), 0)
  else (data.read8 l3Off).bind fun first =>
    if first.toNat / 16 ≠ 6 then some ((.malformed, info), 0)
    else (data.read16 (l3Off + 4)).bind fun payloadLen =>
      let totalLen := ipv6hdrSize + payloadLen
      if totalLen > frameLen - l3Off then some ((.truncated, info), 0)
      else (data.read8 (l3Off + 6)).bind fun nextHeader =>
        let info := { info with l3Len := totalLen, l3HeaderLen := ipv6hdrSize }
        if payloadLen = 0 then
          some ((if nextHeader = nexthdrNone then .safeBypass else .unsupported,
            { info with transportProtocol := nextHeader }), 1)
        else walkIpv6 data frameLen l3Off totalLen (maxExtensionHeaders + 1) 0 nextHeader
          (u32 (l3Off + ipv6hdrSize)) 0 info

/-- `faketcp_parse_l3`. -/
def parseL3 (data : Bytes) (frameLen l3Off : Nat) (family : Family) : Option ((L3Status × L3Info) × Nat) :=
  let info : L3Info := { l3Off }
  match family with
  | .ipv4 => (parseIpv4 data frameLen l3Off info).map (·, 0)
  | .ipv6 => parseIpv6 data frameLen l3Off info
  | .unset => some ((.malformed, info), 0)

/-- A machine result with at most so many headers looked at. -/
def Counted (limit : Nat) (machine : (L3Status × L3Info) × Nat) (plain : L3Status × L3Info) : Prop :=
  machine.1 = plain ∧ machine.2 ≤ limit

theorem validateTransport_faultless (data : Bytes) (frameLen : Nat) (info : L3Info) :
    Yields Eq (validateTransport data frameLen info) (L3.validateTransport data frameLen info) := by
  refine .ite .rfl (fun _ => .done rfl) fun _ => .ite .rfl (fun _ => ?_) fun _ => .ite .rfl (fun _ => ?_)
    fun _ => .done rfl
  · refine .ite .rfl (fun _ => .done rfl) fun _ => .ite .rfl (fun _ => .done rfl) fun within => ?_
    simp only [udphdrSize, Nat.not_lt] at within
    rw [Bytes.read16_bind (by omega)]
    exact .ite .rfl (fun _ => .done rfl) fun _ => .done rfl
  · refine .ite .rfl (fun _ => .done rfl) fun _ => .ite .rfl (fun _ => .done rfl) fun within => ?_
    simp only [tcphdrSize, Nat.not_lt] at within
    rw [Bytes.read8_bind (by omega)]
    exact .ite .rfl (fun _ => .done rfl) fun _ => .ite .rfl (fun _ => .done rfl) fun _ => .done rfl

theorem parseIpv4Fragment_faultless (frameLen : Nat) (info : L3Info) (within : l3Off + 8 ≤ data.length) :
    Yields Eq (parseIpv4Fragment data frameLen l3Off info) (L3.parseIpv4Fragment data frameLen l3Off info) := by
  rw [parseIpv4Fragment, Bytes.read16_bind (by omega)]
  refine .ite .rfl (fun _ => .done rfl) fun _ => .ite .rfl (fun _ => .done rfl) fun _ => ?_
  refine .ite .rfl (fun _ => .done rfl) fun _ => .ite .rfl (fun _ => .done rfl) fun _ => ?_
  refine .ite .rfl (fun _ => .done rfl) fun _ => .ite .rfl (fun _ => .done rfl) fun _ => ?_
  exact validateTransport_faultless ..

theorem parseIpv4_faultless (info : L3Info) (fits : frameLen < 2 ^ 32) :
    Yields Eq (parseIpv4 data frameLen l3Off info) (L3.parseIpv4 data frameLen l3Off info) := by
  refine .ite .rfl (fun _ => .done rfl) fun _ => .ite .rfl (fun _ => .done rfl) fun within => ?_
  simp only [iphdrSize, Nat.not_lt] at within
  rw [Bytes.read8_bind (by omega)]
  refine .ite .rfl (fun _ => .done rfl) fun _ => .ite .rfl (fun _ => .done rfl) fun _ => ?_
  refine .ite .rfl (fun _ => .done rfl) fun header => ?_
  rw [Bytes.read16_bind (by omega)]
  refine .ite .rfl (fun _ => .done rfl) fun _ => .ite .rfl (fun _ => .done rfl) fun _ => ?_
  have exact32 : u32 (l3Off + (data.byteAt l3Off).toNat % 16 * 4) = l3Off + (data.byteAt l3Off).toNat % 16 * 4 :=
    Nat.mod_eq_of_lt (by omega)
  rw [Bytes.read8_bind (by omega), exact32]
  exact parseIpv4Fragment_faultless _ _ (by omega)

theorem sub32_eq (small : left < 2 ^ 32) (below : right ≤ left) : sub32 left right = left - right := by
  rw [sub32, u32]
  omega

/-- The walk stays in front of the declared end, so no offset wraps and each header costs
one of the loop's turns. -/
theorem walkIpv6_faultless (data : Bytes) (frameLen fuel depth : Nat) (nextHeader : UInt8) (info : L3Info)
    (fits : l3Off + totalLen < 2 ^ 32) (inside : headerOff ≤ l3Off + totalLen)
    (counted : extensionBytes ≤ maxExtensionBytes) :
    Yields (Counted (depth + fuel))
      (walkIpv6 data frameLen l3Off totalLen fuel depth nextHeader headerOff extensionBytes info)
      (L3.walkIpv6 data frameLen l3Off totalLen fuel depth nextHeader headerOff extensionBytes info) := by
  induction fuel generalizing depth nextHeader headerOff extensionBytes info with
  | zero => exact .done ⟨rfl, Nat.le_refl depth⟩
  | succ fuel ih =>
    have limit32 : u32 (l3Off + totalLen) = l3Off + totalLen := Nat.mod_eq_of_lt fits
    have left32 : sub32 (l3Off + totalLen) headerOff = l3Off + totalLen - headerOff := sub32_eq fits inside
    have stop (result : L3Status × L3Info) :
        Yields (Counted (depth + (fuel + 1))) (some (result, depth + 1)) result := .done ⟨rfl, by omega⟩
    rw [walkIpv6, limit32, left32]
    refine .ite .rfl (fun _ => ?_) fun _ => .ite .rfl (fun _ => stop _) fun _ => .ite .rfl (fun _ => ?_) fun _ =>
      .ite .rfl (fun _ => ?_) fun _ => .ite .rfl (fun _ => ?_) fun _ => stop _
    · exact (validateTransport_faultless ..).map _ fun _ same => ⟨same, by omega⟩
    · refine .ite .rfl (fun _ => stop _) fun _ => .ite .rfl (fun _ => stop _) fun _ => ?_
      refine .ite .rfl (fun _ => stop _) fun _ => ?_
      rw [Bytes.read16_bind (by omega), Bytes.read8_bind (by omega)]
      refine .ite .rfl (fun _ => stop _) fun _ => ?_
      rw [Bytes.read8_bind (by omega)]
      exact stop _
    · refine .ite .rfl (fun _ => stop _) fun _ => .ite .rfl (fun _ => stop _) fun _ => ?_
      refine .ite .rfl (fun _ => stop _) fun _ => .ite .rfl (fun _ => stop _) fun _ => ?_
      rw [Bytes.read8_bind (by omega)]
      refine .ite .rfl (fun _ => stop _) fun _ => .ite .rfl (fun _ => stop _) fun _ => ?_
      have byte := (data.byteAt (headerOff + 1)).toNat_lt
      have bytes32 : u32 (extensionBytes + ((data.byteAt (headerOff + 1)).toNat + 1) * 8) =
          extensionBytes + ((data.byteAt (headerOff + 1)).toNat + 1) * 8 := by
        simp only [maxExtensionBytes] at counted
        exact Nat.mod_eq_of_lt (by omega)
      have next32 : u32 (headerOff + ((data.byteAt (headerOff + 1)).toNat + 1) * 8) =
          headerOff + ((data.byteAt (headerOff + 1)).toNat + 1) * 8 := Nat.mod_eq_of_lt (by omega)
      have ends : headerOff + ((data.byteAt (headerOff + 1)).toNat + 1) * 8 ≤ l3Off + totalLen := by omega
      rw [bytes32]
      refine .ite .rfl (fun _ => stop _) fun bounded => ?_
      rw [Bytes.read8_bind (by omega), next32, show depth + (fuel + 1) = depth + 1 + fuel by omega]
      exact ih (depth + 1) _ _ ends (Nat.le_of_not_lt bounded)
    · refine .ite .rfl (fun _ => stop _) fun _ => .ite .rfl (fun _ => stop _) fun _ => ?_
      refine .ite .rfl (fun _ => stop _) fun _ => ?_
      rw [Bytes.read8_bind (by omega)]
      exact .ite .rfl (fun _ => stop _) fun _ => stop _

/-- On a frame that a 32-bit length describes, the machine reads inside of it and computes
what the parser without a word size computes. -/
theorem parseL3_faultless (family : Family) (fits : frameLen < 2 ^ 32) :
    Yields (Counted (maxExtensionHeaders + 1)) (parseL3 data frameLen l3Off family)
      (L3.parseL3 data frameLen l3Off family) := by
  cases family with
  | unset => exact .done ⟨rfl, Nat.zero_le _⟩
  | ipv4 => exact (parseIpv4_faultless _ fits).map _ fun _ same => ⟨same, Nat.zero_le _⟩
  | ipv6 =>
    have stop (result : L3Status × L3Info) :
        Yields (Counted (maxExtensionHeaders + 1)) (some (result, 0)) result := .done ⟨rfl, Nat.zero_le _⟩
    refine .ite .rfl (fun _ => stop _) fun _ => .ite .rfl (fun _ => stop _) fun within => ?_
    simp only [ipv6hdrSize, Nat.not_lt] at within
    rw [Bytes.read8_bind (by omega)]
    refine .ite .rfl (fun _ => stop _) fun _ => ?_
    rw [Bytes.read16_bind (by omega)]
    refine .ite .rfl (fun _ => stop _) fun declared => ?_
    rw [Bytes.read8_bind (by omega)]
    refine .ite .rfl (fun _ => .done ⟨rfl, Nat.le_add_left 1 _⟩) fun _ => ?_
    have start32 : u32 (l3Off + ipv6hdrSize) = l3Off + ipv6hdrSize := by
      simp only [ipv6hdrSize] at declared ⊢
      exact Nat.mod_eq_of_lt (by omega)
    rw [start32]
    have walked := walkIpv6_faultless data frameLen (maxExtensionHeaders + 1) 0 (data.byteAt (l3Off + 6))
      { l3Off, family := .ipv6, l3Len := ipv6hdrSize + data.be16 (l3Off + 4), l3HeaderLen := ipv6hdrSize }
      (by omega : l3Off + (ipv6hdrSize + data.be16 (l3Off + 4)) < 2 ^ 32)
      (by omega : l3Off + ipv6hdrSize ≤ _) (Nat.zero_le _)
    rwa [Nat.zero_add] at walked

end WgMix.Bpf.L3Machine
