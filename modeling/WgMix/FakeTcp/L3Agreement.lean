import WgMix.Bpf.L3Machine
import WgMix.FakeTcp.L3Parser

/-! The two L3 parsers agree: on a frame that ends with the packet, the datapath's parser
gives the status of the userspace parser, and its descriptor is the other one moved by the
length of what precedes the packet. -/
namespace WgMix.FakeTcp.L3Parser
open Bpf (L3Status Family)

def statusOf : L3ParseStatus → L3Status
  | .ok => .ok
  | .safeBypass => .safeBypass
  | .truncated => .truncated
  | .malformed => .malformed
  | .unsupported => .unsupported
  | .firstFragment => .firstFragment
  | .nonInitialFragment => .nonInitialFragment
  | .extensionTooDeep => .extensionTooDeep

def familyOf (version : Nat) : Family :=
  if version = l3FamilyIpv4 then .ipv4 else if version = l3FamilyIpv6 then .ipv6 else .unset

/-- The datapath's descriptor of the packet behind `shift` bytes. -/
def shifted (shift : Nat) (info : L3Info) : Bpf.L3Info where
  l3Off := shift + info.l3Offset
  l3Len := info.l3Length
  l4Off := shift + info.l4Offset
  l4Len := info.l4Length
  l3HeaderLen := info.l3HeaderLength
  l4HeaderLen := info.l4HeaderLength
  fragmentOffsetBytes := info.fragmentOffsetBytes
  family := familyOf info.family
  transportProtocol := info.transportProtocol
  extensionCount := info.extensionCount
  flags := info.flags

/-- The same before a transport offset is known, which the datapath leaves at zero. -/
def unplaced (shift : Nat) (info : L3Info) : Bpf.L3Info := { shifted shift info with l4Off := 0 }

structure Within (packet : Bytes) (info : L3Info) : Prop where
  l3 : info.l3Offset + info.l3Length ≤ packet.length
  l4 : info.l4Offset + info.l4Length ≤ packet.length
  header : 8 ≤ info.l4HeaderLength ∧ info.l4HeaderLength ≤ info.l4Length

/-- One result of each parser. -/
def Agree (packet : Bytes) (shift : Nat) (ours : L3Info × L3ParseStatus) (theirs : L3Status × Bpf.L3Info) : Prop :=
  statusOf ours.2 = theirs.1 ∧ (ours.2 = .ok → theirs.2 = shifted shift ours.1 ∧ Within packet ours.1)

/-- The same when the userspace parser has looked at no more than so many headers. -/
def AgreeWithin (packet : Bytes) (shift limit : Nat) (ours : (L3Info × L3ParseStatus) × Nat)
    (theirs : L3Status × Bpf.L3Info) : Prop := Agree packet shift ours.1 theirs ∧ ours.2 ≤ limit

theorem Agree.reject (rejected : status ≠ .ok) :
    Agree packet shift (info, status) (statusOf status, descriptor) :=
  ⟨rfl, fun accepted => absurd accepted rejected⟩

section
variable {lead packet : Bytes}

theorem byteAt_lead (lead packet : Bytes) (offset : Nat) :
    (lead ++ packet).byteAt (lead.length + offset) = packet.byteAt offset := by
  rw [Bytes.byteAt_skip (Nat.le_add_right ..), Nat.add_sub_cancel_left]

theorem be16_lead (lead packet : Bytes) (offset : Nat) :
    (lead ++ packet).be16 (lead.length + offset) = packet.be16 offset := by
  rw [Bytes.be16_skip (Nat.le_add_right ..), Nat.add_sub_cancel_left]

/-- The transport check on the declared part of the packet, wherever its end lies. -/
theorem validateL4_agrees (lead : Bytes) (info : L3Info) (declared : totalLength ≤ packet.length)
    (ends : info.l4Offset + info.l4Length = totalLength) (l3 : info.l3Offset + info.l3Length ≤ packet.length) :
    Yields (Agree packet lead.length) ((sliceTo packet totalLength).bind (validateL4 · info))
      (Bpf.L3.validateTransport (lead ++ packet) (lead ++ packet).length (shifted lead.length info)) := by
  have sized : (packet.take totalLength).length = totalLength := List.length_take_of_le declared
  have whole : (lead ++ packet).length = _ := List.length_append
  rw [sliceTo, if_pos declared, Option.bind_some, validateL4, Bpf.L3.validateTransport, sized, whole]
  dsimp only [shifted]
  refine .ite (by omega) (fun _ => .done (.reject (by decide))) fun _ => ?_
  refine .ite .rfl (fun _ => ?_) fun _ => .ite .rfl (fun _ => ?_) fun _ => .done (.reject (by decide))
  · refine .ite .rfl (fun _ => .done (.reject (by decide))) fun long => ?_
    refine .skip (by simp only [Bpf.L3.udphdrSize]; omega) ?_
    rw [Bytes.read16_bind (by omega), Nat.add_assoc, be16_lead, Bytes.be16_take (by omega)]
    refine .ite .rfl (fun _ => .done (.reject (by decide))) fun _ => .done ⟨rfl, fun _ => ⟨rfl, l3, ?_, ?_⟩⟩
    all_goals
      dsimp only
      omega
  · refine .ite .rfl (fun _ => .done (.reject (by decide))) fun long => ?_
    refine .skip (by simp only [Bpf.L3.tcphdrSize]; omega) ?_
    rw [Bytes.read8_bind (by omega), Nat.add_assoc, byteAt_lead, Bytes.byteAt_take (by omega)]
    refine .ite .rfl (fun _ => .done (.reject (by decide))) fun _ => .skip (by omega) ?_
    refine .done ⟨rfl, fun _ => ⟨rfl, l3, ?_, ?_⟩⟩
    all_goals
      dsimp only
      omega

theorem parseIpv4Fragment_agrees (lead : Bytes) (info : L3Info) (long : 8 ≤ packet.length)
    (declared : totalLength ≤ packet.length) (ends : info.l4Offset + info.l4Length = totalLength)
    (l3 : info.l3Offset + info.l3Length ≤ packet.length) :
    Yields (Agree packet lead.length) (parseIpv4Fragment packet totalLength info)
      (Bpf.L3.parseIpv4Fragment (lead ++ packet) (lead ++ packet).length lead.length (shifted lead.length info)) := by
  rw [parseIpv4Fragment, Bytes.read16_bind (by omega), Bpf.L3.parseIpv4Fragment, be16_lead]
  generalize packet.be16 6 = fragment
  refine .ite .rfl (fun _ => .done (.reject (by decide))) fun _ => ?_
  refine .ite .rfl (fun _ => .done (.reject (by decide))) fun _ => ?_
  refine .ite .rfl (fun _ => .done (.reject (by decide))) fun _ => ?_
  refine .ite .rfl (fun _ => .done (.reject (by decide))) fun _ => ?_
  dsimp only [Bpf.L3.ipDf, Bpf.L3.ipMf]
  -- the flags leave the rest of the descriptor alone
  by_cases df : fragment &&& 0x4000 = 0 <;> by_cases mf : fragment &&& 0x2000 = 0 <;>
    simp only [df, mf, ne_eq, not_true_eq_false, not_false_eq_true, if_true, if_false]
  all_goals
    refine .ite .rfl (fun _ => .done (.reject (by decide))) fun _ => ?_
    refine .ite .rfl (fun _ => .done (.reject (by decide))) fun _ => ?_
    exact validateL4_agrees lead _ declared ends l3

/-- The offset's low bits are not part of it, so counting units and scaling loses nothing. -/
theorem fragmentOffset_bytes (fragment : Nat) : (fragment &&& 0xfff8) >>> 3 * 8 = fragment &&& 0xfff8 := by
  have low : (fragment &&& 0xfff8) % 2 ^ 3 = 0 := by
    rw [Nat.and_mod_two_pow, show 0xfff8 % 2 ^ 3 = 0 from rfl, Nat.and_zero]
  rw [Nat.shiftRight_eq_div_pow]
  omega

/-- The walk of the two parsers, from the same header on. -/
theorem walkIpv6_agrees (lead : Bytes) (remaining depth : Nat) (nextHeader : UInt8) (extensionBytes : Nat)
    (info : L3Info)
    (declared : totalLength ≤ packet.length) (inside : offset ≤ totalLength)
    (l3 : info.l3Offset + info.l3Length ≤ packet.length) :
    Yields (AgreeWithin packet lead.length (depth + remaining))
      (walkIpv6 packet totalLength remaining depth nextHeader offset extensionBytes info)
      (Bpf.L3.walkIpv6 (lead ++ packet) (lead ++ packet).length lead.length totalLength remaining depth nextHeader
        (lead.length + offset) extensionBytes (unplaced lead.length info)) := by
  have whole : (lead ++ packet).length = _ := List.length_append
  induction remaining generalizing depth nextHeader offset extensionBytes info with
  | zero => exact .done ⟨.reject (by decide), Nat.le_refl depth⟩
  | succ remaining ih =>
    have stop (info : L3Info) (status : L3ParseStatus) (descriptor : Bpf.L3Info) (rejected : status ≠ .ok) :
        Yields (AgreeWithin packet lead.length (depth + (remaining + 1))) (some ((info, status), depth + 1))
          (statusOf status, descriptor) :=
      .done ⟨.reject rejected, by omega⟩
    have left : lead.length + totalLength - (lead.length + offset) = totalLength - offset := by omega
    rw [walkIpv6, Bpf.L3.walkIpv6, left, byteAt_lead]
    refine .ite .rfl (fun _ => ?_) fun _ => .ite .rfl (fun _ => ?_) fun _ => .ite .rfl (fun _ => ?_) fun _ =>
      .ite ?_ (fun _ => ?_) fun _ => .ite .rfl (fun _ => ?_) fun _ => ?_
    · have checked := validateL4_agrees lead { info with
        l4Offset := offset, l4Length := totalLength - offset, transportProtocol := nextHeader }
        declared (Nat.add_sub_cancel' inside) l3
      exact checked.map _ fun _ agree => ⟨agree, by omega⟩
    · exact stop _ .safeBypass _ (by decide)
    · refine .ite .rfl (fun _ => stop _ .extensionTooDeep _ (by decide)) fun _ => ?_
      refine .ite (by omega) (fun _ => stop _ .malformed _ (by decide)) fun _ => .skip (by omega) ?_
      rw [Bytes.read16_bind (by omega), Bytes.read8_bind (by omega), Nat.add_assoc, be16_lead, Nat.add_assoc,
        byteAt_lead]
      refine .ite .rfl (fun _ => stop _ .malformed _ (by decide)) fun _ => ?_
      rw [Bytes.read8_bind (by omega), fragmentOffset_bytes]
      dsimp only
      by_cases initial : packet.be16 (offset + 2) &&& 0xfff8 ≠ 0
      · rw [if_pos initial, if_pos initial]
        exact stop _ .nonInitialFragment _ (by decide)
      · rw [if_neg initial, if_neg initial]
        exact stop _ .firstFragment _ (by decide)
    · simp only [Bpf.L3.isIpv6OptionHeader, decide_eq_true_eq]
      rfl
    · refine .ite .rfl (fun _ => stop _ .extensionTooDeep _ (by decide)) fun _ => ?_
      refine .ite .rfl (fun _ => stop _ .malformed _ (by decide)) fun _ => ?_
      refine .ite (by omega) (fun _ => stop _ .malformed _ (by decide)) fun _ => .skip (by omega) ?_
      rw [Bytes.read8_bind (by omega), Nat.add_assoc, byteAt_lead]
      refine .ite .rfl (fun _ => stop _ .malformed _ (by decide)) fun _ => .skip (by omega) ?_
      refine .ite .rfl (fun _ => stop _ .extensionTooDeep _ (by decide)) fun _ => ?_
      rw [Bytes.read8_bind (by omega), Nat.add_assoc, show depth + (remaining + 1) = depth + 1 + remaining by omega]
      exact ih (depth + 1) _ _ _ (by omega) l3
    · refine .ite .rfl (fun _ => stop _ .extensionTooDeep _ (by decide)) fun _ => ?_
      refine .ite (by omega) (fun _ => stop _ .malformed _ (by decide)) fun _ => .skip (by omega) ?_
      rw [Bytes.read8_bind (by omega), Nat.add_assoc, byteAt_lead]
      refine .ite .rfl (fun _ => stop _ .malformed _ (by decide)) fun _ => ?_
      exact stop _ .unsupported _ (by decide)
    · exact stop _ .unsupported _ (by decide)

theorem parseIpv4L3_agrees (lead : Bytes) (version : (packet.byteAt 0).toNat / 16 = 4) :
    Yields (Agree packet lead.length) (parseIpv4L3 packet)
      (Bpf.L3.parseL3 (lead ++ packet) (lead ++ packet).length lead.length .ipv4) := by
  have whole : (lead ++ packet).length = _ := List.length_append
  have first := byteAt_lead lead packet 0
  rw [Nat.add_zero] at first
  rw [parseIpv4L3, Bpf.L3.parseL3, Bpf.L3.parseIpv4, first, be16_lead, byteAt_lead]
  dsimp only [Bpf.L3.iphdrSize]
  refine .skip (by omega) (.ite (by omega) (fun _ => .done (.reject (by decide))) fun _ => ?_)
  rw [Bytes.read8_bind (by omega)]
  refine .skip (not_not_intro version) (.ite .rfl (fun _ => .done (.reject (by decide))) fun _ => ?_)
  refine .ite (by omega) (fun _ => .done (.reject (by decide))) fun _ => ?_
  rw [Bytes.read16_bind (by omega)]
  refine .ite .rfl (fun _ => .done (.reject (by decide))) fun _ => ?_
  refine .ite (by omega) (fun _ => .done (.reject (by decide))) fun _ => ?_
  rw [Bytes.read8_bind (by omega)]
  refine parseIpv4Fragment_agrees lead _ (by omega) (by omega) ?_ ?_
  all_goals
    dsimp only
    omega

theorem parseIpv6L3_agrees (lead : Bytes) (version : (packet.byteAt 0).toNat / 16 = 6) :
    Yields (AgreeWithin packet lead.length (l3MaxIpv6ExtensionHeaders + 1)) (parseIpv6L3 packet)
      (Bpf.L3.parseL3 (lead ++ packet) (lead ++ packet).length lead.length .ipv6) := by
  have whole : (lead ++ packet).length = _ := List.length_append
  have first := byteAt_lead lead packet 0
  rw [Nat.add_zero] at first
  have stop {headers : Nat} (info : L3Info) (status : L3ParseStatus) (descriptor : Bpf.L3Info)
      (rejected : status ≠ .ok) (few : headers ≤ 1) :
      Yields (AgreeWithin packet lead.length (l3MaxIpv6ExtensionHeaders + 1)) (some ((info, status), headers))
        (statusOf status, descriptor) :=
    .done ⟨.reject rejected, Nat.le_add_left_of_le few⟩
  rw [parseIpv6L3, Bpf.L3.parseL3, Bpf.L3.parseIpv6, first, be16_lead, byteAt_lead]
  dsimp only [Bpf.L3.ipv6hdrSize]
  refine .skip (by omega) (.ite (by omega) (fun _ => stop _ .truncated _ (by decide) (by decide)) fun _ => ?_)
  rw [Bytes.read16_bind (by omega)]
  refine .skip (not_not_intro version) ?_
  refine .ite (by omega) (fun _ => stop _ .truncated _ (by decide) (by decide)) fun _ => ?_
  rw [Bytes.read8_bind (by omega)]
  refine .ite .rfl (fun _ => ?_) fun _ => ?_
  · by_cases bare : packet.byteAt 6 = l3ProtocolNone
    · rw [if_pos bare, if_pos (show packet.byteAt 6 = Bpf.L3.nexthdrNone from bare)]
      exact stop _ .safeBypass _ (by decide) (by decide)
    · rw [if_neg bare, if_neg (show ¬packet.byteAt 6 = Bpf.L3.nexthdrNone from bare)]
      exact stop _ .unsupported _ (by decide) (by decide)
  · have walked := walkIpv6_agrees lead (l3MaxIpv6ExtensionHeaders + 1) 0 (packet.byteAt 6) 0
      { family := l3FamilyIpv6, l3Length := 40 + packet.be16 4, l3HeaderLength := 40 }
      (by omega : 40 + packet.be16 4 ≤ packet.length) (Nat.le_add_right ..) (by dsimp only; omega)
    rwa [Nat.zero_add] at walked

/-- The family the datapath is called with for a packet of this version. -/
def packetFamily (packet : Bytes) : Family := familyOf ((packet.byteAt 0).toNat / 16)

theorem parseL3_agrees (lead : Bytes)
    (version : (packet.byteAt 0).toNat / 16 = l3FamilyIpv4 ∨ (packet.byteAt 0).toNat / 16 = l3FamilyIpv6) :
    Yields (AgreeWithin packet lead.length (l3MaxIpv6ExtensionHeaders + 1)) (parseL3 packet)
      (Bpf.L3.parseL3 (lead ++ packet) (lead ++ packet).length lead.length (packetFamily packet)) := by
  have present : 0 < packet.length := by
    cases packet with
    | nil => rcases version with v4 | v6 <;> contradiction
    | cons => exact Nat.succ_pos _
  rw [parseL3, if_neg (Nat.ne_of_gt present), Bytes.read8_bind present, packetFamily, familyOf]
  rcases version with v4 | v6
  · rw [if_pos v4, if_pos v4]
    exact (parseIpv4L3_agrees lead v4).map _ fun _ agree => ⟨agree, Nat.zero_le _⟩
  · have other : ¬(packet.byteAt 0).toNat / 16 = l3FamilyIpv4 := by
      rw [v6]
      decide
    rw [if_neg other, if_neg other, if_pos v6, if_pos v6]
    exact parseIpv6L3_agrees lead v6

/-- Behind any link prefix, in a frame the 32-bit `frame_len` describes, both parsers return
without an access outside of the frame and agree. -/
theorem l3Parsers_agree (lead packet : Bytes) (frameLen : UInt32)
    (described : frameLen.toNat = (lead ++ packet).length)
    (version : (packet.byteAt 0).toNat / 16 = l3FamilyIpv4 ∨ (packet.byteAt 0).toNat / 16 = l3FamilyIpv6) :
    ∃ info status headers descriptor inspected,
      parseL3 packet = some ((info, status), headers) ∧
      Bpf.L3Machine.parseL3 (lead ++ packet) frameLen.toNat lead.length (packetFamily packet) =
        some ((statusOf status, descriptor), inspected) ∧
      headers ≤ 9 ∧ inspected ≤ 9 ∧
      (status = .ok → descriptor = shifted lead.length info ∧
        descriptor.l3Off + descriptor.l3Len ≤ (lead ++ packet).length ∧
        descriptor.l4Off + descriptor.l4Len ≤ (lead ++ packet).length) := by
  have fits : (lead ++ packet).length < 2 ^ 32 := described ▸ frameLen.toNat_lt
  obtain ⟨⟨⟨info, status⟩, headers⟩, ours, ⟨same, agreed⟩, few⟩ := parseL3_agrees lead version
  obtain ⟨⟨⟨result, descriptor⟩, inspected⟩, theirs, plain, bounded⟩ :=
    Bpf.L3Machine.parseL3_faultless (packetFamily packet) fits
  dsimp only at same agreed plain
  rw [← plain] at same agreed
  dsimp only at same agreed
  refine ⟨info, status, headers, descriptor, inspected, ours, ?_, few, bounded, ?_⟩
  · rw [described, theirs, same]
  · intro accepted
    obtain ⟨rfl, within⟩ := agreed accepted
    have whole : (lead ++ packet).length = _ := List.length_append
    have l3 := within.l3
    have l4 := within.l4
    refine ⟨rfl, ?_, ?_⟩
    all_goals
      dsimp only [shifted]
      omega

end

/-- A UDP datagram behind one hop-by-hop header. -/
def samplePacket : Bytes :=
  [0x60, 0, 0, 0, 0, 20, 0, 64] ++ List.replicate 32 0xfe ++ [17, 0, 1, 4, 0, 0, 0, 0] ++
    [0xca, 0x6c, 0xca, 0x6c, 0, 12, 0, 0, 1, 2, 3, 4]

theorem l3Parsers_agree_sample :
    (parseL3 samplePacket).map (·.1.2) = some .ok ∧
    ∃ info status headers descriptor inspected,
      parseL3 samplePacket = some ((info, status), headers) ∧
      Bpf.L3Machine.parseL3 (List.replicate 14 0 ++ samplePacket) (74 : UInt32).toNat 14 .ipv6 =
        some ((statusOf status, descriptor), inspected) ∧
      headers ≤ 9 ∧ inspected ≤ 9 ∧
      (status = .ok → descriptor = shifted 14 info ∧
        descriptor.l3Off + descriptor.l3Len ≤ (List.replicate 14 0 ++ samplePacket).length ∧
        descriptor.l4Off + descriptor.l4Len ≤ (List.replicate 14 0 ++ samplePacket).length) :=
  ⟨by decide, l3Parsers_agree (List.replicate 14 0) samplePacket 74 (by decide) (by decide)⟩

end WgMix.FakeTcp.L3Parser
