import WgMix.Bpf.L3

/-! What an accepted IPv4 packet has in common with its descriptor. -/
namespace WgMix.Bpf.L3

/-- The facts behind `ok` for an IPv4 packet. -/
structure Ipv4Parsed (data : Bytes) (frameLen l3Off : Nat) (info : L3Info) : Prop where
  start : info.l3Off = l3Off
  version : (data.byteAt l3Off).toNat / 16 = 4
  headerLen : info.l3HeaderLen = (data.byteAt l3Off).toNat % 16 * 4
  totalLen : info.l3Len = data.be16 (l3Off + 2)
  within : l3Off + info.l3Len ≤ frameLen
  transport : info.l4Off = l3Off + info.l3HeaderLen
  protocol : info.transportProtocol = data.byteAt (l3Off + 9)

/-- The transport check fills in a header length and nothing else, and it knows
two protocols. -/
theorem validateTransport_ok (checked : validateTransport data frameLen info = (.ok, after)) :
    (∃ headerLen, after = { info with l4HeaderLen := headerLen }) ∧
      (info.transportProtocol = ipprotoTcp ∨ info.transportProtocol = ipprotoUdp) := by
  unfold validateTransport at checked
  split at checked
  · cases checked
  split at checked
  · rename_i udp
    split at checked
    · cases checked
    split at checked
    · cases checked
    dsimp only at checked
    split at checked
    · cases checked
    · exact ⟨⟨_, (congrArg Prod.snd checked).symm⟩, .inr udp⟩
  split at checked
  · rename_i tcp
    split at checked
    · cases checked
    split at checked
    · cases checked
    dsimp only at checked
    split at checked
    · cases checked
    split at checked
    · cases checked
    · exact ⟨⟨_, (congrArg Prod.snd checked).symm⟩, .inl tcp⟩
  · cases checked

/-- Only flags, the fragment offset and the header length are still open, and the
packet is no fragment. -/
theorem parseIpv4Fragment_ok (parsed : parseIpv4Fragment data frameLen l3Off info = (.ok, after)) :
    (after.l3Off = info.l3Off ∧ after.l3HeaderLen = info.l3HeaderLen ∧ after.l3Len = info.l3Len ∧
      after.l4Off = info.l4Off ∧ after.transportProtocol = info.transportProtocol) ∧
    data.be16 (l3Off + 6) &&& ipMf = 0 ∧ data.be16 (l3Off + 6) &&& ipOffset = 0 ∧
    (after.transportProtocol = ipprotoTcp ∨ after.transportProtocol = ipprotoUdp) := by
  unfold parseIpv4Fragment at parsed
  dsimp only at parsed
  by_cases df : data.be16 (l3Off + 6) &&& ipDf ≠ 0 <;> by_cases mf : data.be16 (l3Off + 6) &&& ipMf ≠ 0
  all_goals
    simp only [df, mf, if_true, if_false, true_and, false_and, ne_eq, not_false_eq_true] at parsed
    repeat' split at parsed
  -- every early exit has another status
  all_goals first
    | cases parsed
    | rename_i unfragmented _ _
      obtain ⟨⟨headerLen, rfl⟩, known⟩ := validateTransport_ok parsed
      exact ⟨⟨rfl, rfl, rfl, rfl, rfl⟩, Decidable.not_not.mp mf, Decidable.not_not.mp unfragmented, known⟩

theorem parseIpv4_ok {info : L3Info} (parsed : parseIpv4 data frameLen l3Off info = (.ok, after))
    (begins : info.l3Off = l3Off) : Ipv4Parsed data frameLen l3Off after := by
  unfold parseIpv4 at parsed
  dsimp only at parsed
  split at parsed
  · cases parsed
  rename_i reached
  split at parsed
  · cases parsed
  split at parsed
  · cases parsed
  rename_i version
  split at parsed
  · cases parsed
  split at parsed
  · cases parsed
  split at parsed
  · cases parsed
  split at parsed
  · cases parsed
  rename_i whole
  obtain ⟨⟨start, headerLen, totalLen, transport, protocol⟩, more, offset, _⟩ := parseIpv4Fragment_ok parsed
  refine ⟨start.trans begins, Decidable.not_not.mp version, headerLen, totalLen, ?_, ?_, protocol⟩
  · rw [totalLen]
    dsimp only
    omega
  · rw [transport, headerLen]

/-- Nothing but the transport check accepts, on a descriptor of this family. -/
def TransportDecides (data : Bytes) (frameLen : Nat) (family : Family) (result : L3Status × L3Info) : Prop :=
  result.1 = .ok → ∃ info : L3Info, info.family = family ∧ validateTransport data frameLen info = result

namespace TransportDecides

theorem ite [Decidable condition] (pos : condition → TransportDecides data frameLen family first)
    (neg : ¬condition → TransportDecides data frameLen family second) :
    TransportDecides data frameLen family (if condition then first else second) := by
  split
  · exact pos ‹_›
  · exact neg ‹_›

theorem stop (other : status ≠ .ok) : TransportDecides data frameLen family (status, info) :=
  fun accepted => absurd accepted other

theorem check (kept : info.family = family) :
    TransportDecides data frameLen family (validateTransport data frameLen info) :=
  fun _ => ⟨info, kept, rfl⟩

/-- The family and the protocol of an accepted descriptor. -/
theorem accepted (decided : TransportDecides data frameLen family result) (parsed : result = (.ok, after)) :
    after.family = family ∧ (after.transportProtocol = ipprotoTcp ∨ after.transportProtocol = ipprotoUdp) := by
  obtain ⟨info, kept, checked⟩ := decided (congrArg Prod.fst parsed)
  obtain ⟨⟨headerLen, rfl⟩, known⟩ := validateTransport_ok (checked.trans parsed)
  exact ⟨kept, known⟩

end TransportDecides

theorem walkIpv6_decides (kept : info.family = .ipv6) : TransportDecides data frameLen .ipv6
    (walkIpv6 data frameLen l3Off totalLen fuel depth nextHeader headerOff extensionBytes info) := by
  induction fuel generalizing depth nextHeader headerOff extensionBytes info with
  | zero => exact .stop (by decide)
  | succ fuel ih =>
    rw [walkIpv6]
    refine .ite (fun _ => .check kept) fun _ => ?_
    refine .ite (fun _ => .stop (by decide)) fun _ => ?_
    refine .ite (fun _ => ?_) fun _ => ?_
    · refine .ite (fun _ => .stop (by decide)) fun _ => ?_
      refine .ite (fun _ => .stop (by decide)) fun _ => ?_
      refine .ite (fun _ => .stop (by decide)) fun _ => ?_
      refine .ite (fun _ => .stop (by decide)) fun _ => .stop ?_
      repeat' split
      all_goals decide
    refine .ite (fun _ => ?_) fun _ => ?_
    · refine .ite (fun _ => .stop (by decide)) fun _ => ?_
      refine .ite (fun _ => .stop (by decide)) fun _ => ?_
      refine .ite (fun _ => .stop (by decide)) fun _ => ?_
      refine .ite (fun _ => .stop (by decide)) fun _ => ?_
      refine .ite (fun _ => .stop (by decide)) fun _ => ?_
      refine .ite (fun _ => .stop (by decide)) fun _ => ?_
      exact .ite (fun _ => .stop (by decide)) fun _ => ih kept
    · refine .ite (fun _ => ?_) fun _ => .stop (by decide)
      refine .ite (fun _ => .stop (by decide)) fun _ => ?_
      refine .ite (fun _ => .stop (by decide)) fun _ => ?_
      refine .ite (fun _ => .stop (by decide)) fun _ => ?_
      exact .ite (fun _ => .stop (by decide)) fun _ => .stop (by decide)

theorem parseIpv6_decides : TransportDecides data frameLen .ipv6 (parseIpv6 data frameLen l3Off info) := by
  rw [parseIpv6]
  refine .ite (fun _ => .stop (by decide)) fun _ => ?_
  refine .ite (fun _ => .stop (by decide)) fun _ => ?_
  refine .ite (fun _ => .stop (by decide)) fun _ => ?_
  refine .ite (fun _ => .stop (by decide)) fun _ => ?_
  refine .ite (fun _ => .stop ?_) fun _ => walkIpv6_decides rfl
  split <;> decide

/-- An accepted descriptor of the IPv4 family comes from the IPv4 parser. -/
theorem parseL3_v4 (parsed : parseL3 data frameLen l3Off family = (.ok, info)) (v4 : info.family = .ipv4) :
    parseIpv4 data frameLen l3Off { l3Off } = (.ok, info) := by
  cases family with
  | ipv4 => exact parsed
  | ipv6 =>
    have v6 := (parseIpv6_decides.accepted parsed).1
    rw [v4] at v6
    cases v6
  | unset => cases parsed

theorem parseL3_ipv4 (parsed : parseL3 data frameLen l3Off family = (.ok, info)) (v4 : info.family = .ipv4) :
    Ipv4Parsed data frameLen l3Off info :=
  parseIpv4_ok (parseL3_v4 parsed v4) rfl

/-- The IPv4 parser reads the ports of unfragmented TCP and UDP packets only. -/
theorem parseIpv4_whole (parsed : parseIpv4 data frameLen l3Off info = (.ok, after)) :
    data.be16 (l3Off + 6) &&& ipMf = 0 ∧ data.be16 (l3Off + 6) &&& ipOffset = 0 ∧
      (after.transportProtocol = ipprotoTcp ∨ after.transportProtocol = ipprotoUdp) := by
  simp only [parseIpv4] at parsed
  repeat' split at parsed
  all_goals first
    | cases parsed
    | exact (parseIpv4Fragment_ok parsed).2

/-- Only the don't-fragment bit may stand in the fragment field of an accepted packet. -/
theorem parseIpv4_fragment (parsed : parseIpv4 data frameLen l3Off info = (.ok, after)) :
    data.be16 (l3Off + 6) &&& 0xbfff = 0 := by
  have reserved : data.be16 (l3Off + 6) &&& ipReserved = 0 := by
    by_contra set
    simp only [parseIpv4, parseIpv4Fragment, ne_eq, set, not_false_eq_true, if_true] at parsed
    repeat' split at parsed
    all_goals cases parsed
  obtain ⟨more, offset, _⟩ := parseIpv4_whole parsed
  have bits : 0xbfff = ipReserved ||| ipMf ||| ipOffset := rfl
  rw [bits, Nat.and_or_distrib_left, Nat.and_or_distrib_left, reserved, more, offset]
  rfl

theorem parseL3_transport (parsed : parseL3 data frameLen l3Off family = (.ok, info)) :
    info.transportProtocol = ipprotoTcp ∨ info.transportProtocol = ipprotoUdp := by
  cases family with
  | ipv4 => exact (parseIpv4_whole parsed).2.2
  | ipv6 => exact (parseIpv6_decides.accepted parsed).2
  | unset => cases parsed

end WgMix.Bpf.L3
