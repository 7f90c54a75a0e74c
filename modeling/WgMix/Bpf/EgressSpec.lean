import WgMix.Bpf.Egress
import WgMix.Bpf.RewriteSpec

/-! What an egress run that lets a packet pass has done: the exits of the program,
one after the other, and the payload that leaves. -/
namespace WgMix.Bpf.Tc
open L3
variable {helpers : Helpers} {maps : PolicyMaps} {tc after : Tc} {info : PacketInfo} {segment : Nat}

@[simp] theorem incStat_skb (tc : Tc) (stat : TcStat) : (tc.incStat stat).skb = tc.skb := rfl

@[simp] theorem incStatIf_skb (tc : Tc) (condition : Bool) (stat : TcStat) :
    (tc.incStatIf condition stat).skb = tc.skb := by
  cases condition <;> rfl

/-- One XOR program that does not drop: it was the last one, or the next one runs. -/
theorem runXorEgressSegment_cases
    (done : runXorEgressSegment helpers maps tailCalls segment tc = (after, .ok)) :
    ∃ context cipher skb more, loadXorContext tc.skb = some context ∧
      maps.lookupCipher context.cipherId context.generation = some cipher ∧
      xorSegmentFor helpers context.checksumMode tc.skb cipher context.payloadOff context.target segment 0 =
        .ok (skb, more) ∧
      ((more = false ∧ after.skb = clearXorContext skb) ∨
        (more = true ∧ ∃ calls < tailCalls, runXorEgressSegment helpers maps calls
          (xorProgramIndex context.generation (segment + 1) % xorSegmentCount) { tc with skb } =
            (after, .ok))) := by
  unfold runXorEgressSegment at done
  split at done
  · cases done
  · rename_i context loaded
    split at done
    · cases done
    · rename_i cipher found
      split at done
      · cases done
      · rename_i skb masked
        refine ⟨context, cipher, skb, true, loaded, found, masked, .inr ⟨rfl, ?_⟩⟩
        dsimp only at done
        split at done
        · cases done
        · rename_i calls
          split at done
          · exact ⟨calls, Nat.lt_succ_self calls, done⟩
          · cases done
      · rename_i skb masked
        cases done
        exact ⟨context, cipher, skb, false, loaded, found, masked, .inl ⟨rfl, by simp⟩⟩

/-- A packet that parsed came past a check that answers otherwise. -/
theorem guard_parse {failing : Prop} [Decidable failing] {rest : ParseStatus × PacketInfo}
    {cut : PacketInfo} (parsed : (if failing then (status, cut) else rest) = (.ok, info))
    (other : status ≠ .ok) : ¬failing ∧ rest = (.ok, info) := by
  split at parsed
  · exact absurd (Prod.ext_iff.mp parsed).1 other
  · exact ⟨‹_›, parsed⟩

theorem parseUdpAt_ok (parsed : parseUdpAt data family ipOff udpOff word = (.ok, info)) :
    info.payloadOff = info.udpOff + udphdrSize ∧ (word = true → 4 ≤ info.payloadLen) ∧ info.family = family ∧
      info.ipOff = ipOff ∧ info.udpOff = udpOff ∧ udpOff + udphdrSize ≤ data.length := by
  obtain ⟨fits, parsed⟩ := guard_parse parsed (by decide)
  obtain ⟨_, parsed⟩ := guard_parse parsed (by decide)
  obtain ⟨_, parsed⟩ := guard_parse parsed (by decide)
  obtain ⟨long, parsed⟩ := guard_parse parsed (by decide)
  cases parsed
  refine ⟨rfl, fun required => ?_, rfl, rfl, rfl, Nat.not_lt.mp fits⟩
  simp only [required, true_and, Nat.not_lt] at long
  exact long

/-- A datagram parsed from so many bytes has its payload behind the UDP header and a whole type word. In IPv4
the UDP header is behind a whole IPv4 one. -/
structure Whole (length : Nat) (info : PacketInfo) : Prop where
  placed : info.payloadOff = info.udpOff + udphdrSize
  word : 4 ≤ info.payloadLen
  behind : info.family = .ipv4 → info.ipOff + iphdrSize ≤ info.udpOff ∧ info.udpOff + udphdrSize ≤ length

theorem parseIpv4_ok (parsed : parseIpv4 data off = (.ok, info)) : Whole data.length info := by
  obtain ⟨_, parsed⟩ := guard_parse parsed (by decide)
  obtain ⟨headers, parsed⟩ := guard_parse parsed (by decide)
  obtain ⟨_, parsed⟩ := guard_parse parsed (by decide)
  obtain ⟨_, parsed⟩ := guard_parse parsed (by decide)
  dsimp only at parsed
  split at parsed
  · rename_i bad
    exact absurd (Prod.ext_iff.mp parsed).1 bad
  · obtain ⟨unfragmented, parsed⟩ := guard_parse parsed (by decide)
    obtain ⟨placed, word, _, ipPlace, udpPlace, fits⟩ := parseUdpAt_ok parsed
    refine ⟨placed, word (by simpa using unfragmented), fun _ => ?_⟩
    rw [ipPlace, udpPlace]
    exact ⟨by omega, fits⟩

theorem walkIpv6_ok (fuel : Nat)
    (parsed : walkIpv6 data off fuel nextHeader hdrOff sawExt sawFrag = (.ok, info)) : Whole data.length info := by
  induction fuel generalizing nextHeader hdrOff sawExt sawFrag with
  | zero => cases parsed
  | succ fuel ih =>
    unfold walkIpv6 at parsed
    split at parsed
    · dsimp only at parsed
      split at parsed
      · rename_i bad
        exact absurd (Prod.ext_iff.mp parsed).1 bad
      · obtain ⟨unfragmented, parsed⟩ := guard_parse parsed (by decide)
        obtain ⟨plain, parsed⟩ := guard_parse parsed (by decide)
        obtain ⟨placed, word, family, _⟩ := parseUdpAt_ok parsed
        refine ⟨placed, word (by simp [plain, unfragmented]), fun ipv4 => ?_⟩
        cases ipv4.symm.trans family
    · split at parsed
      · obtain ⟨_, parsed⟩ := guard_parse parsed (by decide)
        obtain ⟨_, parsed⟩ := guard_parse parsed (by decide)
        exact ih parsed
      · split at parsed
        · obtain ⟨_, parsed⟩ := guard_parse parsed (by decide)
          obtain ⟨_, parsed⟩ := guard_parse parsed (by decide)
          exact ih parsed
        · obtain ⟨_, parsed⟩ := guard_parse parsed (by decide)
          cases parsed

theorem parsePacket_ok {skb : Skb} (parsed : parsePacket maps skb generation = (.ok, info)) :
    Whole skb.data.length info := by
  have whole : Whole (skb.data.take skb.linear).length info := by
    unfold parsePacket at parsed
    dsimp only at parsed
    split at parsed
    · split at parsed
      · exact parseIpv4_ok parsed
      · split at parsed
        · obtain ⟨_, parsed⟩ := guard_parse parsed (by decide)
          exact walkIpv6_ok _ parsed
        · cases parsed
    · rename_i other linked
      cases parsed
      exact (other rfl).elim
  refine { whole with behind := fun ipv4 => ?_ }
  obtain ⟨behind, fits⟩ := whole.behind ipv4
  exact ⟨behind, fits.trans (List.length_take_le' _ _)⟩

/-- The payload as the cipher leaves it, up to its target. -/
def applyCipher (cipher : Option CipherValue) (payloadLen : Nat) (payload : Bytes) : Bytes :=
  match cipher with
  | none => payload
  | some cipher => payload.mask cipher.keyByte 0 ((cipher.payloadTarget payloadLen).getD 0)

/-- A UDP packet that left with its first type word replaced and ciphered. -/
structure Rewritten (maps : PolicyMaps) (generation : UInt64) (info : PacketInfo) (rule : EgressRuleValue)
    (newWire : UInt32) (before after : Skb) : Prop where
  present : info.payloadOff + 4 ≤ before.data.length
  gsoSize : after.gsoSize = before.gsoSize
  keyed : rule.cipherId ≠ 0 → (maps.lookupCipher rule.cipherId generation).isSome
  covers : ∀ cipher, maps.lookupCipher rule.cipherId generation = some cipher →
    4 ≤ (cipher.payloadTarget info.payloadLen).getD 0
  payload : after.behind info.payloadOff = applyCipher (maps.lookupCipher rule.cipherId generation)
    info.payloadLen ((before.behind info.payloadOff).store 0 (typeWordBytes newWire))

/-- The wire form of a standard type word. -/
def standardWord (kind : Fin 4) : Bytes := typeWordBytes (UInt32.ofNat (kind.val + 1))

end WgMix.Bpf.Tc
