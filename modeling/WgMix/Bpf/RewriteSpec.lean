import Mathlib.Data.Nat.Bitwise
import WgMix.Bpf.Rewrite
import WgMix.Foundation.Guard
import WgMix.Foundation.Keystream

/-! What the payload rewrites do to the bytes from the payload offset on, which is
all that a receiver of the datagram sees of them. -/
namespace WgMix.Bpf
open L3

/-- No helper fails beyond the bounds that it checks. -/
structure Helpers.Reliable (helpers : Helpers) : Prop where
  loads : ∀ data offset width, helpers.loadFails data offset width = false
  stores : ∀ data offset source, helpers.storeFails data offset source = false
  sums : ∀ data offset, helpers.csumFails data offset = false

namespace Skb
variable {helpers : Helpers} {skb : Skb}

def behind (skb : Skb) (offset : Nat) : Bytes := skb.data.drop offset

/-- Everything but the packet bytes is unchanged, and their number is too. -/
structure Keeps (before after : Skb) : Prop where
  length : after.data.length = before.data.length
  cb : after.cb = before.cb
  gsoSize : after.gsoSize = before.gsoSize

theorem Keeps.refl : Keeps skb skb := ⟨rfl, rfl, rfl⟩

theorem Keeps.trans (first : Keeps skb middle) (second : Keeps middle after) : Keeps skb after :=
  ⟨second.length.trans first.length, second.cb.trans first.cb, second.gsoSize.trans first.gsoSize⟩

theorem loadBytes_some (done : skb.loadBytes helpers offset width = some bytes) :
    offset + width ≤ skb.data.length ∧ bytes = skb.data.slice offset width := by
  obtain ⟨within, done⟩ := guard_some done
  cases done
  exact ⟨by omega, rfl⟩

theorem storeBytes_some (offset : Nat) (done : skb.storeBytes helpers (point + offset) source = some after) :
    point + offset + source.length ≤ skb.data.length ∧
      after.behind point = (skb.behind point).store offset source ∧ skb.Keeps after := by
  obtain ⟨within, done⟩ := guard_some done
  cases done
  have fits : point + offset + source.length ≤ skb.data.length := by omega
  exact ⟨fits, Bytes.drop_store fits, Bytes.length_store fits, rfl, rfl⟩

/-- A checksum in front of the payload leaves the payload alone. -/
theorem l4CsumReplace_some (done : skb.l4CsumReplace helpers offset diff = some after)
    (before : offset + 2 ≤ point) : after.behind point = skb.behind point ∧ skb.Keeps after := by
  obtain ⟨within, done⟩ := guard_some done
  dsimp only at done
  split at done
  · cases done
    exact ⟨rfl, Keeps.refl⟩
  · cases done
    have fits (field : Nat) : offset + (Bytes.leBytes 2 field).length ≤ skb.data.length := by
      rw [Bytes.length_leBytes]
      omega
    refine ⟨Bytes.drop_store_before ?_ (fits _), Bytes.length_store (fits _), rfl, rfl⟩
    rw [Bytes.length_leBytes]
    exact before

/-- The payload bytes from `first` to `last` combined with the key. -/
def masked (skb : Skb) (cipher : CipherValue) (payloadOff first last : Nat) : Skb :=
  { skb with
    data := skb.data.mask (fun i => cipher.keyByte (i - payloadOff)) (payloadOff + first) (payloadOff + last) }

theorem behind_masked (skb : Skb) (cipher : CipherValue) (payloadOff first last : Nat) :
    (skb.masked cipher payloadOff first last).behind payloadOff =
      (skb.behind payloadOff).mask cipher.keyByte first last :=
  Bytes.drop_mask

theorem keeps_masked (skb : Skb) (cipher : CipherValue) (payloadOff first last : Nat) :
    skb.Keeps (skb.masked cipher payloadOff first last) :=
  ⟨Bytes.length_mask, rfl, rfl⟩

theorem masked_empty (skb : Skb) (cipher : CipherValue) (payloadOff first : Nat) :
    skb.masked cipher payloadOff first first = skb := by
  rw [masked, Bytes.mask_empty]

theorem masked_masked (forward : first ≤ middle) (onward : middle ≤ last) :
    (skb.masked cipher payloadOff first middle).masked cipher payloadOff middle last =
      skb.masked cipher payloadOff first last := by
  simp only [masked]
  rw [Bytes.mask_mask (by omega) (by omega)]

/-- The residue of a UDP datagram with `length` payload bytes, its check field included and
its pseudo header, which no rewrite touches, left out. -/
def residual (skb : Skb) (payloadOff length : Nat) : ZMod 65535 :=
  OnesComplement.residue (skb.data.slice (payloadOff - udphdrSize) (udphdrSize + length))

/-- Any write into the datagram at an even distance from its header. -/
theorem residual_store (placed : udphdrSize ≤ payloadOff) (fits : payloadOff + length ≤ skb.data.length)
    (even : offset % 2 = 0) (inside : offset + source.length ≤ udphdrSize + length) :
    residual { skb with data := skb.data.store (payloadOff - udphdrSize + offset) source } payloadOff length =
      skb.residual payloadOff length + (OnesComplement.residue source -
        OnesComplement.residue (skb.data.slice (payloadOff - udphdrSize + offset) source.length)) := by
  have room : payloadOff - udphdrSize + (udphdrSize + length) ≤ skb.data.length := by omega
  rw [residual, Bytes.store_inside inside (by omega), OnesComplement.residue_store even, Bytes.slice_slice _ inside,
    residual]
  rw [Bytes.length_slice room]
  exact inside

theorem storeBytes_eq (stored : skb.storeBytes helpers offset source = some after) :
    offset + source.length ≤ skb.data.length ∧ after = { skb with data := skb.data.store offset source } := by
  unfold storeBytes at stored
  split at stored
  · contradiction
  · rename_i inside
    simp only [not_or, Nat.not_lt] at inside
    exact ⟨inside.1, (Option.some.inj stored).symm⟩

theorem l3CsumReplace_some (replaced : skb.l3CsumReplace helpers offset old new = some after) :
    offset + 2 ≤ skb.data.length ∧
      ∃ field, after = { skb with data := skb.data.store offset (Bytes.leBytes 2 field) } := by
  unfold l3CsumReplace at replaced
  split at replaced
  · contradiction
  · rename_i inside
    simp only [not_or, Nat.not_lt] at inside
    exact ⟨inside.1, _, (Option.some.inj replaced).symm⟩

/-- A helper that only fails out of bounds answers within them. -/
theorem loadBytes_reliable (reliable : helpers.Reliable) (fits : offset + width ≤ skb.data.length) :
    skb.loadBytes helpers offset width = some (skb.data.slice offset width) := by
  rw [loadBytes, reliable.loads, if_neg]
  simpa using fits

theorem storeBytes_reliable (reliable : helpers.Reliable) (fits : offset + source.length ≤ skb.data.length) :
    skb.storeBytes helpers offset source = some { skb with data := skb.data.store offset source } := by
  rw [storeBytes, reliable.stores, if_neg]
  simpa using fits

end Skb

namespace Tc
variable {helpers : Helpers} {skb after : Skb} {cipher : CipherValue} {info : PacketInfo} {segment : Nat}

theorem length_typeWordBytes (wire : UInt32) : (typeWordBytes wire).length = 4 :=
  Bytes.length_leBytes 4 _

/-- The rewritten word replaces the first four payload bytes. -/
theorem updateTypeWord_ok (done : updateTypeWord helpers skb info oldWire newWire recompute = .ok after)
    (placed : info.payloadOff = info.udpOff + udphdrSize) :
    info.payloadOff + 4 ≤ skb.data.length ∧
      after.behind info.payloadOff = (skb.behind info.payloadOff).store 0 (typeWordBytes newWire) ∧
      skb.Keeps after := by
  have stored (patched result : Skb) (same : patched.behind info.payloadOff = skb.behind info.payloadOff)
      (kept : skb.Keeps patched)
      (done : patched.storeBytes helpers info.payloadOff (typeWordBytes newWire) = some result) :
      info.payloadOff + 4 ≤ skb.data.length ∧
        result.behind info.payloadOff = (skb.behind info.payloadOff).store 0 (typeWordBytes newWire) ∧
        skb.Keeps result := by
    obtain ⟨fits, bytes, keeps⟩ := Skb.storeBytes_some 0 done
    rw [length_typeWordBytes, kept.length] at fits
    exact ⟨fits, same ▸ bytes, kept.trans keeps⟩
  unfold updateTypeWord at done
  dsimp only at done
  split at done
  · contradiction
  rename_i patched checksummed
  split at done
  · contradiction
  rename_i result written
  cases done
  split at checksummed
  · cases checksummed
    exact stored _ _ rfl .refl written
  · split at checksummed
    · cases checksummed
      exact stored _ _ rfl .refl written
    · split at checksummed
      · contradiction
      · obtain ⟨same, kept⟩ := Skb.l4CsumReplace_some checksummed
          (by rw [placed, udphdrSize] : info.udpOff + 6 + 2 ≤ info.payloadOff)
        exact stored _ _ same kept written

/-- Progress from one position to the next masked exactly the bytes between; a checksum kept
by hand has seen each of them, whatever follows in the datagram. -/
structure Masks (cipher : CipherValue) (payloadOff : Nat) (manual : Bool) (before after : XorProgress) : Prop where
  forward : before.processed ≤ after.processed
  buffer : after.skb = before.skb.masked cipher payloadOff before.processed after.processed
  sums : manual = true → udphdrSize ≤ payloadOff → ∀ length, after.processed ≤ length →
    payloadOff + length ≤ before.skb.data.length → before.processed % 2 = 0 →
      (after.csumDiff : ZMod 65535) = before.csumDiff +
        256 * (after.skb.residual payloadOff length - before.skb.residual payloadOff length)
  small : before.csumDiff < 2 ^ 32 → after.csumDiff < 2 ^ 32

section
variable {before middle after : XorProgress}

theorem Masks.keeps (masks : Masks cipher payloadOff manual before after) : before.skb.Keeps after.skb := by
  rw [masks.buffer]
  exact Skb.keeps_masked _ _ _ _ _

theorem Masks.refl (progress : XorProgress) : Masks cipher payloadOff manual progress progress where
  forward := Nat.le_refl _
  buffer := (Skb.masked_empty _ _ _ _).symm
  sums := by
    intros
    rw [sub_self, mul_zero, add_zero]
  small bounded := bounded

theorem Masks.trans (first : Masks cipher payloadOff manual before middle)
    (second : Masks cipher payloadOff manual middle after) (even : before.processed % 2 = middle.processed % 2) :
    Masks cipher payloadOff manual before after where
  forward := Nat.le_trans first.forward second.forward
  buffer := by rw [second.buffer, first.buffer, Skb.masked_masked first.forward second.forward]
  sums := by
    intro kept placed length covers fits aligned
    have early := first.sums kept placed length (Nat.le_trans second.forward covers) fits aligned
    have late := second.sums kept placed length covers (by rwa [first.keeps.length]) (even ▸ aligned)
    rw [late, early]
    ring
  small bounded := second.small (first.small bounded)

theorem length_padWord (bytes : Bytes) : (padWord bytes).length % 4 = 0 := by
  simp only [padWord, List.length_append, List.length_replicate]
  omega

theorem residue_padWord (bytes : Bytes) : OnesComplement.residue (padWord bytes) = OnesComplement.residue bytes :=
  OnesComplement.residue_zeros _ _

theorem xorChunk_ok (done : xorChunk helpers cipher payloadOff manual before width = .ok after) :
    Masks cipher payloadOff manual before after ∧ after.processed = before.processed + width := by
  unfold xorChunk at done
  split at done
  · contradiction
  · rename_i old loaded
    obtain ⟨fits, rfl⟩ := Skb.loadBytes_some loaded
    dsimp only at done
    split at done
    · contradiction
    · rename_i diff summed
      split at done
      · contradiction
      · rename_i result stored
        cases done
        obtain ⟨room, rfl⟩ := Skb.storeBytes_eq stored
        have shifted (i : Nat) : payloadOff + before.processed + i - payloadOff = before.processed + i := by omega
        refine ⟨⟨Nat.le_add_right _ _, ?_, ?_, ?_⟩, rfl⟩
        · simp only [Skb.masked]
          rw [← Nat.add_assoc]
          refine congrArg (fun data => { before.skb with data }) (Bytes.store_combined fits ?_)
          simp only [shifted]
        · rintro rfl placed length covers within even
          rw [csumDiff_residue summed, residue_padWord, residue_padWord]
          have sized := Bytes.length_slice fits
          have placement : payloadOff + before.processed =
              payloadOff - udphdrSize + (udphdrSize + before.processed) := by omega
          rw [placement] at sized fits ⊢
          rw [Skb.residual_store placed within (by rw [udphdrSize]; omega)
            (by rw [List.length_mapIdx, sized]; dsimp only at covers; omega), List.length_mapIdx, sized]
          ring
        · intro bounded
          cases manual with
          | true => exact csumDiff_lt summed bounded
          | false =>
            cases summed
            exact bounded

theorem xorChunks_ok (even : width % 2 = 0) (fuel : Nat)
    (done : xorChunks helpers cipher payloadOff manual segmentTarget width fuel before = .ok after) :
    Masks cipher payloadOff manual before after ∧ before.processed % 2 = after.processed % 2 := by
  induction fuel generalizing before with
  | zero =>
    cases done
    exact ⟨Masks.refl _, rfl⟩
  | succ fuel ih =>
    unfold xorChunks at done
    split at done
    · cases done
      exact ⟨Masks.refl _, rfl⟩
    · split at done
      · contradiction
      · rename_i next chunk
        obtain ⟨masks, moved⟩ := xorChunk_ok chunk
        obtain ⟨later, same⟩ := ih done
        have parity : before.processed % 2 = next.processed % 2 := by omega
        exact ⟨masks.trans later parity, parity.trans same⟩

theorem xorTail_ok (done : xorTail helpers cipher payloadOff manual segmentTarget before = .ok after) :
    Masks cipher payloadOff manual before after := by
  unfold xorTail at done
  split at done
  · obtain ⟨_, done⟩ := guard_ok done
    exact (xorChunk_ok done).1
  · cases done
    exact Masks.refl _

theorem xorBody_ok (even : chunkSize % 2 = 0)
    (done : xorBody helpers manual chunkSize cipher payloadOff segmentTarget before = .ok after) :
    Masks cipher payloadOff manual before after := by
  obtain ⟨chunks, first, done⟩ := bind_ok done
  obtain ⟨words, second, done⟩ := bind_ok done
  obtain ⟨first, reached⟩ := xorChunks_ok even _ first
  obtain ⟨second, onward⟩ := xorChunks_ok (by decide) _ second
  exact (first.trans second reached).trans (xorTail_ok done) (reached.trans onward)

end

/-- One segment's window is masked; a checksum kept by hand is patched unless the window is empty. -/
inductive SegmentRun (helpers : Helpers) (manual : Bool) (cipher : CipherValue) (payloadOff first last : Nat)
    (skb after : Skb) : Prop where
  | plain (idle : manual = false ∨ first = last) (same : after = skb.masked cipher payloadOff first last)
  | summed (kept : manual = true) (diff : Nat)
      (masks : Masks cipher payloadOff true ⟨skb, first, 0⟩ ⟨skb.masked cipher payloadOff first last, last, diff⟩)
      (patched : (skb.masked cipher payloadOff first last).l4CsumReplace helpers (payloadOff - udphdrSize + 6) diff =
        some after)

theorem SegmentRun.payload (run : SegmentRun helpers manual cipher payloadOff first last skb after)
    (placed : udphdrSize ≤ payloadOff) :
    after.behind payloadOff = (skb.behind payloadOff).mask cipher.keyByte first last ∧ skb.Keeps after := by
  have masked := Skb.behind_masked skb cipher payloadOff first last
  have kept := Skb.keeps_masked skb cipher payloadOff first last
  cases run with
  | plain _ same =>
    rw [same]
    exact ⟨masked, kept⟩
  | summed _ diff _ patched =>
    obtain ⟨same, keeps⟩ := Skb.l4CsumReplace_some patched
      (by rw [udphdrSize] at placed ⊢; omega : payloadOff - udphdrSize + 6 + 2 ≤ payloadOff)
    exact ⟨same.trans masked, kept.trans keeps⟩

/-- A segment masks from its start or the start offset up to its end or the target, and asks
for the next one when the target lies beyond. -/
theorem xorSegment_ok (even : chunkSize % 2 = 0)
    (done : xorSegment helpers manual chunkSize skb cipher payloadOff target segment startOffset =
      .ok (after, more)) :
    SegmentRun helpers manual cipher payloadOff (max startOffset (segment * xorSegmentBytes))
        (min target (segment * xorSegmentBytes + xorSegmentBytes)) skb after ∧
      segment < xorSegmentCount ∧ segment * xorSegmentBytes < target ∧
      more = decide (segment * xorSegmentBytes + xorSegmentBytes < target) := by
  unfold xorSegment at done
  split at done
  · contradiction
  · rename_i processed segmentTarget hasMore bounds
    obtain ⟨counted, bounds⟩ := guard_ok bounds
    obtain ⟨reached, bounds⟩ := guard_ok bounds
    obtain ⟨_, bounds⟩ := guard_ok bounds
    simp only [Except.ok.injEq, Prod.mk.injEq] at bounds
    obtain ⟨start_eq, target_eq, more_eq⟩ := bounds
    have starts : processed = max startOffset (segment * xorSegmentBytes) := by
      rw [← start_eq]
      split <;> omega
    have ends : segmentTarget = min target (segment * xorSegmentBytes + xorSegmentBytes) := by
      rw [← target_eq]
      split <;> omega
    rw [← starts, ← ends]
    have placedBy : segment < xorSegmentCount ∧ segment * xorSegmentBytes < target ∧
        hasMore = decide (segment * xorSegmentBytes + xorSegmentBytes < target) :=
      ⟨by omega, by omega, more_eq.symm⟩
    split at done
    · rename_i empty
      cases done
      refine ⟨.plain (.inr empty) ?_, placedBy⟩
      rw [empty, Skb.masked_empty]
    · split at done
      · contradiction
      · rename_i progress body
        have masks := xorBody_ok even body
        obtain ⟨buffer, position, diff⟩ := progress
        obtain ⟨reaches, rest⟩ := guard_ok done
        obtain rfl : position = segmentTarget := not_not.mp reaches
        have masked := masks.buffer
        dsimp only at masked rest
        subst masked
        split at rest
        · rename_i stored
          cases rest
          exact ⟨.plain (.inl stored) rfl, placedBy⟩
        · rename_i kept
          split at rest
          · contradiction
          · rename_i patched checksummed
            cases rest
            obtain rfl := Bool.eq_true_of_not_eq_false kept
            exact ⟨.summed rfl diff masks checksummed, placedBy⟩

/-- Both variants write the same bytes. -/
theorem xorSegmentFor_ok (placed : udphdrSize ≤ payloadOff)
    (done : xorSegmentFor helpers mode skb cipher payloadOff target segment 0 = .ok (after, more)) :
    after.behind payloadOff = (skb.behind payloadOff).mask cipher.keyByte (segment * xorSegmentBytes)
        (min target (segment * xorSegmentBytes + xorSegmentBytes)) ∧
      skb.Keeps after ∧ segment < xorSegmentCount ∧ segment * xorSegmentBytes < target ∧
      more = decide (segment * xorSegmentBytes + xorSegmentBytes < target) := by
  have segmentOf {manual : Bool} {chunkSize : Nat} (even : chunkSize % 2 = 0)
      (done : xorSegment helpers manual chunkSize skb cipher payloadOff target segment 0 = .ok (after, more)) := by
    obtain ⟨run, placedBy⟩ := xorSegment_ok even done
    rw [Nat.zero_max] at run
    exact and_assoc.mp ⟨run.payload placed, placedBy⟩
  cases mode with
  | none => exact segmentOf (by decide) done
  | recompute => exact segmentOf (by decide) done
  | manual => exact segmentOf (by decide) done

/-- A nonce comes back from the two words that carry it. -/
theorem nonce_words (nonce : UInt64) :
    UInt64.ofNat ((nonce.toNat / 2 ^ 32) <<< 32 ||| nonce.toNat % 2 ^ 32) = nonce := by
  have low : nonce.toNat % 2 ^ 32 < 2 ^ 32 := Nat.mod_lt _ (by decide)
  rw [← Nat.shiftLeft_add_eq_or_of_lt low, Nat.shiftLeft_eq, Nat.div_add_mod']
  exact UInt64.ofNat_toNat

end Tc
end WgMix.Bpf
