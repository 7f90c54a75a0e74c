import WgMix.Bpf.RewriteSpec
import WgMix.Foundation.Footprint

/-! The XOR programs chained from the first segment on. Only a failing helper stops the chain
before the target, and a checksum that is kept by hand follows every segment. -/
namespace WgMix.Bpf
open L3

namespace Skb
variable {helpers : Helpers} {skb after : Skb} {cipher : CipherValue}

/-- The UDP check field as the helpers read it. -/
def checkField (skb : Skb) (payloadOff : Nat) : Nat :=
  Bytes.leNat (skb.data.slice (payloadOff - udphdrSize + 6) 2)

theorem csumFold_lt (sum : Nat) : csumFold sum < 65536 := by
  rw [csumFold]
  omega

theorem cast_csumFold (bounded : sum < 2 ^ 32) : (csumFold sum : ZMod 65535) = -sum := by
  have ones : ((65535 : Nat) : ZMod 65535) = 0 := rfl
  have below := OnesComplement.fold_lt bounded
  rw [csumFold, Nat.cast_sub (by omega), ones, OnesComplement.cast_fold, zero_sub]

/-- A field that is neither disabled nor left to the device gives way to one that is not zero and
takes the difference off its residue. -/
theorem l4CsumReplace_cases (done : skb.l4CsumReplace helpers offset diff = some after) (small : diff < 2 ^ 32) :
    offset + 2 ≤ skb.data.length ∧
      ((Bytes.leNat (skb.data.slice offset 2) = 0 ∨ skb.checksumOffloaded = true) ∧ after = skb ∨
        Bytes.leNat (skb.data.slice offset 2) ≠ 0 ∧ skb.checksumOffloaded = false ∧
          ∃ updated : Nat, 0 < updated ∧ updated < 65536 ∧
            (updated : ZMod 65535) = (Bytes.leNat (skb.data.slice offset 2) : Nat) - diff ∧
            after = { skb with data := skb.data.store offset (Bytes.leBytes 2 updated) }) := by
  obtain ⟨within, done⟩ := guard_some done
  have fits : offset + 2 ≤ skb.data.length := by omega
  refine ⟨fits, ?_⟩
  dsimp only at done
  split at done
  · cases done
    exact .inl ⟨‹_›, rfl⟩
  · rename_i live
    cases done
    refine .inr ⟨fun zero => live (.inl zero), Bool.eq_false_of_not_eq_true fun left => live (.inr left), _,
      ?_, ?_, ?_, rfl⟩
    · split
      · decide
      · omega
    · split
      · decide
      · exact csumFold_lt _
    · have field := Bytes.leNat_lt (skb.data.slice offset 2)
      rw [Bytes.length_slice fits] at field
      have ones : ((2 ^ 32 - 1 : Nat) : ZMod 65535) = 0 := rfl
      have negated := cast_csumFold (addCarry32_lt small
        (by omega : 2 ^ 32 - 1 - Bytes.leNat (skb.data.slice offset 2) < 2 ^ 32))
      rw [cast_addCarry32, Nat.cast_sub (by omega), ones] at negated
      split
      · rename_i zero
        rw [zero] at negated
        have wraps : ((0xffff : Nat) : ZMod 65535) = ((0 : Nat) : ZMod 65535) := rfl
        rw [wraps, negated]
        ring
      · rw [negated]
        ring

theorem l4CsumReplace_reliable (reliable : helpers.Reliable) (fits : offset + 2 ≤ skb.data.length) (diff : Nat) :
    skb.l4CsumReplace helpers offset diff ≠ none := by
  rw [l4CsumReplace, reliable.sums, if_neg (by simpa using fits)]
  dsimp only
  split
  · exact Option.some_ne_none _
  · exact Option.some_ne_none _

end Skb

namespace Tc
variable {helpers : Helpers} {skb middle after : Skb} {cipher : CipherValue} {segment : Nat}

/-- The window is masked, and of the bytes in front of the payload the first `kept` are as they were. -/
structure Ciphers (cipher : CipherValue) (payloadOff kept first last : Nat) (skb after : Skb) : Prop where
  front : after.data.take kept = skb.data.take kept
  payload : after.behind payloadOff = (skb.behind payloadOff).mask cipher.keyByte first last
  length : after.data.length = skb.data.length
  rest : after = { skb with data := after.data }

theorem ciphers_masked (skb : Skb) (within : kept ≤ payloadOff) :
    Ciphers cipher payloadOff kept first last skb (skb.masked cipher payloadOff first last) where
  front := Bytes.take_mask (by omega)
  payload := Skb.behind_masked _ _ _ _ _
  length := Bytes.length_mask
  rest := rfl

/-- A patched check field is behind the kept bytes and in front of the payload. -/
theorem ciphers_patched (masked : Ciphers cipher payloadOff (payloadOff - 2) first last skb middle)
    (placed : udphdrSize ≤ payloadOff) (fits : payloadOff - udphdrSize + 6 + 2 ≤ middle.data.length) (value : Nat) :
    Ciphers cipher payloadOff (payloadOff - 2) first last skb
      { middle with data := middle.data.store (payloadOff - udphdrSize + 6) (Bytes.leBytes 2 value) } := by
  rw [udphdrSize] at placed fits ⊢
  have sized := Bytes.length_leBytes 2 value
  have place : payloadOff - 8 + 6 = payloadOff - 2 + 0 := by omega
  refine ⟨?_, ?_, ?_, ?_⟩
  · dsimp only
    rw [place, Bytes.take_store (by omega)]
    exact masked.front
  · refine Eq.trans ?_ masked.payload
    exact Bytes.drop_store_before (by omega) (by omega)
  · exact (Bytes.length_store (by omega)).trans masked.length
  · rw [masked.rest]

namespace Ciphers

theorem trans (early : Ciphers cipher payloadOff kept first reached skb middle)
    (late : Ciphers cipher payloadOff kept reached last middle after) (forward : first ≤ reached)
    (onward : reached ≤ last) : Ciphers cipher payloadOff kept first last skb after where
  front := late.front.trans early.front
  payload := by rw [late.payload, early.payload, Bytes.mask_mask forward onward]
  length := late.length.trans early.length
  rest := by rw [late.rest, early.rest]

/-- A field among the kept bytes. -/
theorem checkField (ciphers : Ciphers cipher payloadOff payloadOff first last skb after)
    (placed : udphdrSize ≤ payloadOff) : after.checkField payloadOff = skb.checkField payloadOff := by
  have within : payloadOff - udphdrSize + 6 + 2 ≤ payloadOff := by
    rw [udphdrSize] at placed ⊢
    omega
  rw [Skb.checkField, Skb.checkField, ← Bytes.slice_take within, ciphers.front, Bytes.slice_take within]

theorem offloaded (ciphers : Ciphers cipher payloadOff kept first last skb after) :
    after.checksumOffloaded = skb.checksumOffloaded := by
  rw [ciphers.rest]

end Ciphers

/-- The window is masked and the checksum that is kept by hand follows. -/
structure Maintains (cipher : CipherValue) (payloadOff first last : Nat) (skb after : Skb) : Prop where
  ciphers : Ciphers cipher payloadOff (payloadOff - 2) first last skb after
  idle : skb.checkField payloadOff = 0 ∨ skb.checksumOffloaded = true →
    Ciphers cipher payloadOff payloadOff first last skb after
  enabled : skb.checkField payloadOff ≠ 0 → after.checkField payloadOff ≠ 0
  residual : skb.checkField payloadOff ≠ 0 → skb.checksumOffloaded = false → ∀ length, last ≤ length →
    payloadOff + length ≤ skb.data.length → after.residual payloadOff length = skb.residual payloadOff length

theorem Maintains.trans (early : Maintains cipher payloadOff first reached skb middle)
    (late : Maintains cipher payloadOff reached last middle after) (placed : udphdrSize ≤ payloadOff)
    (forward : first ≤ reached) (onward : reached ≤ last) : Maintains cipher payloadOff first last skb after where
  ciphers := early.ciphers.trans late.ciphers forward onward
  idle := by
    intro disabled
    have first := early.idle disabled
    refine first.trans (late.idle ?_) forward onward
    rwa [first.checkField placed, first.offloaded]
  enabled := late.enabled ∘ early.enabled
  residual := by
    intro live ours length covers fits
    have later := late.residual (early.enabled live) (early.ciphers.offloaded.trans ours) length covers
      (by rwa [early.ciphers.length])
    exact later.trans (early.residual live ours length (Nat.le_trans onward covers) fits)

/-- The patched field takes back what the masked window added to the residue. -/
theorem SegmentRun.maintains (run : SegmentRun helpers true cipher payloadOff first last skb after)
    (placed : udphdrSize ≤ payloadOff) (even : first % 2 = 0) :
    Maintains cipher payloadOff first last skb after := by
  have whole : Ciphers cipher payloadOff payloadOff first last skb (skb.masked cipher payloadOff first last) :=
    ciphers_masked skb (Nat.le_refl _)
  have part : Ciphers cipher payloadOff (payloadOff - 2) first last skb (skb.masked cipher payloadOff first last) :=
    ciphers_masked skb (Nat.sub_le _ _)
  have field := whole.checkField placed
  cases run with
  | plain unsummed same =>
    have empty : first = last := unsummed.resolve_left (by simp)
    subst same
    refine ⟨part, fun _ => whole, fun live => field ▸ live, ?_⟩
    intro _ _ length _ _
    rw [empty, Skb.masked_empty]
  | summed _ diff masks patched =>
    obtain ⟨fits, replaced⟩ := Skb.l4CsumReplace_cases patched (masks.small (Nat.two_pow_pos 32))
    rcases replaced with ⟨disabled, rfl⟩ | ⟨live, ours, updated, positive, small, residue, rfl⟩
    · refine ⟨part, fun _ => whole, fun live => field ▸ live, ?_⟩
      intro live ours
      rcases disabled with zero | left
      · exact absurd (field.symm.trans zero) live
      · rw [whole.offloaded, ours] at left
        contradiction
    · have sized := Bytes.length_leBytes 2 updated
      have ciphers := ciphers_patched part placed fits updated
      refine ⟨ciphers, ?_, ?_, ?_⟩
      · rintro (zero | left)
        · exact absurd (field.trans zero) live
        · rw [← whole.offloaded, ours] at left
          contradiction
      · intro _
        have room : payloadOff - udphdrSize + 6 + (Bytes.leBytes 2 updated).length ≤
            (skb.masked cipher payloadOff first last).data.length := by rwa [sized]
        have read := Bytes.slice_store room
        rw [sized] at read
        rw [Skb.checkField, read, Bytes.leNat_leBytes]
        omega
      · intro _ _ length covers within
        have diffs := masks.sums rfl placed length covers within even
        have room : payloadOff + length ≤ (skb.masked cipher payloadOff first last).data.length := by
          rwa [whole.length]
        rw [Skb.residual_store placed room (by decide) (by rw [sized, udphdrSize]; omega), sized,
          OnesComplement.residue_word (Bytes.length_slice fits), OnesComplement.residue_leBytes small, residue, diffs]
        dsimp only
        linear_combination (-1 : ZMod 65535) * OnesComplement.swap_swap
          ((skb.masked cipher payloadOff first last).residual payloadOff length - skb.residual payloadOff length)

/-- Only a helper that fails within its bounds stops the cipher, and never with the length code. -/
def Failing (helpers : Helpers) (cause : RewriteError) : Prop := cause ≠ .length ∧ ¬helpers.Reliable

theorem csumDiff_padWord {old new : Bytes} (oldShort : old.length ≤ 64) (newShort : new.length ≤ 64) (seed : Nat) :
    csumDiff (padWord old) (padWord new) seed ≠ none := by
  have scratch : (padWord old).length + (padWord new).length ≤ 512 := by
    simp only [padWord, List.length_append, List.length_replicate]
    omega
  obtain ⟨sum, summed⟩ := csumDiff_isSome _ _ seed (length_padWord old) (length_padWord new) scratch
  rw [summed]
  exact Option.some_ne_none sum

section
variable {before : XorProgress}

theorem xorChunk_returns (helpers : Helpers) (cipher : CipherValue) (manual : Bool)
    (fits : payloadOff + before.processed + width ≤ before.skb.data.length)
    (narrow : width ≤ 64) :
    Returns (Failing helpers) (fun after => Masks cipher payloadOff manual before after ∧
      after.processed = before.processed + width) (xorChunk helpers cipher payloadOff manual before width) := by
  refine .of_cases ?_ fun after done => xorChunk_ok done
  intro cause failed
  unfold xorChunk at failed
  split at failed
  · rename_i missing
    cases failed
    refine ⟨by decide, fun reliable => ?_⟩
    rw [Skb.loadBytes_reliable reliable fits] at missing
    contradiction
  · rename_i old loaded
    obtain ⟨_, rfl⟩ := Skb.loadBytes_some loaded
    have sized := Bytes.length_slice fits
    dsimp only at failed
    split at failed
    · rename_i unsummed
      cases manual with
      | false => contradiction
      | true =>
        refine absurd unsummed (csumDiff_padWord (by omega) ?_ _)
        rw [List.length_mapIdx]
        omega
    · split at failed
      · rename_i unstored
        cases failed
        refine ⟨by decide, fun reliable => ?_⟩
        rw [Skb.storeBytes_reliable reliable (by rwa [List.length_mapIdx, sized])] at unstored
        contradiction
      · contradiction

/-- A loop with fuel for every whole chunk leaves less than one. -/
theorem xorChunks_returns (even : width % 2 = 0) (narrow : width ≤ 64) (fuel : Nat)
    (room : payloadOff + segmentTarget ≤ before.skb.data.length) (inside : before.processed ≤ segmentTarget)
    (reach : segmentTarget < before.processed + (fuel + 1) * width) :
    Returns (Failing helpers) (fun after => Masks cipher payloadOff manual before after ∧
        before.processed % 2 = after.processed % 2 ∧ after.processed ≤ segmentTarget ∧
        segmentTarget < after.processed + width)
      (xorChunks helpers cipher payloadOff manual segmentTarget width fuel before) := by
  induction fuel generalizing before with
  | zero => exact ⟨Masks.refl _, rfl, inside, by omega⟩
  | succ fuel ih =>
    rw [xorChunks]
    split
    · exact ⟨Masks.refl _, rfl, inside, by omega⟩
    · have chunk := xorChunk_returns helpers cipher manual
        (by omega : payloadOff + before.processed + width ≤ before.skb.data.length) narrow
      split
      · rename_i cause failed
        rwa [failed] at chunk
      · rename_i next done
        rw [done] at chunk
        obtain ⟨masks, moved⟩ := chunk
        rw [Nat.succ_mul] at reach
        have room : payloadOff + segmentTarget ≤ next.skb.data.length := by rwa [masks.keeps.length]
        refine (ih room (by omega) (by omega)).mono (fun _ failing => failing) ?_
        rintro after ⟨later, same, below, close⟩
        exact ⟨masks.trans later (by omega), by omega, below, close⟩

theorem xorTail_returns (room : payloadOff + segmentTarget ≤ before.skb.data.length)
    (inside : before.processed ≤ segmentTarget) (close : segmentTarget < before.processed + 4) :
    Returns (Failing helpers) (fun after => Masks cipher payloadOff manual before after ∧
        after.processed = segmentTarget)
      (xorTail helpers cipher payloadOff manual segmentTarget before) := by
  rw [xorTail]
  split
  · rw [if_neg (by omega)]
    refine (xorChunk_returns helpers cipher manual (by omega) (by omega)).mono (fun _ failing => failing) ?_
    rintro after ⟨masks, moved⟩
    exact ⟨masks, by omega⟩
  · exact ⟨Masks.refl _, by omega⟩

/-- The chunks and words of either variant reach the end of every segment. -/
theorem xorBody_returns (before : XorProgress) (chunked : chunkSize = 32 ∨ chunkSize = 64)
    (room : payloadOff + segmentTarget ≤ before.skb.data.length) (inside : before.processed ≤ segmentTarget)
    (reach : segmentTarget ≤ before.processed + xorSegmentBytes) :
    Returns (Failing helpers) (fun after => Masks cipher payloadOff manual before after ∧
        after.processed = segmentTarget)
      (xorBody helpers manual chunkSize cipher payloadOff segmentTarget before) := by
  have enough : segmentTarget < before.processed + (xorSegmentBytes / chunkSize + 1) * chunkSize := by
    rw [xorSegmentBytes] at reach ⊢
    rcases chunked with rfl | rfl <;> omega
  have words : (chunkSize / 4 - 1 + 1) * 4 = chunkSize := by
    rcases chunked with rfl | rfl <;> decide
  rw [xorBody]
  refine (xorChunks_returns (by omega) (by omega) _ room inside enough).bind ?_
  rintro chunks ⟨first, even, below, left⟩
  have room : payloadOff + segmentTarget ≤ chunks.skb.data.length := by rwa [first.keeps.length]
  refine (xorChunks_returns (by decide) (by decide) _ room below (by rwa [words])).bind ?_
  rintro last ⟨second, same, below, left⟩
  have room : payloadOff + segmentTarget ≤ last.skb.data.length := by rwa [second.keeps.length]
  refine (xorTail_returns room below left).mono (fun _ failing => failing) ?_
  rintro after ⟨third, reached⟩
  exact ⟨(first.trans second even).trans third (even.trans same), reached⟩

end

theorem xorSegmentBounds_ok (bounded : target ≤ maxXorBytes) (starts : startOffset ≤ target)
    (open_ : segment * xorSegmentBytes < target) :
    xorSegmentBounds target segment startOffset = .ok (max startOffset (segment * xorSegmentBytes),
      min target (segment * xorSegmentBytes + xorSegmentBytes),
      decide (segment * xorSegmentBytes + xorSegmentBytes < target)) := by
  have counted : segment < xorSegmentCount := by
    simp only [maxXorBytes, xorSegmentBytes, xorSegmentCount] at bounded open_ ⊢
    omega
  have first : (if segment * xorSegmentBytes < startOffset then startOffset else segment * xorSegmentBytes) =
      max startOffset (segment * xorSegmentBytes) := by
    split <;> omega
  have last : (if target < segment * xorSegmentBytes + xorSegmentBytes then target
      else segment * xorSegmentBytes + xorSegmentBytes) =
      min target (segment * xorSegmentBytes + xorSegmentBytes) := by
    split <;> omega
  simp only [xorSegmentBounds, first, last]
  rw [if_neg (by omega), if_neg (by omega), if_neg (by omega)]

/-- A segment of a packet that holds the target. -/
theorem xorSegment_returns (chunked : chunkSize = 32 ∨ chunkSize = 64) (bounded : target ≤ maxXorBytes)
    (starts : startOffset ≤ target) (near : startOffset ≤ xorSegmentBytes)
    (placed : udphdrSize ≤ payloadOff ∨ manual = false) (room : payloadOff + target ≤ skb.data.length)
    (open_ : segment * xorSegmentBytes < target) :
    Returns (Failing helpers) (fun result =>
        SegmentRun helpers manual cipher payloadOff (max startOffset (segment * xorSegmentBytes))
          (min target (segment * xorSegmentBytes + xorSegmentBytes)) skb result.1 ∧
        result.2 = decide (segment * xorSegmentBytes + xorSegmentBytes < target))
      (xorSegment helpers manual chunkSize skb cipher payloadOff target segment startOffset) := by
  have bounds := xorSegmentBounds_ok bounded starts open_
  refine .of_cases ?_ ?_
  · intro cause failed
    rw [xorSegment, bounds] at failed
    dsimp only at failed
    have inside : payloadOff + min target (segment * xorSegmentBytes + xorSegmentBytes) ≤ skb.data.length := by omega
    have body : Returns (Failing helpers) _ (xorBody helpers manual chunkSize cipher payloadOff _ _) :=
      xorBody_returns ⟨skb, max startOffset (segment * xorSegmentBytes), 0⟩ chunked inside (by dsimp only; omega)
        (by dsimp only; omega)
    split at failed
    · contradiction
    · split at failed
      · rename_i cause stopped
        cases failed
        rwa [stopped] at body
      · rename_i done finished
        rw [finished] at body
        obtain ⟨masks, reached⟩ := body
        rw [if_neg (not_not.mpr reached)] at failed
        split at failed
        · contradiction
        · rename_i kept
          split at failed
          · rename_i unpatched
            cases failed
            refine ⟨by decide, fun reliable => ?_⟩
            refine absurd unpatched (Skb.l4CsumReplace_reliable reliable ?_ _)
            have long := masks.keeps.length
            have header := placed.resolve_right kept
            dsimp only at long
            rw [udphdrSize] at header ⊢
            omega
          · contradiction
  · rintro ⟨after, more⟩ done
    obtain ⟨run, _, _, more⟩ := xorSegment_ok (by omega) done
    exact ⟨run, more⟩

/-- The programs one after the other while they ask for the next one, with the buffer that each
left; `none` if they have not come to an end within the fuel. -/
def chainSegments (run : Skb → Nat → Except RewriteError (Skb × Bool)) :
    (fuel segment : Nat) → Skb → Option (Except RewriteError (List Skb))
  | 0, _, _ => none
  | fuel + 1, segment, skb =>
    match run skb segment with
    | .error cause => some (.error cause)
    | .ok (skb, false) => some (.ok [skb])
    | .ok (skb, true) => (chainSegments run fuel (segment + 1) skb).map (·.map (skb :: ·))

/-- What a chain has done from `first` up to the target: so many segments, each of which left a
buffer in the relation, and the last one at the target. -/
structure Chained (related : Nat → Skb → Prop) (first target segments : Nat) (buffers : List Skb) : Prop where
  count : buffers.length = segments
  each : ∀ buffer ∈ buffers, ∃ reached, first ≤ reached ∧ related reached buffer
  last : ∃ buffer, buffers.getLast? = some buffer ∧ related target buffer

def segmentsOf (target : Nat) : Nat := (target + xorSegmentBytes - 1) / xorSegmentBytes

/-- A relation between buffers that every segment establishes for its window holds for the window
of the whole chain. -/
theorem chainSegments_returns {run : Skb → Nat → Except RewriteError (Skb × Bool)} {bad : RewriteError → Prop}
    (related : Nat → Nat → Skb → Skb → Prop) (good : Skb → Prop) (near : startOffset ≤ xorSegmentBytes)
    (step : ∀ skb segment, good skb → segment * xorSegmentBytes < target →
      Returns bad (fun result => related (max startOffset (segment * xorSegmentBytes))
          (min target (segment * xorSegmentBytes + xorSegmentBytes)) skb result.1 ∧ good result.1 ∧
        result.2 = decide (segment * xorSegmentBytes + xorSegmentBytes < target)) (run skb segment))
    (joins : ∀ first reached last skb middle after, first ≤ reached → reached ≤ last →
      related first reached skb middle → related reached last middle after → related first last skb after)
    (fuel segment : Nat) (skb : Skb) (fit : good skb) (starts : startOffset ≤ target)
    (open_ : segment * xorSegmentBytes < target) (enough : target ≤ (segment + fuel) * xorSegmentBytes) :
    ∃ outcome, chainSegments run fuel segment skb = some outcome ∧
      Returns bad (Chained (related (max startOffset (segment * xorSegmentBytes)) · skb)
        (max startOffset (segment * xorSegmentBytes)) target (segmentsOf target - segment)) outcome := by
  have bytes : xorSegmentBytes = 256 := rfl
  induction fuel generalizing segment skb with
  | zero =>
    rw [Nat.add_zero] at enough
    omega
  | succ fuel ih =>
    have ran := step skb segment fit open_
    rw [chainSegments]
    split
    · rename_i cause failed
      rw [failed] at ran
      exact ⟨_, rfl, ran⟩
    · rename_i after done
      rw [done] at ran
      obtain ⟨holds, _, more⟩ := ran
      have final : target ≤ segment * xorSegmentBytes + xorSegmentBytes := by
        have := of_decide_eq_false more.symm
        omega
      rw [Nat.min_eq_left final] at holds
      refine ⟨_, rfl, ?_, ?_, after, rfl, holds⟩
      · rw [bytes] at open_ final
        rw [List.length_singleton, segmentsOf, bytes]
        omega
      · intro buffer member
        obtain rfl := List.mem_singleton.mp member
        exact ⟨target, by omega, holds⟩
    · rename_i after done
      rw [done] at ran
      obtain ⟨holds, fit, more⟩ := ran
      have beyond : segment * xorSegmentBytes + xorSegmentBytes < target := of_decide_eq_true more.symm
      have next : (segment + 1) * xorSegmentBytes = segment * xorSegmentBytes + xorSegmentBytes := Nat.succ_mul _ _
      have shift : segment + (fuel + 1) = segment + 1 + fuel := by omega
      rw [shift] at enough
      obtain ⟨outcome, rest, returns⟩ := ih (segment + 1) after fit (by omega) enough
      rw [next, Nat.max_eq_right (by omega : startOffset ≤ segment * xorSegmentBytes + xorSegmentBytes)] at returns
      rw [Nat.min_eq_right (by omega)] at holds
      refine ⟨_, by rw [rest]; rfl, ?_⟩
      cases outcome with
      | error cause => exact returns
      | ok buffers =>
        have joined (reached : Nat) (buffer : Skb) (from_ : segment * xorSegmentBytes + xorSegmentBytes ≤ reached)
            (later : related (segment * xorSegmentBytes + xorSegmentBytes) reached after buffer) :
            related (max startOffset (segment * xorSegmentBytes)) reached skb buffer :=
          joins _ _ _ _ _ _ (by omega) from_ holds later
        obtain ⟨final, at_, reaches⟩ := returns.last
        refine ⟨?_, ?_, final, ?_, joined _ _ (by omega) reaches⟩
        · rw [bytes] at beyond
          rw [List.length_cons, returns.count, segmentsOf, bytes]
          omega
        · rintro buffer (_ | ⟨_, member⟩)
          · exact ⟨_, by omega, holds⟩
          · obtain ⟨reached, from_, later⟩ := returns.each buffer member
            exact ⟨reached, by omega, joined _ _ from_ later⟩
        · rw [List.getLast?_cons, at_]
          rfl

/-- Either variant, for a relation that a segment's window establishes. -/
theorem xorChain_returns {startOffset target payloadOff fuel : Nat} {related : Nat → Nat → Skb → Skb → Prop}
    (helpers : Helpers) (cipher : CipherValue) (chunked : chunkSize = 32 ∨ chunkSize = 64) (four : 4 ≤ target)
    (bounded : target ≤ maxXorBytes) (offset : startOffset = 0 ∨ startOffset = 4)
    (placed : udphdrSize ≤ payloadOff ∨ manual = false) (room : payloadOff + target ≤ skb.data.length)
    (enough : xorSegmentCount ≤ fuel)
    (each : ∀ first last skb after, first % 2 = 0 →
      SegmentRun helpers manual cipher payloadOff first last skb after → related first last skb after)
    (length : ∀ first last skb after, related first last skb after → after.data.length = skb.data.length)
    (joins : ∀ first reached last skb middle after, first ≤ reached → reached ≤ last →
      related first reached skb middle → related reached last middle after → related first last skb after) :
    ∃ outcome,
      chainSegments (xorSegment helpers manual chunkSize · cipher payloadOff target · startOffset) fuel 0 skb =
        some outcome ∧
      Returns (Failing helpers) (Chained (related startOffset · skb) startOffset target (segmentsOf target))
        outcome := by
  have bytes : xorSegmentBytes = 256 := rfl
  have fuelled : target ≤ (0 + fuel) * xorSegmentBytes := by
    simp only [maxXorBytes, xorSegmentCount, xorSegmentBytes] at bounded enough ⊢
    omega
  have step (skb : Skb) (segment : Nat) (room : payloadOff + target ≤ skb.data.length)
      (open_ : segment * xorSegmentBytes < target) :
      Returns (Failing helpers) (fun result =>
          related (max startOffset (segment * xorSegmentBytes))
            (min target (segment * xorSegmentBytes + xorSegmentBytes)) skb result.1 ∧
          payloadOff + target ≤ result.1.data.length ∧
          result.2 = decide (segment * xorSegmentBytes + xorSegmentBytes < target))
        (xorSegment helpers manual chunkSize skb cipher payloadOff target segment startOffset) := by
    refine (xorSegment_returns chunked bounded (by omega) (by omega) placed room open_).mono
      (fun _ failing => failing) ?_
    rintro ⟨after, more⟩ ⟨run, follows⟩
    have even : max startOffset (segment * xorSegmentBytes) % 2 = 0 := by
      rw [bytes]
      omega
    have holds := each _ _ _ _ even run
    exact ⟨holds, by rwa [length _ _ _ _ holds], follows⟩
  have chained := chainSegments_returns related (payloadOff + target ≤ ·.data.length) (by omega) step joins fuel 0 skb
    room (by omega) (by omega) fuelled
  rwa [Nat.zero_mul, Nat.max_zero, Nat.sub_zero] at chained

/-- A chain comes to an end after as many segments as the target has, unless a helper fails on the
way; the length code is never among its failures. -/
def Completes (helpers : Helpers) (target : Nat) (good : List Skb → Prop)
    (outcome : Option (Except RewriteError (List Skb))) : Prop :=
  ∃ result, outcome = some result ∧
    Returns (Failing helpers) (fun buffers => buffers.length = segmentsOf target ∧ good buffers) result

/-- Both chains over one packet: the payload from the start offset up to the target is combined with
the key, and the checksum that is kept by hand stays what it was. -/
structure XorChains (helpers : Helpers) (cipher : CipherValue) (payloadOff target startOffset fuel : Nat)
    (skb : Skb) : Prop where
  storeOnly : Completes helpers target
    (fun buffers => ∃ after, buffers.getLast? = some after ∧
      Ciphers cipher payloadOff payloadOff startOffset target skb after)
    (chainSegments (xorSegmentStoreOnly helpers · cipher payloadOff target · startOffset) fuel 0 skb)
  manualDiff : udphdrSize ≤ payloadOff → Completes helpers target
    (fun buffers =>
      (∀ buffer ∈ buffers, buffer.checkField payloadOff = skb.checkField payloadOff ∨
        buffer.checkField payloadOff ≠ 0) ∧
      ∃ after, buffers.getLast? = some after ∧ Maintains cipher payloadOff startOffset target skb after)
    (chainSegments (xorSegmentManualDiff helpers · cipher payloadOff target · startOffset) fuel 0 skb)

theorem xor_segmentation (helpers : Helpers) (cipher : CipherValue) (four : 4 ≤ target)
    (bounded : target ≤ maxXorBytes) (offset : startOffset = 0 ∨ startOffset = 4)
    (room : payloadOff + target ≤ skb.data.length) (enough : xorSegmentCount ≤ fuel) :
    XorChains helpers cipher payloadOff target startOffset fuel skb := by
  constructor
  case storeOnly =>
    have masked (first last : Nat) (skb after : Skb) (_ : first % 2 = 0)
        (run : SegmentRun helpers false cipher payloadOff first last skb after) :
        Ciphers cipher payloadOff payloadOff first last skb after := by
      cases run with
      | plain _ same =>
        rw [same]
        exact ciphers_masked skb (Nat.le_refl _)
      | summed kept _ _ _ => contradiction
    obtain ⟨result, ran, returns⟩ := xorChain_returns helpers cipher (.inr rfl) four bounded offset (.inr rfl) room
      enough masked (fun _ _ _ _ ciphers => ciphers.length)
      fun _ _ _ _ _ _ forward onward early late => early.trans late forward onward
    refine ⟨result, ran, returns.mono (fun _ failing => failing) ?_⟩
    intro buffers chained
    exact ⟨chained.count, chained.last⟩
  case manualDiff =>
    intro placed
    obtain ⟨result, ran, returns⟩ := xorChain_returns helpers cipher (.inl rfl) four bounded offset (.inl placed) room
      enough (fun _ _ _ _ even run => run.maintains placed even) (fun _ _ _ _ maintains => maintains.ciphers.length)
      fun _ _ _ _ _ _ forward onward early late => early.trans late placed forward onward
    refine ⟨result, ran, returns.mono (fun _ failing => failing) ?_⟩
    intro buffers chained
    refine ⟨chained.count, ?_, chained.last⟩
    intro buffer member
    obtain ⟨reached, _, maintains⟩ := chained.each buffer member
    by_cases live : skb.checkField payloadOff = 0
    · exact .inl ((maintains.idle (.inl live)).checkField placed)
    · exact .inr (maintains.enabled live)

/-- A bare keepalive over IPv6 whose UDP checksum is left to the device. -/
def pendingKeepalive : Skb where
  data := [0x60, 0, 0, 0, 0, 40, 17, 64] ++ List.replicate 16 0xfd ++ List.replicate 16 0xfe ++
    [0xca, 0x6c, 0xca, 0x6c, 0, 40, 0x5a, 0x17] ++ [4, 0, 0, 0] ++ List.replicate 28 0x33
  linear := 80
  protocol := ethPIpv6
  mark := 0
  ifindex := 2
  checksumOffloaded := true

def sampleCipher : CipherValue where
  generation := 1
  key := fun i => UInt8.ofNat (i.val * 7 + 1)
  maxBytes := 2048
  flags := 0
  mode := .xor

/-- The buffer that the last segment of a chain left. -/
def lastBuffer (outcome : Option (Except RewriteError (List Skb))) : Option Skb :=
  outcome.bind fun result => result.toOption.bind (·.getLast?)

theorem pending_residual_changes :
    (lastBuffer (chainSegments (xorSegmentManualDiff {} · sampleCipher 48 32 · 0) xorSegmentCount 0
      pendingKeepalive)).map (fun after => decide (after.residual 48 32 = pendingKeepalive.residual 48 32)) =
      some false := by
  decide +kernel

theorem keepalive_segmentation :
    XorChains {} sampleCipher 48 32 4 xorSegmentCount { pendingKeepalive with checksumOffloaded := false } :=
  xor_segmentation {} sampleCipher (by decide) (by decide) (.inr rfl) (by decide) (Nat.le_refl _)

end Tc
end WgMix.Bpf
