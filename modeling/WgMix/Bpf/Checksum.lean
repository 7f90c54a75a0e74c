import WgMix.Foundation.OnesComplement

/-! One's-complement accumulation as the packet programs use it: the native
32-bit accumulator of `bpf_csum_diff` and the final fold to a header field. Each is
accounted for by its residue, up to the byte order of the accumulator. -/
namespace WgMix.Bpf
open OnesComplement

/-- End-around carry into 32 bits. -/
def addCarry32 (left right : Nat) : Nat :=
  let sum := left + right
  sum % 2 ^ 32 + sum / 2 ^ 32

/-- Consecutive native words; a caller passes a multiple of four bytes. -/
def words32 : Bytes → List Nat
  | b₀ :: b₁ :: b₂ :: b₃ :: rest => Bytes.leNat [b₀, b₁, b₂, b₃] :: words32 rest
  | _ => []

/-- `bpf_csum_diff`: subtract the old words and add the new ones. It refuses
lengths that are not whole words or exceed the helper's scratch space. -/
def csumDiff (old new : Bytes) (seed : Nat) : Option Nat :=
  if old.length % 4 ≠ 0 ∨ new.length % 4 ≠ 0 ∨ old.length + new.length > 512 then none
  else
    let removed := (words32 old).foldl (fun sum word => addCarry32 sum (2 ^ 32 - 1 - word)) seed
    some ((words32 new).foldl addCarry32 removed)

def foldOnce (sum : Nat) : Nat := sum % 65536 + sum / 65536

/-- Four folds bring any 64-bit sum below 2^16; the field is its complement. -/
def foldCsum (sum : Nat) : Nat :=
  65535 - foldOnce (foldOnce (foldOnce (foldOnce sum))) % 65536

def headerDelta : Nat := 12

/-- Moving twelve bytes across an odd boundary shifts them by one byte lane. -/
def rotationChecksum (head : Bytes) (seed : Nat) (inverse : Bool) : Option Nat :=
  let aligned := head ++ [0, 0, 0, 0]
  let shifted := [0] ++ head ++ [0, 0, 0]
  if inverse then csumDiff shifted aligned seed else csumDiff aligned shifted seed

theorem cast_addCarry32 (left right : Nat) :
    (addCarry32 left right : ZMod 65535) = left + right := by
  have wrap : ((2 ^ 32 : Nat) : ZMod 65535) = 1 := rfl
  have joined : ((left + right : Nat) : ZMod 65535) =
      (((left + right) % 2 ^ 32 + 2 ^ 32 * ((left + right) / 2 ^ 32) : Nat) : ZMod 65535) := by
    rw [Nat.mod_add_div]
  rw [← Nat.cast_add, joined, addCarry32, Nat.cast_add, Nat.cast_add, Nat.cast_mul, wrap, one_mul]

theorem addCarry32_lt (leftLt : left < 2 ^ 32) (rightLt : right < 2 ^ 32) : addCarry32 left right < 2 ^ 32 := by
  simp only [addCarry32]
  omega

theorem words32_lt (bytes : Bytes) : ∀ word ∈ words32 bytes, word < 2 ^ 32 := by
  induction bytes using words32.induct with
  | case1 b₀ b₁ b₂ b₃ rest ih =>
    rw [words32]
    intro word member
    rcases List.mem_cons.mp member with rfl | later
    · have bounded := Bytes.leNat_lt [b₀, b₁, b₂, b₃]
      simpa only [List.length_cons, List.length_nil, Nat.reduceAdd, Nat.reducePow] using bounded
    · exact ih word later
  | case2 bytes short =>
    rw [words32]
    · simp
    · exact short

/-- Whole native words add up to the byte-swapped word sum. -/
theorem sum_words32 {bytes : Bytes} (whole : bytes.length % 4 = 0) :
    ((words32 bytes).map (Nat.cast (R := ZMod 65535))).sum = 256 * residue bytes := by
  induction bytes using words32.induct with
  | case1 b₀ b₁ b₂ b₃ rest ih =>
    have shorter : rest.length % 4 = 0 := by
      simp only [List.length_cons] at whole
      omega
    have split : residue ([b₀, b₁, b₂, b₃] ++ rest) = residue [b₀, b₁, b₂, b₃] + residue rest :=
      residue_append (by simp) rest
    rw [words32, List.map_cons, List.sum_cons, ih shorter, cast_leNat_word, ← mul_add, ← split]
    rfl
  | case2 bytes short =>
    match bytes, short with
    | [], _ => simp [words32, residue, wordSum]
    | [_], _ | [_, _], _ | [_, _, _], _ => simp at whole
    | b₀ :: b₁ :: b₂ :: b₃ :: rest, short => exact absurd rfl (short b₀ b₁ b₂ b₃ rest)

theorem cast_foldl_addCarry32 (words : List Nat) (seed : Nat) :
    ((words.foldl addCarry32 seed : Nat) : ZMod 65535) = seed + (words.map Nat.cast).sum := by
  induction words generalizing seed with
  | nil => simp
  | cons word words ih => rw [List.foldl_cons, ih, cast_addCarry32, List.map_cons, List.sum_cons, add_assoc]

theorem foldl_addCarry32_lt {words : List Nat} (bounded : ∀ word ∈ words, word < 2 ^ 32) (seedLt : seed < 2 ^ 32) :
    words.foldl addCarry32 seed < 2 ^ 32 := by
  induction words generalizing seed with
  | nil => exact seedLt
  | cons word words ih =>
    rw [List.foldl_cons]
    exact ih (fun later member => bounded later (List.mem_cons_of_mem _ member))
      (addCarry32_lt seedLt (bounded word List.mem_cons_self))

/-- Adding the complement of a word subtracts it. -/
theorem foldl_complement (words : List Nat) (seed : Nat) :
    words.foldl (fun sum word => addCarry32 sum (2 ^ 32 - 1 - word)) seed =
      (words.map (2 ^ 32 - 1 - ·)).foldl addCarry32 seed := by
  rw [List.foldl_map]

theorem sum_complement {words : List Nat} (bounded : ∀ word ∈ words, word < 2 ^ 32) :
    ((words.map (2 ^ 32 - 1 - ·)).map (Nat.cast (R := ZMod 65535))).sum = -(words.map Nat.cast).sum := by
  induction words with
  | nil => simp
  | cons word words ih =>
    have ones : ((2 ^ 32 - 1 : Nat) : ZMod 65535) = 0 := rfl
    have wordLt := bounded word List.mem_cons_self
    have negated : ((2 ^ 32 - 1 - word : Nat) : ZMod 65535) = -word := by
      rw [Nat.cast_sub (by omega), ones, zero_sub]
    simp only [List.map_cons, List.sum_cons, negated,
      ih fun later member => bounded later (List.mem_cons_of_mem _ member), neg_add]

/-- What `bpf_csum_diff` computes, up to the representation of its sum. -/
theorem csumDiff_residue (computed : csumDiff old new seed = some sum) :
    (sum : ZMod 65535) = seed + 256 * (residue new - residue old) := by
  unfold csumDiff at computed
  split at computed
  · contradiction
  rename_i lengths
  simp only [not_or, Decidable.not_not] at lengths
  obtain rfl := Option.some.inj computed
  rw [cast_foldl_addCarry32, foldl_complement, cast_foldl_addCarry32, sum_complement (words32_lt old),
    sum_words32 lengths.1, sum_words32 lengths.2.1]
  ring

theorem csumDiff_lt (computed : csumDiff old new seed = some sum) (seedLt : seed < 2 ^ 32) : sum < 2 ^ 32 := by
  unfold csumDiff at computed
  split at computed
  · contradiction
  obtain rfl := Option.some.inj computed
  apply foldl_addCarry32_lt (words32_lt new)
  rw [foldl_complement]
  apply foldl_addCarry32_lt ?_ seedLt
  intro word member
  obtain ⟨old, _, rfl⟩ := List.mem_map.mp member
  omega

theorem csumDiff_isSome (old new : Bytes) (seed : Nat) (oldWhole : old.length % 4 = 0)
    (newWhole : new.length % 4 = 0) (scratch : old.length + new.length ≤ 512) :
    ∃ sum, csumDiff old new seed = some sum := by
  rw [csumDiff, if_neg (by omega)]
  exact ⟨_, rfl⟩

theorem foldCsum_lt (sum : Nat) : foldCsum sum < 65536 := by
  rw [foldCsum]
  omega

theorem cast_foldOnce (sum : Nat) : (foldOnce sum : ZMod 65535) = sum :=
  (ZMod.natCast_eq_natCast_iff' _ _ _).mpr (by simp only [foldOnce]; omega)

theorem foldOnce_four_lt (bounded : sum < 2 ^ 32) : foldOnce (foldOnce (foldOnce (foldOnce sum))) < 65536 := by
  have first : foldOnce sum < 2 ^ 17 := by simp only [foldOnce]; omega
  have second : foldOnce (foldOnce sum) < 65537 := by
    generalize foldOnce sum = folded at first
    simp only [foldOnce]
    omega
  have third : foldOnce (foldOnce (foldOnce sum)) < 65536 := by
    generalize foldOnce (foldOnce sum) = folded at second
    simp only [foldOnce]
    omega
  generalize foldOnce (foldOnce (foldOnce sum)) = folded at third
  simp only [foldOnce]
  omega

/-- The field is the negated sum. -/
theorem cast_foldCsum (bounded : sum < 2 ^ 32) : (foldCsum sum : ZMod 65535) = -sum := by
  have small := foldOnce_four_lt bounded
  have ones : ((65535 : Nat) : ZMod 65535) = 0 := rfl
  rw [foldCsum, Nat.mod_eq_of_lt small, Nat.cast_sub (by omega), ones, cast_foldOnce, cast_foldOnce,
    cast_foldOnce, cast_foldOnce, zero_sub]

theorem foldOnce_pos (sum : Nat) : 0 < foldOnce sum ↔ 0 < sum := by
  simp only [foldOnce]
  omega

/-- What a verified checksum says: something was summed, and its residue is zero. -/
theorem foldCsum_eq_zero (bounded : sum < 2 ^ 32) : foldCsum sum = 0 ↔ 0 < sum ∧ (sum : ZMod 65535) = 0 := by
  have small := foldOnce_four_lt bounded
  have positive : 0 < foldOnce (foldOnce (foldOnce (foldOnce sum))) ↔ 0 < sum := by
    rw [foldOnce_pos, foldOnce_pos, foldOnce_pos, foldOnce_pos]
  have same : (foldOnce (foldOnce (foldOnce (foldOnce sum))) : ZMod 65535) = sum := by
    rw [cast_foldOnce, cast_foldOnce, cast_foldOnce, cast_foldOnce]
  rw [foldCsum, ← same, ← positive]
  generalize foldOnce (foldOnce (foldOnce (foldOnce sum))) = folded at small
  rw [ZMod.natCast_eq_zero_iff]
  omega

theorem addCarry32_pos (left right : Nat) : 0 < addCarry32 left right ↔ 0 < left + right := by
  simp only [addCarry32]
  omega

/-- Nothing but zeros is added up to zero. -/
theorem foldl_addCarry32_pos (words : List Nat) (seed : Nat) :
    0 < words.foldl addCarry32 seed ↔ 0 < seed + words.sum := by
  induction words generalizing seed with
  | nil => simp
  | cons word words ih =>
    have carried := addCarry32_pos seed word
    rw [List.foldl_cons, ih, List.sum_cons]
    omega

theorem sum_words32_pos {bytes : Bytes} (whole : bytes.length % 4 = 0) :
    0 < (words32 bytes).sum ↔ 0 < wordSum bytes := by
  induction bytes using words32.induct with
  | case1 b₀ b₁ b₂ b₃ rest ih =>
    have shorter : rest.length % 4 = 0 := by
      simp only [List.length_cons] at whole
      omega
    have later := ih shorter
    simp only [words32, List.sum_cons, wordSum, Bytes.leNat]
    omega
  | case2 bytes short =>
    rcases bytes with _ | ⟨b₀, _ | ⟨b₁, _ | ⟨b₂, _ | ⟨b₃, rest⟩⟩⟩⟩
    · simp [words32, wordSum]
    iterate 3 simp at whole
    exact absurd rfl (short b₀ b₁ b₂ b₃ rest)

theorem csumDiff_pos (computed : csumDiff [] bytes seed = some sum) : 0 < sum ↔ 0 < seed + wordSum bytes := by
  rw [csumDiff] at computed
  split at computed
  · contradiction
  rename_i lengths
  simp only [not_or, Decidable.not_not] at lengths
  obtain rfl := Option.some.inj computed
  have words := sum_words32_pos lengths.2.1
  rw [foldl_addCarry32_pos]
  simp only [words32, List.foldl_nil]
  omega

/-- Re-aligning the twelve moved bytes. -/
theorem rotationChecksum_residue {head : Bytes}
    (computed : rotationChecksum head seed inverse = some sum) :
    (sum : ZMod 65535) = seed + 256 * (if inverse then residue head - residue (0 :: head)
      else residue (0 :: head) - residue head) := by
  have aligned : residue (head ++ [0, 0, 0, 0]) = residue head := residue_zeros head 4
  have shifted : residue ([0] ++ head ++ [0, 0, 0]) = residue (0 :: head) := residue_zeros (0 :: head) 3
  unfold rotationChecksum at computed
  cases inverse with
  | true =>
    rw [if_pos rfl] at computed
    rw [csumDiff_residue computed, aligned, shifted, if_pos rfl]
  | false =>
    rw [if_neg (by simp)] at computed
    rw [csumDiff_residue computed, aligned, shifted, if_neg (by simp)]

theorem rotationChecksum_lt (computed : rotationChecksum head seed inverse = some sum) (seedLt : seed < 2 ^ 32) :
    sum < 2 ^ 32 := by
  unfold rotationChecksum at computed
  split at computed
  · exact csumDiff_lt computed seedLt
  · exact csumDiff_lt computed seedLt

theorem rotationChecksum_isSome (sized : head.length = headerDelta) (seed : Nat) (inverse : Bool) :
    ∃ sum, rotationChecksum head seed inverse = some sum := by
  unfold rotationChecksum
  split
  · exact csumDiff_isSome _ _ _ (by simp [sized, headerDelta]) (by simp [sized, headerDelta])
      (by simp [sized, headerDelta])
  · exact csumDiff_isSome _ _ _ (by simp [sized, headerDelta]) (by simp [sized, headerDelta])
      (by simp [sized, headerDelta])

end WgMix.Bpf
