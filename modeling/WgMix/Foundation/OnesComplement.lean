import Mathlib.Data.ZMod.Basic
import Mathlib.Tactic.LinearCombination
import WgMix.Foundation.Bytes

/-! The one's-complement sum of big-endian 16-bit words, its end-around fold and
the completion law: a sum and the complement of its fold fold to all ones. Sums of
words in either byte order are compared by their residue modulo 2^16 - 1. -/
namespace WgMix.OnesComplement

/-- A trailing odd byte is the high half of a last word. -/
def wordSum : Bytes → Nat
  | high :: low :: rest => high.toNat * 256 + low.toNat + wordSum rest
  | [last] => last.toNat * 256
  | [] => 0

def carry (sum : Nat) : Nat := sum % 65536 + sum / 65536

/-- Two carries bring every 32-bit sum below 2^16. -/
def fold (sum : Nat) : Nat := carry (carry sum)

theorem wordSum_append {first : Bytes} (even : first.length % 2 = 0) (rest : Bytes) :
    wordSum (first ++ rest) = wordSum first + wordSum rest := by
  induction first using wordSum.induct with
  | case1 high low first ih =>
    have shorter : first.length % 2 = 0 := by
      simp only [List.length_cons] at even
      omega
    simp only [List.cons_append, wordSum, ih shorter, Nat.add_assoc]
  | case2 last => simp at even
  | case3 => simp only [List.nil_append, wordSum, Nat.zero_add]

theorem wordSum_le (bytes : Bytes) : wordSum bytes ≤ 65535 * ((bytes.length + 1) / 2) := by
  induction bytes using wordSum.induct with
  | case1 high low rest ih =>
    have highLt := high.toNat_lt
    have lowLt := low.toNat_lt
    simp only [wordSum, List.length_cons]
    omega
  | case2 last =>
    have lastLt := last.toNat_lt
    simp only [wordSum, List.length_singleton]
    omega
  | case3 => exact Nat.zero_le _

theorem wordSum_beBytes16 (bounded : value < 65536) : wordSum (Bytes.beBytes16 value) = value := by
  simp only [Bytes.beBytes16, wordSum, UInt8.toNat_ofNat']
  omega

/-- A check field at an even offset adds itself to the sum. -/
theorem wordSum_field {front : Bytes} (even : front.length % 2 = 0) (bounded : check < 65536) (rest : Bytes) :
    wordSum (front ++ (Bytes.beBytes16 check ++ rest)) =
      wordSum (front ++ (Bytes.beBytes16 0 ++ rest)) + check := by
  have width (value : Nat) : (Bytes.beBytes16 value).length % 2 = 0 := by simp [Bytes.beBytes16]
  rw [wordSum_append even, wordSum_append even, wordSum_append (width check), wordSum_append (width 0),
    wordSum_beBytes16 bounded, wordSum_beBytes16 (by decide)]
  omega

theorem fold_lt (bounded : sum < 2 ^ 32) : fold sum < 65536 := by
  simp only [fold, carry]
  omega

/-- Folding keeps the residue modulo 2^16 - 1. -/
theorem fold_modEq (sum : Nat) : fold sum % 65535 = sum % 65535 := by
  simp only [fold, carry]
  omega

theorem fold_pos (positive : 0 < sum) : 0 < fold sum := by
  simp only [fold, carry]
  omega

/-- A nonzero multiple of 2^16 - 1 folds to all ones. -/
theorem fold_eq_ones (bounded : sum < 2 ^ 32) (positive : 0 < sum) (multiple : sum % 65535 = 0) :
    fold sum = 65535 := by
  have below := fold_lt bounded
  have above := fold_pos positive
  have residue := fold_modEq sum
  omega

/-- A sum completed by the complement of its fold; the complement zero may
also be spelled as all ones. -/
theorem fold_complete (bounded : sum < 2 ^ 32 - 65536)
    (field : check = 65535 - fold sum ∨ fold sum = 65535 ∧ check = 65535) :
    fold (sum + check) = 65535 := by
  have below : fold sum < 65536 := fold_lt (by omega)
  have residue := fold_modEq sum
  apply fold_eq_ones
  · omega
  · by_cases empty : sum = 0
    · subst empty
      simp only [fold, carry] at field
      omega
    · omega
  · omega

/-- What a checksum verifies: the word sum modulo 2^16 - 1. -/
def residue (bytes : Bytes) : ZMod 65535 := (wordSum bytes : Nat)

theorem residue_append {first : Bytes} (even : first.length % 2 = 0) (rest : Bytes) :
    residue (first ++ rest) = residue first + residue rest := by
  simp only [residue, wordSum_append even, Nat.cast_add]

/-- Behind an odd prefix every byte is in the other lane. -/
theorem wordSum_append_odd {first : Bytes} (odd : first.length % 2 = 1) (rest : Bytes) :
    wordSum (first ++ rest) = wordSum first + wordSum (0 :: rest) := by
  induction first using wordSum.induct with
  | case1 high low first ih =>
    have shorter : first.length % 2 = 1 := by
      simp only [List.length_cons] at odd
      omega
    simp only [List.cons_append, wordSum, ih shorter, Nat.add_assoc]
  | case2 last =>
    cases rest with
    | nil => simp [wordSum]
    | cons next rest =>
      simp only [List.cons_append, List.nil_append, wordSum, UInt8.toNat_zero, Nat.zero_mul, Nat.zero_add,
        Nat.add_assoc]
  | case3 => simp at odd

theorem residue_append_odd {first : Bytes} (odd : first.length % 2 = 1) (rest : Bytes) :
    residue (first ++ rest) = residue first + residue (0 :: rest) := by
  simp only [residue, wordSum_append_odd odd, Nat.cast_add]

theorem wordSum_zeros (bytes : Bytes) (count : Nat) :
    wordSum (bytes ++ List.replicate count 0) = wordSum bytes := by
  have zeros (width : Nat) : wordSum (List.replicate width 0) = 0 := by
    induction width using Nat.twoStepInduction with
    | zero => rfl
    | one => rfl
    | more width ih _ => simpa [List.replicate_succ, wordSum] using ih
  rcases Nat.mod_two_eq_zero_or_one bytes.length with even | odd
  · rw [wordSum_append even, zeros, Nat.add_zero]
  · rw [wordSum_append_odd odd, ← List.replicate_succ, zeros, Nat.add_zero]

theorem residue_zeros (bytes : Bytes) (count : Nat) :
    residue (bytes ++ List.replicate count 0) = residue bytes := by
  rw [residue, wordSum_zeros, residue]

/-- Whatever follows, an exchange behind an even prefix changes the residue by what was exchanged. -/
theorem residue_exchange {front old new : Bytes} (even : front.length % 2 = 0) (sized : new.length = old.length)
    (rest : Bytes) :
    residue (front ++ (new ++ rest)) = residue (front ++ (old ++ rest)) + (residue new - residue old) := by
  rw [residue_append even, residue_append even]
  rcases Nat.mod_two_eq_zero_or_one old.length with whole | odd
  · rw [residue_append whole, residue_append (by rwa [sized])]
    ring
  · rw [residue_append_odd odd, residue_append_odd (by rwa [sized])]
    ring

/-- A store at an even offset. -/
theorem residue_store {bytes source : Bytes} (even : offset % 2 = 0) (fits : offset + source.length ≤ bytes.length) :
    residue (bytes.store offset source) =
      residue bytes + (residue source - residue (bytes.slice offset source.length)) := by
  have cut : bytes = bytes.take offset ++
      (bytes.slice offset source.length ++ bytes.drop (offset + source.length)) := by
    rw [Bytes.slice, Bytes.take_drop_append, List.take_append_drop]
  have front : (bytes.take offset).length % 2 = 0 := by
    rw [List.length_take, Nat.min_eq_left (by omega)]
    exact even
  have exchanged := residue_exchange front (Bytes.length_slice fits).symm (bytes.drop (offset + source.length))
  rwa [← cut, ← List.append_assoc] at exchanged

theorem cast_fold (sum : Nat) : (fold sum : ZMod 65535) = sum :=
  (ZMod.natCast_eq_natCast_iff' _ _ _).mpr (fold_modEq sum)

theorem residue_beBytes16 (bounded : value < 65536) : residue (Bytes.beBytes16 value) = (value : Nat) := by
  rw [residue, wordSum_beBytes16 bounded]

/-- Swapping the bytes of a word multiplies its residue by 2^8, twice by one. -/
theorem swap_swap (value : ZMod 65535) : 256 * (256 * value) = value := by
  have wrap : (256 * 256 : ZMod 65535) = 1 := rfl
  rw [← mul_assoc, wrap, one_mul]

theorem residue_leBytes (bounded : value < 65536) :
    residue (Bytes.leBytes 2 value) = 256 * (value : ZMod 65535) := by
  have swapped : wordSum (Bytes.leBytes 2 value) = value % 256 * 256 + value / 256 := by
    simp only [Bytes.leBytes, wordSum, UInt8.toNat_ofNat']
    omega
  rw [residue, swapped]
  have joined : (value : ZMod 65535) = (value % 256 + 256 * (value / 256) : Nat) := by
    rw [Nat.mod_add_div]
  rw [joined]
  push_cast
  rw [mul_add, swap_swap]
  ring

/-- A native 16-bit word read from memory. -/
theorem residue_word {word : Bytes} (sized : word.length = 2) :
    residue word = 256 * (Bytes.leNat word : ZMod 65535) := by
  have bounded := Bytes.leNat_lt word
  have back := Bytes.leBytes_leNat word
  rw [sized] at bounded back
  rw [← residue_leBytes bounded, back]

/-- A native 32-bit word is the byte-swapped sum of its two halves. -/
theorem cast_leNat_word (b₀ b₁ b₂ b₃ : UInt8) :
    (Bytes.leNat [b₀, b₁, b₂, b₃] : ZMod 65535) = 256 * residue [b₀, b₁, b₂, b₃] := by
  have wrap : (256 * 256 : ZMod 65535) = 1 := rfl
  simp only [Bytes.leNat, residue, wordSum]
  push_cast
  linear_combination (256 * (b₃.toNat : ZMod 65535) - b₀.toNat) * wrap

end WgMix.OnesComplement
