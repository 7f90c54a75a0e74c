import WgMix.Foundation.Bytes

/-! Text as bytes: decimal numbers and unpadded base64 in the alphabet of URLs. -/
namespace WgMix.Text
open Bytes

def ascii (text : String) : Bytes := text.toList.map fun char => UInt8.ofNat char.toNat

def decimal (value : Nat) : Bytes := ascii (toString value)

def readDecimal (text : Bytes) : Nat := Nat.ofDigitChars 10 (text.map fun byte => Char.ofNat byte.toNat) 0

theorem digit_byte {digit : Char} (member : digit ∈ Nat.toDigits 10 value) :
    (UInt8.ofNat digit.toNat).toNat = digit.toNat ∧ 48 ≤ digit.toNat := by
  have digits := Nat.isDigit_of_mem_toDigits (by decide) (by decide) member
  have bounds : 48 ≤ digit.toNat ∧ digit.toNat ≤ 57 := by
    simpa [Char.isDigit, UInt32.le_iff_toNat_le] using digits
  exact ⟨UInt8.toNat_ofNat_of_lt' (by change _ < 256; omega), bounds.1⟩

theorem readDecimal_decimal (value : Nat) : readDecimal (decimal value) = value := by
  have same : (Nat.toDigits 10 value).map (fun digit => Char.ofNat (UInt8.ofNat digit.toNat).toNat) =
      Nat.toDigits 10 value := by
    refine (List.map_congr_left fun digit member => ?_).trans (List.map_id' _)
    rw [(digit_byte member).1, Char.ofNat_toNat]
  simp only [readDecimal, decimal, ascii, Nat.toString_eq_repr, Nat.toList_repr, List.map_map, Function.comp_def,
    same, Nat.ofDigitChars_ten_toDigits]

theorem decimal_digits (member : byte ∈ decimal value) : 48 ≤ byte.toNat := by
  rw [decimal, ascii, Nat.toString_eq_repr, Nat.toList_repr] at member
  obtain ⟨digit, digits, rfl⟩ := List.mem_map.mp member
  obtain ⟨same, least⟩ := digit_byte digits
  rw [same]
  exact least

def alphabet : Bytes := ascii "ABCDEFGHIJKLMNOPQRSTUVWXYZabcdefghijklmnopqrstuvwxyz0123456789-_"

/-- The last `width` digits to base 64, the most significant one first. -/
def letters : Nat → Nat → Bytes
  | 0, _ => []
  | width + 1, value => letters width (value / 64) ++ [alphabet.getD (value % 64) 0]

def readLetters (text : Bytes) : Nat := text.foldl (fun value letter => value * 64 + alphabet.idxOf letter) 0

@[simp] theorem length_letters (width value : Nat) : (letters width value).length = width := by
  induction width generalizing value with
  | zero => rfl
  | succ width ih => simp only [letters, List.length_append, ih, List.length_singleton]

theorem readLetters_letters (width value : Nat) : readLetters (letters width value) = value % 64 ^ width := by
  induction width generalizing value with
  | zero =>
    rw [pow_zero, Nat.mod_one]
    rfl
  | succ width ih =>
    have place : ∀ digit < 64, alphabet.idxOf (alphabet.getD digit 0) = digit := by decide +kernel
    rw [readLetters, letters, List.foldl_append, ← readLetters, ih, List.foldl_cons, List.foldl_nil,
      place _ (Nat.mod_lt _ (by decide)), pow_succ', Nat.mod_mul]
    omega

theorem letters_dotless (width value : Nat) : 46 ∉ letters width value := by
  induction width generalizing value with
  | zero => exact List.not_mem_nil
  | succ width ih =>
    have other : ∀ digit < 64, 46 ≠ alphabet.getD digit 0 := by decide +kernel
    intro dot
    rcases List.mem_append.mp dot with early | last
    · exact ih _ early
    · exact other _ (Nat.mod_lt _ (by decide)) (List.mem_singleton.mp last)

/-- The bits of the bytes in groups of six, with zeros behind the last one. -/
def encode64 (data : Bytes) : Bytes :=
  let width := (data.length * 8 + 5) / 6
  letters width (leNat data.reverse * 2 ^ (width * 6 - data.length * 8))

/-- Accepts what `encode64` writes. -/
def decode64 (text : Bytes) : Option Bytes :=
  let width := text.length * 6 / 8
  let data := (leBytes width (readLetters text / 2 ^ (text.length * 6 - width * 8))).reverse
  if encode64 data = text then some data else none

theorem decode64_encode64 (data : Bytes) : decode64 (encode64 data) = some data := by
  obtain ⟨width, counted⟩ : ∃ width, width = (data.length * 8 + 5) / 6 := ⟨_, rfl⟩
  have bytes : width * 6 / 8 = data.length := by omega
  have fits : leNat data.reverse * 2 ^ (width * 6 - data.length * 8) < 64 ^ width := by
    have bound := leNat_lt data.reverse
    rw [List.length_reverse] at bound
    calc leNat data.reverse * 2 ^ (width * 6 - data.length * 8)
        < 256 ^ data.length * 2 ^ (width * 6 - data.length * 8) := Nat.mul_lt_mul_of_pos_right bound (by positivity)
      _ = 2 ^ (data.length * 8 + (width * 6 - data.length * 8)) := by rw [pow_add, mul_comm data.length, pow_mul]; rfl
      _ = 64 ^ width := by rw [Nat.add_sub_of_le (by omega), mul_comm, pow_mul]; rfl
  have written : leBytes data.length (leNat data.reverse) = data.reverse := by
    simpa only [List.length_reverse] using leBytes_leNat data.reverse
  have encoded : encode64 data = letters width (leNat data.reverse * 2 ^ (width * 6 - data.length * 8)) := by
    rw [encode64, ← counted]
  simp only [decode64, encoded, length_letters, bytes, readLetters_letters, Nat.mod_eq_of_lt fits,
    Nat.mul_div_cancel _ (Nat.two_pow_pos _), written, List.reverse_reverse, if_true]

end WgMix.Text
