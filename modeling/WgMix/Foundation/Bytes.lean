import Mathlib.Data.List.Basic
import Mathlib.Tactic.Linarith
import Mathlib.Tactic.Ring

/-! Byte strings with fixed-width little- and big-endian words, slices and
in-place stores. Reads past the end are zero, so every bound that a program
checks stays a fact about the program and not about the access. -/
namespace WgMix

abbrev Bytes := List UInt8

namespace Bytes

/-- Exhaustion over the 256 byte values. -/
theorem forall_byte {P : UInt8 → Prop} (all : ∀ value : Fin 256, P (UInt8.ofFin value))
    (byte : UInt8) : P byte := by
  simpa only [UInt8.ofFin_toFin] using all byte.toFin

def byteAt (bytes : Bytes) (offset : Nat) : UInt8 := bytes.getD offset 0

def slice (bytes : Bytes) (offset width : Nat) : Bytes := (bytes.drop offset).take width

/-- Overwrite in place; the caller has checked that the source fits. -/
def store (bytes : Bytes) (offset : Nat) (source : Bytes) : Bytes :=
  bytes.take offset ++ source ++ bytes.drop (offset + source.length)

/-- Least significant byte first. -/
def leNat : Bytes → Nat
  | [] => 0
  | byte :: rest => byte.toNat + 256 * leNat rest

def leBytes : Nat → Nat → Bytes
  | 0, _ => []
  | width + 1, value => UInt8.ofNat (value % 256) :: leBytes width (value / 256)

/-- Network order, most significant byte first. -/
def be16 (bytes : Bytes) (offset : Nat) : Nat :=
  (byteAt bytes offset).toNat * 256 + (byteAt bytes (offset + 1)).toNat

def be32 (bytes : Bytes) (offset : Nat) : Nat :=
  be16 bytes offset * 65536 + be16 bytes (offset + 2)

def beBytes16 (value : Nat) : Bytes :=
  [UInt8.ofNat (value / 256 % 256), UInt8.ofNat (value % 256)]

def beBytes32 (value : Nat) : Bytes := beBytes16 (value / 65536) ++ beBytes16 (value % 65536)

def le16 (bytes : Bytes) (offset : Nat) : UInt16 := UInt16.ofNat (leNat (slice bytes offset 2))
def le32 (bytes : Bytes) (offset : Nat) : UInt32 := UInt32.ofNat (leNat (slice bytes offset 4))
def le64 (bytes : Bytes) (offset : Nat) : UInt64 := UInt64.ofNat (leNat (slice bytes offset 8))

@[simp] theorem length_leBytes (width value : Nat) : (leBytes width value).length = width := by
  induction width generalizing value with
  | zero => rfl
  | succ width ih => simp only [leBytes, List.length_cons, ih]

theorem leNat_leBytes (width value : Nat) : leNat (leBytes width value) = value % 256 ^ width := by
  induction width generalizing value with
  | zero => simp only [leBytes, leNat, pow_zero, Nat.mod_one]
  | succ width ih =>
    have digit : (UInt8.ofNat (value % 256)).toNat = value % 256 := by
      simp only [UInt8.toNat_ofNat', Nat.reducePow, Nat.mod_mod]
    rw [leBytes, leNat, ih, digit, pow_succ', Nat.mod_mul]

theorem leNat_lt (bytes : Bytes) : leNat bytes < 256 ^ bytes.length := by
  induction bytes with
  | nil => simp only [leNat, List.length_nil, pow_zero, Nat.lt_one_iff]
  | cons byte rest ih =>
    have digit := byte.toNat_lt
    rw [leNat, List.length_cons, pow_succ']
    omega

theorem leBytes_leNat (bytes : Bytes) : leBytes bytes.length (leNat bytes) = bytes := by
  induction bytes with
  | nil => rfl
  | cons byte rest ih =>
    have digit := byte.toNat_lt
    have low : (byte.toNat + 256 * leNat rest) % 256 = byte.toNat := by omega
    have high : (byte.toNat + 256 * leNat rest) / 256 = leNat rest := by omega
    rw [leNat, List.length_cons, leBytes, low, high, ih, UInt8.ofNat_toNat]

theorem be16_lt (bytes : Bytes) (offset : Nat) : be16 bytes offset < 65536 := by
  have high := (byteAt bytes offset).toNat_lt
  have low := (byteAt bytes (offset + 1)).toNat_lt
  simp only [be16]
  omega

theorem be32_lt (bytes : Bytes) (offset : Nat) : be32 bytes offset < 2 ^ 32 := by
  have high := be16_lt bytes offset
  have low := be16_lt bytes (offset + 2)
  simp only [be32]
  omega

theorem slice_skip {first rest : Bytes} (past : first.length ≤ offset) :
    slice (first ++ rest) offset width = slice rest (offset - first.length) width := by
  simp only [slice, List.drop_append, List.drop_eq_nil_of_le past, List.nil_append]

theorem slice_here {first rest : Bytes} (sized : first.length = width) :
    slice (first ++ rest) 0 width = first := by
  simp only [slice, List.drop_zero, ← sized, List.take_left]

theorem slice_all {first : Bytes} (sized : first.length = width) : slice first 0 width = first := by
  simp only [slice, List.drop_zero, ← sized, List.take_length]

theorem byteAt_skip {first rest : Bytes} (past : first.length ≤ offset) :
    byteAt (first ++ rest) offset = byteAt rest (offset - first.length) := by
  simp only [byteAt, List.getD_eq_getElem?_getD, List.getElem?_append_right past]

theorem byteAt_here {first rest : Bytes} (within : offset < first.length) :
    byteAt (first ++ rest) offset = byteAt first offset := by
  simp only [byteAt, List.getD_eq_getElem?_getD, List.getElem?_append_left within]

theorem be16_skip {first rest : Bytes} (past : first.length ≤ offset) :
    be16 (first ++ rest) offset = be16 rest (offset - first.length) := by
  rw [be16, byteAt_skip past, byteAt_skip (Nat.le_succ_of_le past), Nat.succ_sub past, be16]

theorem be16_here {first rest : Bytes} (within : offset + 1 < first.length) :
    be16 (first ++ rest) offset = be16 first offset := by
  rw [be16, byteAt_here (Nat.lt_of_succ_lt within), byteAt_here within, be16]

theorem byteAt_take {bytes : Bytes} (within : offset < length) :
    byteAt (bytes.take length) offset = byteAt bytes offset := by
  simp only [byteAt, List.getD_eq_getElem?_getD, List.getElem?_take_of_lt within]

theorem be16_take {bytes : Bytes} (within : offset + 1 < length) :
    be16 (bytes.take length) offset = be16 bytes offset := by
  rw [be16, byteAt_take (Nat.lt_of_succ_lt within), byteAt_take within, be16]

theorem be16_beBytes16 (bounded : value < 65536) (rest : Bytes) : be16 (beBytes16 value ++ rest) 0 = value := by
  simp only [be16, beBytes16, byteAt, List.cons_append, List.getD_cons_zero, List.getD_cons_succ,
    UInt8.toNat_ofNat']
  omega

/-- Two bytes are their own big-endian word. -/
theorem beBytes16_be16 {word : Bytes} (sized : word.length = 2) : beBytes16 (be16 word 0) = word := by
  match word, sized with
  | [high, low], _ =>
    have highLt := high.toNat_lt
    have lowLt := low.toNat_lt
    have first : (high.toNat * 256 + low.toNat) / 256 % 256 = high.toNat := by omega
    have second : (high.toNat * 256 + low.toNat) % 256 = low.toNat := by omega
    simp only [beBytes16, be16, byteAt, List.getD_cons_zero, List.getD_cons_succ, first, second, UInt8.ofNat_toNat]

/-- Accesses that fail outside of the bytes. -/
def read8 (bytes : Bytes) (offset : Nat) : Option UInt8 :=
  if offset < bytes.length then some (byteAt bytes offset) else none

def read16 (bytes : Bytes) (offset : Nat) : Option Nat :=
  if offset + 2 ≤ bytes.length then some (be16 bytes offset) else none

theorem read8_bind {bytes : Bytes} (within : offset < bytes.length) (next : UInt8 → Option α) :
    (read8 bytes offset).bind next = next (byteAt bytes offset) := by
  rw [read8, if_pos within, Option.bind_some]

theorem read16_bind {bytes : Bytes} (within : offset + 2 ≤ bytes.length) (next : Nat → Option α) :
    (read16 bytes offset).bind next = next (be16 bytes offset) := by
  rw [read16, if_pos within, Option.bind_some]

/-- What a cut at `start + width` leaves of the bytes from `start` on. -/
theorem take_drop_append (bytes : Bytes) (start width : Nat) :
    (bytes.drop start).take width ++ bytes.drop (start + width) = bytes.drop start := by
  rw [← List.drop_drop, List.take_append_drop]

theorem slice_add (bytes : Bytes) (offset first second : Nat) :
    bytes.slice offset (first + second) = bytes.slice offset first ++ bytes.slice (offset + first) second := by
  simp only [slice, List.take_add, List.drop_drop]

theorem length_slice {bytes : Bytes} (within : offset + width ≤ bytes.length) :
    (bytes.slice offset width).length = width := by
  simp only [slice, List.length_take, List.length_drop]
  omega

/-- A part of a slice is a slice of the whole. -/
theorem slice_slice (bytes : Bytes) {skip : Nat} (within : skip + narrow ≤ width) :
    (bytes.slice offset width).slice skip narrow = bytes.slice (offset + skip) narrow := by
  simp only [slice, List.drop_take, List.drop_drop, List.take_take]
  rw [Nat.min_eq_left (by omega)]

theorem slice_take {bytes : Bytes} (within : offset + width ≤ length) :
    slice (bytes.take length) offset width = slice bytes offset width := by
  rw [slice, slice, List.drop_take, List.take_take, Nat.min_eq_left (by omega)]

theorem le32_take {bytes : Bytes} (within : offset + 4 ≤ length) :
    le32 (bytes.take length) offset = le32 bytes offset := by
  simp only [le32, slice_take within]

theorem byteAt_slice {bytes : Bytes} (within : index < width) :
    (bytes.slice offset width).byteAt index = bytes.byteAt (offset + index) := by
  simp only [byteAt, slice, List.getD_eq_getElem?_getD, List.getElem?_take, List.getElem?_drop, if_pos within]

theorem byteAt_drop (bytes : Bytes) (start offset : Nat) :
    byteAt (bytes.drop start) offset = byteAt bytes (start + offset) := by
  simp only [byteAt, List.getD_eq_getElem?_getD, List.getElem?_drop]

theorem be16_drop (bytes : Bytes) (start offset : Nat) :
    be16 (bytes.drop start) offset = be16 bytes (start + offset) := by
  rw [be16, be16, byteAt_drop, byteAt_drop, Nat.add_assoc]

theorem be32_drop (bytes : Bytes) (start offset : Nat) :
    be32 (bytes.drop start) offset = be32 bytes (start + offset) := by
  rw [be32, be32, be16_drop, be16_drop, Nat.add_assoc]

/-- A zero word is zero in either byte order. -/
theorem be16_of_le16 {bytes : Bytes} (within : offset + 2 ≤ bytes.length) (zero : le16 bytes offset = 0) :
    be16 bytes offset = 0 := by
  have first : byteAt (slice bytes offset 2) 0 = byteAt bytes offset := byteAt_slice (by omega)
  have second : byteAt (slice bytes offset 2) 1 = byteAt bytes (offset + 1) := byteAt_slice (by omega)
  have sized := length_slice within
  rw [le16] at zero
  match cut : slice bytes offset 2, sized with
  | [low, high], _ =>
    rw [cut] at first second zero
    have value := congrArg UInt16.toNat zero
    have lowLt := low.toNat_lt
    have highLt := high.toNat_lt
    simp only [leNat, UInt16.toNat_ofNat', UInt16.toNat_zero] at value
    rw [be16, ← first, ← second]
    simp only [byteAt, List.getD_cons_zero, List.getD_cons_succ]
    omega

theorem be16_slice {bytes : Bytes} (within : index + 1 < width) :
    be16 (slice bytes offset width) index = be16 bytes (offset + index) := by
  rw [be16, be16, byteAt_slice (by omega), byteAt_slice within, Nat.add_assoc]

theorem le32_slice {bytes : Bytes} (within : index + 4 ≤ width) :
    le32 (slice bytes offset width) index = le32 bytes (offset + index) := by
  rw [le32, le32, slice_slice bytes within]

theorem length_store {bytes source : Bytes} (fits : offset + source.length ≤ bytes.length) :
    (store bytes offset source).length = bytes.length := by
  simp only [store, List.length_append, List.length_take, List.length_drop]
  omega

theorem store_append {first old source rest : Bytes} (here : first.length = offset)
    (sized : source.length = old.length) :
    store (first ++ (old ++ rest)) offset source = first ++ (source ++ rest) := by
  subst here
  have skipped : (first ++ (old ++ rest)).drop (first.length + source.length) = rest := by
    rw [sized, ← List.append_assoc, ← List.length_append, List.drop_left]
  simp only [store, List.take_left, skipped, List.append_assoc]

end Bytes

/-- A C or Go array of exactly `width` bytes. -/
abbrev FixedBytes (width : Nat) := { bytes : Bytes // bytes.length = width }

namespace FixedBytes

def zero (width : Nat) : FixedBytes width := ⟨List.replicate width 0, List.length_replicate⟩

def fill (width : Nat) (byte : UInt8) : FixedBytes width := ⟨List.replicate width byte, List.length_replicate⟩

/-- Read an array out of a buffer, padding a short buffer with zeros. -/
def ofSlice (bytes : Bytes) (offset width : Nat) : FixedBytes width :=
  ⟨(bytes.slice offset width ++ List.replicate width 0).take width, by
    simp only [List.length_take, List.length_append, List.length_replicate]
    omega⟩

/-- The accumulated `or` by which the programs test an array for zero. -/
def aggregate (bytes : FixedBytes width) : UInt8 := bytes.val.foldl (· ||| ·) 0

/-- The accumulated `or` of byte differences by which they compare arrays. -/
def difference (left right : FixedBytes width) : UInt8 :=
  (List.zipWith (· ^^^ ·) left.val right.val).foldl (· ||| ·) 0

theorem ofSlice_eq (bytes : Bytes) (array : FixedBytes width)
    (read : bytes.slice offset width = array.val) : ofSlice bytes offset width = array := by
  apply Subtype.ext
  simp only [ofSlice, read, List.take_append_of_le_length (Nat.le_of_eq array.2.symm)]
  exact List.take_of_length_le (Nat.le_of_eq array.2)

theorem ofSlice_skip {first rest : Bytes} (past : first.length ≤ offset) :
    ofSlice (first ++ rest) offset width = ofSlice rest (offset - first.length) width := by
  simp only [ofSlice, Bytes.slice_skip past]

theorem ofSlice_here (array : FixedBytes width) (rest : Bytes) :
    ofSlice (array.val ++ rest) 0 width = array :=
  ofSlice_eq _ array (Bytes.slice_here array.2)

theorem foldl_or_eq_zero (bytes : Bytes) (start : UInt8) :
    bytes.foldl (· ||| ·) start = 0 ↔ start = 0 ∧ ∀ byte ∈ bytes, byte = 0 := by
  induction bytes generalizing start with
  | nil => simp
  | cons byte rest ih =>
    rw [List.foldl_cons, ih, UInt8.or_eq_zero_iff]
    simp only [List.mem_cons, forall_eq_or_imp, and_assoc]

theorem aggregate_eq_zero (bytes : FixedBytes width) : bytes.aggregate = 0 ↔ bytes = zero width := by
  rw [aggregate, foldl_or_eq_zero, Subtype.ext_iff]
  simp only [true_and, zero]
  exact ⟨fun all => List.eq_replicate_iff.mpr ⟨bytes.2, all⟩,
    fun same => (List.eq_replicate_iff.mp same).2⟩

theorem zipWith_xor_zero {left right : Bytes} (same : left.length = right.length) :
    (∀ byte ∈ List.zipWith (· ^^^ ·) left right, byte = (0 : UInt8)) ↔ left = right := by
  induction left generalizing right with
  | nil =>
    have empty : right = [] := List.eq_nil_of_length_eq_zero (by simpa using same.symm)
    simp [empty]
  | cons byte rest ih =>
    cases right with
    | nil => simp at same
    | cons other tail =>
      simp only [List.length_cons, Nat.add_right_cancel_iff] at same
      simp only [List.zipWith_cons_cons, List.mem_cons, forall_eq_or_imp, ih same,
        UInt8.xor_eq_zero_iff, List.cons.injEq]

theorem difference_eq_zero (left right : FixedBytes width) :
    left.difference right = 0 ↔ left = right := by
  rw [difference, foldl_or_eq_zero, zipWith_xor_zero (left.2.trans right.2.symm), Subtype.ext_iff]
  simp only [true_and]

end FixedBytes

end WgMix
