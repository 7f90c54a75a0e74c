import WgMix.Foundation.Bytes

/-! A keystream applied to a window of a byte string. Masking adjacent windows
one after the other masks their union, so a loop over chunks of any size is one
mask. -/
namespace WgMix.Bytes

/-- Byte `i` of the window `[first, last)` is combined with byte `i` of the keystream. -/
def mask (keystream : Nat → UInt8) (first last : Nat) (bytes : Bytes) : Bytes :=
  bytes.mapIdx fun i byte => if first ≤ i ∧ i < last then byte ^^^ keystream i else byte

variable {keystream : Nat → UInt8} {bytes : Bytes}

@[simp] theorem length_mask : (mask keystream first last bytes).length = bytes.length := by
  simp only [mask, List.length_mapIdx]

theorem getElem?_mask (i : Nat) : (mask keystream first last bytes)[i]? =
    bytes[i]?.map fun byte => if first ≤ i ∧ i < last then byte ^^^ keystream i else byte := by
  simp only [mask, List.getElem?_mapIdx]

theorem mask_empty : mask keystream first first bytes = bytes := by
  apply List.ext_getElem?
  intro i
  have outside : ¬(first ≤ i ∧ i < first) := by omega
  simp only [getElem?_mask, if_neg outside, Option.map_id']

theorem mask_mask (before : first ≤ middle) (after : middle ≤ last) :
    mask keystream middle last (mask keystream first middle bytes) = mask keystream first last bytes := by
  apply List.ext_getElem?
  intro i
  simp only [getElem?_mask, Option.map_map]
  cases bytes[i]? with
  | none => rfl
  | some byte =>
    simp only [Option.map_some, Function.comp_apply, Option.some_inj]
    by_cases low : i < middle
    · have inFirst : (first ≤ i ∧ i < last) ↔ (first ≤ i ∧ i < middle) := by omega
      rw [if_neg (by omega : ¬(middle ≤ i ∧ i < last))]
      simp only [inFirst]
    · have inSecond : (first ≤ i ∧ i < last) ↔ (middle ≤ i ∧ i < last) := by omega
      rw [if_neg (by omega : ¬(first ≤ i ∧ i < middle))]
      simp only [inSecond]

theorem getElem?_store {source : Bytes} (fits : offset + source.length ≤ bytes.length) (i : Nat) :
    (store bytes offset source)[i]? =
      if offset ≤ i ∧ i < offset + source.length then source[i - offset]? else bytes[i]? := by
  have taken : (bytes.take offset).length = offset := by
    rw [List.length_take]
    omega
  simp only [store, List.append_assoc]
  by_cases low : i < offset
  · rw [List.getElem?_append_left (by omega), List.getElem?_take_of_lt low,
      if_neg (by omega : ¬(offset ≤ i ∧ i < offset + source.length))]
  · rw [List.getElem?_append_right (by omega), taken]
    by_cases inside : i < offset + source.length
    · rw [List.getElem?_append_left (by omega), if_pos ⟨by omega, inside⟩]
    · rw [List.getElem?_append_right (by omega), List.getElem?_drop, if_neg (by omega)]
      congr 1
      omega

theorem getElem?_slice (bytes : Bytes) (offset width i : Nat) :
    (slice bytes offset width)[i]? = if i < width then bytes[offset + i]? else none := by
  by_cases inside : i < width
  · rw [if_pos inside, slice, List.getElem?_take_of_lt inside, List.getElem?_drop]
  · rw [if_neg inside, slice, List.getElem?_take_eq_none (by omega)]

/-- Writing back the combination of a chunk with its keystream masks the chunk. -/
theorem store_combined {combined : Bytes} (fits : offset + width ≤ bytes.length)
    (each : combined = (slice bytes offset width).mapIdx fun i byte => byte ^^^ keystream (offset + i)) :
    store bytes offset combined = mask keystream offset (offset + width) bytes := by
  have sized : combined.length = width := by
    rw [each, List.length_mapIdx, length_slice fits]
  apply List.ext_getElem?
  intro i
  rw [getElem?_store (by omega), getElem?_mask, sized]
  by_cases inside : offset ≤ i ∧ i < offset + width
  · have back : offset + (i - offset) = i := by omega
    simp only [if_pos inside, each, List.getElem?_mapIdx, getElem?_slice,
      if_pos (by omega : i - offset < width), back]
  · simp only [if_neg inside, Option.map_id']

/-- A store behind a point is a store into what follows the point. -/
theorem drop_store {source : Bytes} (fits : point + offset + source.length ≤ bytes.length) :
    (store bytes (point + offset) source).drop point = store (bytes.drop point) offset source := by
  apply List.ext_getElem?
  intro i
  have inside : (point + offset ≤ point + i ∧ point + i < point + offset + source.length) ↔
      (offset ≤ i ∧ i < offset + source.length) := by omega
  have back : point + i - (point + offset) = i - offset := by omega
  rw [List.getElem?_drop, getElem?_store fits,
    getElem?_store (by rw [List.length_drop]; omega), List.getElem?_drop]
  simp only [inside, back]

/-- A window behind a point is a window of what follows the point. -/
theorem drop_mask : (mask (fun i => keystream (i - point)) (point + first) (point + last) bytes).drop point =
    mask keystream first last (bytes.drop point) := by
  apply List.ext_getElem?
  intro i
  have inside : (point + first ≤ point + i ∧ point + i < point + last) ↔ (first ≤ i ∧ i < last) := by omega
  have back : point + i - point = i := by omega
  rw [List.getElem?_drop, getElem?_mask, getElem?_mask, List.getElem?_drop]
  simp only [inside, back]

theorem take_mask (before : point ≤ first) : (mask keystream first last bytes).take point = bytes.take point := by
  apply List.ext_getElem?
  intro i
  by_cases low : i < point
  · rw [List.getElem?_take_of_lt low, List.getElem?_take_of_lt low, getElem?_mask]
    simp only [if_neg (by omega : ¬(first ≤ i ∧ i < last)), Option.map_id']
  · rw [List.getElem?_take_eq_none (by omega), List.getElem?_take_eq_none (by omega)]

/-- A store inside a slice is a store into the slice. -/
theorem store_inside {source : Bytes} (inside : offset + source.length ≤ width)
    (fits : start + offset + source.length ≤ bytes.length) :
    slice (store bytes (start + offset) source) start width = store (slice bytes start width) offset source := by
  have room : offset + source.length ≤ (slice bytes start width).length := by
    simp only [slice, List.length_take, List.length_drop]
    omega
  apply List.ext_getElem?
  intro i
  rw [getElem?_slice, getElem?_store fits, getElem?_store room, getElem?_slice]
  by_cases here : i < width
  · have same : (start + offset ≤ start + i ∧ start + i < start + offset + source.length) ↔
        (offset ≤ i ∧ i < offset + source.length) := by omega
    have back : start + i - (start + offset) = i - offset := by omega
    simp only [if_pos here, same, back]
  · rw [if_neg here, if_neg here, if_neg (by omega)]

/-- And leaves what precedes it alone. -/
theorem take_store {source : Bytes} (fits : point + offset + source.length ≤ bytes.length) :
    (store bytes (point + offset) source).take point = bytes.take point := by
  have reaches : point ≤ (bytes.take (point + offset)).length := by
    rw [List.length_take]
    omega
  rw [store, List.append_assoc, List.take_append_of_le_length reaches, List.take_take,
    Nat.min_eq_left (Nat.le_add_right _ _)]

/-- A store before a point leaves what follows alone. -/
theorem drop_store_before {source : Bytes} (before : offset + source.length ≤ point)
    (fits : offset + source.length ≤ bytes.length) : (store bytes offset source).drop point = bytes.drop point := by
  apply List.ext_getElem?
  intro i
  rw [List.getElem?_drop, getElem?_store fits, List.getElem?_drop,
    if_neg (by omega : ¬(offset ≤ point + i ∧ point + i < offset + source.length))]

end WgMix.Bytes
