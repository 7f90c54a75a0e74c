import WgMix.Foundation.Keystream

/-! Updates of a byte string that stay within an interval, and reads that do not meet it. -/
namespace WgMix.Bytes
variable {before middle after bytes source : Bytes}

/-- The two strings are equally long and agree outside of the interval. -/
structure Confined (first last : Nat) (before after : Bytes) : Prop where
  length : after.length = before.length
  outside : ∀ i, i < first ∨ last ≤ i → after[i]? = before[i]?

namespace Confined

theorem refl (first last : Nat) (bytes : Bytes) : Confined first last bytes bytes := ⟨rfl, fun _ _ => rfl⟩

theorem mono (confined : Confined first last before after) (lower : least ≤ first) (upper : last ≤ most) :
    Confined least most before after :=
  ⟨confined.length, fun i apart => confined.outside i (by omega)⟩

theorem trans (one : Confined first last before middle) (two : Confined first last middle after) :
    Confined first last before after :=
  ⟨two.length.trans one.length, fun i apart => (two.outside i apart).trans (one.outside i apart)⟩

theorem store (fits : offset + source.length ≤ bytes.length) :
    Confined offset (offset + source.length) bytes (bytes.store offset source) := by
  refine ⟨length_store fits, fun i apart => ?_⟩
  rw [getElem?_store fits, if_neg (by omega)]

theorem byteAt (confined : Confined first last before after) (apart : i < first ∨ last ≤ i) :
    after.byteAt i = before.byteAt i := by
  simp only [Bytes.byteAt, List.getD_eq_getElem?_getD, confined.outside i apart]

theorem be16 (confined : Confined first last before after) (apart : i + 2 ≤ first ∨ last ≤ i) :
    after.be16 i = before.be16 i := by
  simp only [Bytes.be16]
  rw [confined.byteAt (by omega), confined.byteAt (by omega)]

theorem slice (confined : Confined first last before after) (apart : i + width ≤ first ∨ last ≤ i) :
    after.slice i width = before.slice i width := by
  apply List.ext_getElem?
  intro index
  rw [getElem?_slice, getElem?_slice]
  split
  · exact confined.outside _ (by omega)
  · rfl

theorem le32 (confined : Confined first last before after) (apart : i + 4 ≤ first ∨ last ≤ i) :
    after.le32 i = before.le32 i := by
  simp only [Bytes.le32, confined.slice apart]

end Confined

theorem byteAt_store (fits : offset + source.length ≤ bytes.length) (within : index < source.length) :
    (bytes.store offset source).byteAt (offset + index) = source.byteAt index := by
  simp only [byteAt, List.getD_eq_getElem?_getD]
  rw [getElem?_store fits, if_pos (by omega), Nat.add_sub_cancel_left]

theorem slice_store (fits : offset + source.length ≤ bytes.length) :
    (bytes.store offset source).slice offset source.length = source := by
  apply List.ext_getElem?
  intro index
  rw [getElem?_slice, getElem?_store fits]
  by_cases inside : index < source.length
  · rw [if_pos inside, if_pos (by omega), Nat.add_sub_cancel_left]
  · rw [if_neg inside, List.getElem?_eq_none (by omega)]

theorem be16_store (fits : offset + source.length ≤ bytes.length) (within : index + 1 < source.length) :
    (bytes.store offset source).be16 (offset + index) = source.be16 index := by
  simp only [be16]
  rw [byteAt_store fits (by omega), Nat.add_assoc, byteAt_store fits within]

end WgMix.Bytes
