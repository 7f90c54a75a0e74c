import Mathlib.Data.List.Basic

/-! Numbers that keep a distance from one another: few of them fit into an interval. -/
namespace WgMix

/-- The newest first, each at least a gap above all that are older. -/
def Spaced (gap : Nat) (numbers : List Nat) : Prop := numbers.Pairwise fun newer older => older + gap ≤ newer

namespace Spaced

theorem span (spaced : Spaced gap (newest :: older)) (above : ∀ number ∈ newest :: older, low ≤ number) :
    low + older.length * gap ≤ newest := by
  induction older generalizing newest with
  | nil =>
    have := above newest List.mem_cons_self
    simp only [List.length_nil, Nat.zero_mul, Nat.add_zero]
    exact this
  | cons next rest ih =>
    obtain ⟨apart, later⟩ := List.pairwise_cons.mp spaced
    have reach := ih later fun number member => above number (List.mem_cons_of_mem _ member)
    have gapped := apart next List.mem_cons_self
    rw [List.length_cons, Nat.succ_mul]
    omega

/-- How many fit into an interval. -/
theorem length_le (spaced : Spaced gap numbers) (positive : 0 < gap)
    (within : ∀ number ∈ numbers, low ≤ number ∧ number ≤ low + width) : numbers.length ≤ width / gap + 1 := by
  cases numbers with
  | nil => exact Nat.zero_le _
  | cons newest older =>
    have reach := spaced.span fun number member => (within number member).1
    have top := (within newest List.mem_cons_self).2
    have fits : older.length * gap ≤ width := by omega
    rw [List.length_cons]
    exact Nat.succ_le_succ ((Nat.le_div_iff_mul_le positive).mpr fits)

end Spaced
end WgMix
