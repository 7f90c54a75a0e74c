import Mathlib.Data.List.Basic

/-! Grants that are paid from a credit which grows by one in every interval, up to a burst. The mark is
the time up to which growth is accounted for: refilling and paying never let the credit, measured in
time, run ahead of the mark. -/
namespace WgMix

/-- The last element of a list that counts. -/
theorem exists_last_counted {counts : α → Bool} {items : List α} (some_ : 0 < items.countP counts) :
    ∃ index item, items[index]? = some item ∧ counts item = true ∧ items.countP counts ≤ index + 1 := by
  induction items with
  | nil => simp at some_
  | cons first rest ih =>
    rw [List.countP_cons] at some_ ⊢
    by_cases later : 0 < rest.countP counts
    · obtain ⟨index, item, found, counted, bound⟩ := ih later
      refine ⟨index + 1, item, found, counted, ?_⟩
      split_ifs <;> omega
    · have here : counts first = true := by
        by_contra other
        rw [if_neg other] at some_
        omega
      refine ⟨0, first, rfl, here, ?_⟩
      rw [if_pos here]
      omega

/-- The first element of a list that counts. -/
theorem exists_first_counted {counts : α → Bool} {items : List α} (some_ : 0 < items.countP counts) :
    ∃ index item, items[index]? = some item ∧ counts item = true ∧
      items.countP counts ≤ items.length - index := by
  induction items with
  | nil => simp at some_
  | cons first rest ih =>
    by_cases here : counts first = true
    · exact ⟨0, first, rfl, here, List.countP_le_length⟩
    · rw [List.countP_cons_of_neg here] at some_ ⊢
      obtain ⟨index, item, found, counted, bound⟩ := ih some_
      refine ⟨index + 1, item, found, counted, ?_⟩
      rw [List.length_cons]
      omega

/-- The credit with the times of the grants so far, the newest first. -/
structure Credit (interval burst epoch tokens mark : Nat) (grants : List Nat) : Prop where
  within : tokens ≤ burst
  owed : ∀ (index time : Nat), grants[index]? = some time →
    tokens * interval + index * interval + time + 1 ≤ burst * interval + mark
  apart : ∀ (index distance newer older : Nat), grants[index]? = some newer →
    grants[index + distance]? = some older → distance * interval + older + 1 ≤ burst * interval + newer
  earned : tokens * interval + grants.length * interval + epoch ≤ mark
  paced : ∀ (index time : Nat), grants[index]? = some time → (grants.length - index) * interval + epoch ≤ time

namespace Credit

theorem start (interval burst epoch : Nat) : Credit interval burst epoch 0 epoch [] where
  within := Nat.zero_le _
  owed := by simp
  apart := by simp
  earned := by simp
  paced := by simp

/-- Growth by less than what the mark moves on. -/
theorem refill (credit : Credit interval burst epoch tokens mark grants) (bounded : more ≤ burst)
    (grows : more * interval + mark ≤ tokens * interval + later) :
    Credit interval burst epoch more later grants where
  within := bounded
  owed := by
    intro index time found
    have before := credit.owed index time found
    omega
  apart := credit.apart
  earned := by
    have before := credit.earned
    omega
  paced := credit.paced

/-- A grant at a time for which all growth is accounted for. -/
theorem grant (credit : Credit interval burst epoch (tokens + 1) mark grants) (reached : mark ≤ time)
    (recent : time < mark + interval) : Credit interval burst epoch tokens mark (time :: grants) := by
  have expand : (tokens + 1) * interval = tokens * interval + interval := Nat.succ_mul tokens interval
  have room : tokens * interval + interval ≤ burst * interval := by
    rw [← expand]
    exact Nat.mul_le_mul_right interval credit.within
  constructor
  case within => exact Nat.le_of_succ_le credit.within
  case owed =>
    rintro (_ | index) other found
    · cases found
      omega
    · have before := credit.owed index other found
      rw [expand] at before
      rw [Nat.succ_mul]
      omega
  case apart =>
    rintro (_ | index) distance newer older first second
    · cases first
      cases distance with
      | zero =>
        cases second
        omega
      | succ distance =>
        rw [Nat.zero_add] at second
        have before := credit.owed distance older second
        rw [expand] at before
        rw [Nat.succ_mul]
        omega
    · refine credit.apart index distance newer older first ?_
      rwa [Nat.succ_add] at second
  case earned =>
    have before := credit.earned
    rw [expand] at before
    rw [List.length_cons, Nat.succ_mul]
    omega
  case paced =>
    rintro (_ | index) other found
    · cases found
      have before := credit.earned
      rw [expand] at before
      rw [List.length_cons, Nat.sub_zero, Nat.succ_mul]
      omega
    · rw [List.length_cons, Nat.succ_sub_succ]
      exact credit.paced index other found

theorem window_of_apart {interval reserve : Nat} {grants : List Nat}
    (apart : ∀ (index distance newer older : Nat), grants[index]? = some newer →
      grants[index + distance]? = some older → distance * interval + older + 1 ≤ reserve + newer)
    (from_ width : Nat) (some_ : 0 < grants.countP fun time => decide (from_ ≤ time ∧ time ≤ from_ + width)) :
    ((grants.countP fun time => decide (from_ ≤ time ∧ time ≤ from_ + width)) - 1) * interval + 1 ≤
      reserve + width := by
  induction grants with
  | nil => simp at some_
  | cons newest rest ih =>
    by_cases inside : from_ ≤ newest ∧ newest ≤ from_ + width
    · obtain ⟨index, oldest, found, counted, bound⟩ := exists_last_counted some_
      have spread := apart 0 index newest oldest rfl (by rwa [Nat.zero_add])
      have few := Nat.mul_le_mul_right interval (Nat.sub_le_of_le_add bound)
      rw [decide_eq_true_eq] at counted
      omega
    · rw [List.countP_cons_of_neg (by simpa using inside)] at some_ ⊢
      refine ih (fun index distance newer older first second => ?_) some_
      refine apart (index + 1) distance newer older first ?_
      rwa [Nat.succ_add]

/-- The grants in a window of time. -/
theorem window (credit : Credit interval burst epoch tokens mark grants) (from_ width : Nat)
    (some_ : 0 < grants.countP fun time => decide (from_ ≤ time ∧ time ≤ from_ + width)) :
    ((grants.countP fun time => decide (from_ ≤ time ∧ time ≤ from_ + width)) - 1) * interval + 1 ≤
      burst * interval + width :=
  window_of_apart credit.apart from_ width some_

/-- The same for a limit that is hardly below the burst. -/
theorem window_within (credit : Credit interval burst epoch tokens mark grants) (positive : 0 < interval)
    (close : burst * interval ≤ limit * interval + 1) (from_ width : Nat) :
    (grants.countP fun time => decide (from_ ≤ time ∧ time ≤ from_ + width)) ≤ limit + width / interval + 1 := by
  by_cases some_ : 0 < grants.countP fun time => decide (from_ ≤ time ∧ time ≤ from_ + width)
  · have bound := credit.window from_ width some_
    have fits := (Nat.le_div_iff_mul_le positive).mpr (by omega :
      ((grants.countP fun time => decide (from_ ≤ time ∧ time ≤ from_ + width)) - 1) * interval ≤
        limit * interval + width)
    rw [Nat.mul_comm limit, Nat.mul_add_div positive] at fits
    exact Nat.le_add_of_sub_le fits
  · rw [Nat.eq_zero_of_not_pos some_]
    exact Nat.zero_le _

theorem window_le (credit : Credit interval burst epoch tokens mark grants) (positive : 0 < interval)
    (from_ width : Nat) :
    (grants.countP fun time => decide (from_ ≤ time ∧ time ≤ from_ + width)) ≤ burst + width / interval + 1 :=
  credit.window_within positive (Nat.le_succ _) from_ width

/-- The grants since the epoch. -/
theorem total_le (credit : Credit interval burst epoch tokens mark grants) (positive : 0 < interval)
    (elapsed : Nat) : (grants.countP fun time => decide (time ≤ epoch + elapsed)) ≤ elapsed / interval := by
  by_cases some_ : 0 < grants.countP fun time => decide (time ≤ epoch + elapsed)
  · obtain ⟨index, newest, found, counted, bound⟩ := exists_first_counted some_
    have pace := credit.paced index newest found
    rw [decide_eq_true_eq] at counted
    refine Nat.le_trans bound ((Nat.le_div_iff_mul_le positive).mpr ?_)
    omega
  · rw [Nat.eq_zero_of_not_pos some_]
    exact Nat.zero_le _

end Credit
end WgMix
