import Mathlib.Algebra.BigOperators.Group.List.Basic
import Mathlib.Algebra.Order.Group.Defs
import Mathlib.Algebra.Order.Monoid.Unbundled.MinMax
import Mathlib.Algebra.Order.BigOperators.Group.List

/-! Running sums that are stopped at a floor after every step. While no step goes up, stopping at
every step is the same as stopping once, at the end. -/
namespace Clamped
variable {α : Type*} [AddCommGroup α] [LinearOrder α]

/- Adding the steps up, never below `floor`. -/
def total (floor start : α) (steps : List α) : α := steps.foldl (fun sum step => max floor (sum + step)) start

variable [IsOrderedAddMonoid α] {floor start : α} {steps others : List α}

theorem sum_le_of_sublist (falling : ∀ step ∈ others, step ≤ 0) (part : steps.Sublist others) : others.sum ≤ steps.sum := by
  induction part with
  | slnil => exact le_rfl
  | @cons steps others step part ih =>
    have rest := ih (fun s member => falling s (List.mem_cons_of_mem _ member))
    have down := falling step List.mem_cons_self
    rw [List.sum_cons]
    exact (add_le_of_nonpos_left down).trans rest
  | @cons_cons steps others step part ih =>
    have rest := ih (fun s member => falling s (List.mem_cons_of_mem _ member))
    rw [List.sum_cons, List.sum_cons]
    exact add_le_add_right rest step

/-- A step down can be taken before the sum is stopped. -/
theorem max_add_of_nonpos {step : α} (down : step ≤ 0) (sum : α) :
    max floor (max floor sum + step) = max floor (sum + step) := by
  have below : floor + step ≤ floor := add_le_of_nonpos_right down
  rw [← max_add_add_right, ← max_assoc, max_eq_left below]

theorem total_eq_max_sum (above : floor ≤ start) (falling : ∀ step ∈ steps, step ≤ 0) :
    total floor start steps = max floor (start + steps.sum) := by
  induction steps generalizing start with
  | nil => simp [total, above]
  | cons step steps ih =>
    have later : ∀ s ∈ steps, s ≤ 0 := fun s member => falling s (List.mem_cons_of_mem _ member)
    have down : steps.sum ≤ 0 := sum_le_of_sublist later (List.nil_sublist steps)
    calc total floor start (step :: steps)
        = max floor (max floor (start + step) + steps.sum) := ih (le_max_left _ _) later
      _ = max floor (start + step + steps.sum) := max_add_of_nonpos down _
      _ = max floor (start + (step :: steps).sum) := by rw [List.sum_cons, add_assoc]

/-- The order of the steps does not matter. -/
theorem total_perm (above : floor ≤ start) (falling : ∀ step ∈ steps, step ≤ 0) (perm : steps.Perm others) :
    total floor start others = total floor start steps := by
  have also : ∀ step ∈ others, step ≤ 0 := fun step member => falling step (perm.mem_iff.mpr member)
  rw [total_eq_max_sum above falling, total_eq_max_sum above also, perm.sum_eq]

/-- More steps lead no higher. -/
theorem total_le_of_sublist (above : floor ≤ start) (falling : ∀ step ∈ others, step ≤ 0) (part : steps.Sublist others) :
    total floor start others ≤ total floor start steps := by
  have also : ∀ step ∈ steps, step ≤ 0 := fun step member => falling step (part.subset member)
  rw [total_eq_max_sum above falling, total_eq_max_sum above also]
  exact max_le_max le_rfl (add_le_add_right (sum_le_of_sublist falling part) start)

end Clamped
