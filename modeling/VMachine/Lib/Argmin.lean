import Mathlib.Data.List.Induction
import Mathlib.Order.Lattice

/-! The loop that looks for a least element: it keeps the best one so far, and takes another
one only if that is strictly less. So of several least elements it finds the first. -/
namespace Argmin

section Loop
variable {α β : Type*} [LinearOrder β] (cost : α → β)

def better (best : Option α) (x : α) : Option α :=
  match best with
  | none => some x
  | some found => if cost x < cost found then some x else some found

def least (xs : List α) : Option α := xs.foldl (better cost) none

/- `x` stands where every element before it is greater, and none after it is less. -/
def First (xs : List α) (x : α) : Prop :=
  ∃ before after, xs = before ++ x :: after ∧ (∀ y ∈ before, cost x < cost y) ∧ ∀ y ∈ after, cost x ≤ cost y

variable {cost}

theorem First.mem {xs : List α} {x : α} (first : First cost xs x) : x ∈ xs := by
  obtain ⟨before, after, rfl, _⟩ := first
  exact List.mem_append_right before List.mem_cons_self

theorem First.le {xs : List α} {x y : α} (first : First cost xs x) (member : y ∈ xs) : cost x ≤ cost y := by
  obtain ⟨before, after, rfl, greater, atLeast⟩ := first
  obtain earlier | later := List.mem_append.mp member
  · exact (greater y earlier).le
  · obtain rfl | later := List.mem_cons.mp later
    · exact le_rfl
    · exact atLeast y later

/-- One more element. -/
theorem First.concat {xs : List α} {x : α} (first : First cost xs x) (y : α) :
    First cost (xs ++ [y]) (if cost y < cost x then y else x) := by
  split
  · rename_i less
    refine ⟨xs, [], rfl, fun z member => less.trans_le (first.le member), fun z none => ?_⟩
    contradiction
  · rename_i more
    obtain ⟨before, after, rfl, greater, atLeast⟩ := first
    refine ⟨before, after ++ [y], by rw [List.append_assoc, List.cons_append], greater, fun z member => ?_⟩
    obtain earlier | last := List.mem_append.mp member
    · exact atLeast z earlier
    · rw [List.mem_singleton.mp last]
      exact le_of_not_gt more

variable (cost) in
/-- The loop finds the first of the least elements, if there is an element at all. -/
theorem least_cases (xs : List α) :
    (xs = [] ∧ least cost xs = none) ∨ ∃ x, least cost xs = some x ∧ First cost xs x := by
  induction xs using List.reverseRecOn with
  | nil => exact .inl ⟨rfl, rfl⟩
  | append_singleton xs y ih =>
    have next : least cost (xs ++ [y]) = better cost (least cost xs) y := by simp [least]
    right
    obtain ⟨rfl, none⟩ | ⟨x, found, first⟩ := ih
    · refine ⟨y, by rw [next, none, better], [], [], rfl, ?_, ?_⟩ <;> (intro z member; contradiction)
    · refine ⟨if cost y < cost x then y else x, ?_, first.concat y⟩
      rw [next, found, better]
      split <;> rfl

/-- Of two elements at their places in a list, one comes first, or they are the same. -/
theorem places {x y : α} {before after front back : List α} (same : before ++ x :: after = front ++ y :: back) :
    (x ∈ front ∧ y ∈ after) ∨ x = y ∨ (y ∈ before ∧ x ∈ back) := by
  obtain ⟨middle, rfl, rest⟩ | ⟨middle, rfl, rest⟩ := List.append_eq_append_iff.mp same
  · cases middle with
    | nil =>
      rw [List.nil_append] at rest
      exact .inr (.inl (List.cons.inj rest).1)
    | cons z middle =>
      rw [List.cons_append] at rest
      obtain ⟨rfl, rfl⟩ := List.cons.inj rest
      exact .inl ⟨List.mem_append_right _ List.mem_cons_self, List.mem_append_right _ List.mem_cons_self⟩
  · cases middle with
    | nil =>
      rw [List.nil_append] at rest
      exact .inr (.inl (List.cons.inj rest).1.symm)
    | cons z middle =>
      rw [List.cons_append] at rest
      obtain ⟨rfl, rfl⟩ := List.cons.inj rest
      exact .inr (.inr ⟨List.mem_append_right _ List.mem_cons_self, List.mem_append_right _ List.mem_cons_self⟩)

/-- The first least element is in a class exactly if some element of the class comes before all
those outside it, as to cost and then as to place. -/
theorem First.class_iff {xs : List α} {x : α} (first : First cost xs x) (p : α → Prop) :
    p x ↔ ∃ before y after, xs = before ++ y :: after ∧ p y ∧ (∀ z ∈ before, ¬ p z → cost y < cost z) ∧
      ∀ z ∈ after, ¬ p z → cost y ≤ cost z := by
  obtain ⟨front, back, split, greater, atLeast⟩ := first
  constructor
  · intro inside
    exact ⟨front, x, back, split, inside, fun z member _ => greater z member, fun z member _ => atLeast z member⟩
  · rintro ⟨before, y, after, other, inside, earlier, later⟩
    by_contra outside
    obtain ⟨ahead, behind⟩ | rfl | ⟨ahead, behind⟩ := places (other.symm.trans split)
    · exact absurd (later x behind outside) (not_le_of_gt (greater y ahead))
    · exact outside inside
    · exact absurd (earlier x ahead outside) (not_lt_of_ge (atLeast y behind))

end Loop

end Argmin
