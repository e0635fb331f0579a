import Mathlib.Data.List.Basic

/-! A system of any number of parties is a list of their local states, in which a step
replaces one. What holds of every other party is untouched by it, and what is counted over
the parties moves by what the one contributes before and after. -/
namespace Parties

variable {P : Type*} {parties : List P} {i j : Nat} {before other : P} (after : P)

/-- After a step of one party, any party is that one or where it was. -/
theorem of_set {after : P} (found : (parties.set i after)[j]? = some other) :
    (j = i ∧ other = after) ∨ (j ≠ i ∧ parties[j]? = some other) := by
  by_cases same : j = i
  · subst same
    rw [List.getElem?_set] at found
    simp only [if_true] at found
    split at found
    · exact .inl ⟨rfl, (Option.some.inj found).symm⟩
    · contradiction
  · rw [List.getElem?_set_ne (Ne.symm same)] at found
    exact .inr ⟨same, found⟩

theorem of_append {after : P} (found : (parties ++ [after])[j]? = some other) :
    other = after ∨ parties[j]? = some other := by
  rw [List.getElem?_append] at found
  split at found
  · exact .inr found
  · obtain rfl := List.mem_singleton.mp (List.mem_of_getElem? found)
    exact .inl rfl

/-- What holds of every party goes on to, if the one that has moved, or joined, has it. -/
theorem forall_set {after : P} {p : P → Prop} (every : ∀ party ∈ parties, p party) (new : p after) :
    ∀ party ∈ parties.set i after, p party := by
  intro party listed
  obtain old | rfl := List.mem_or_eq_of_mem_set listed
  · exact every party old
  · exact new

theorem forall_append {after : P} {p : P → Prop} (every : ∀ party ∈ parties, p party) (new : p after) :
    ∀ party ∈ parties ++ [after], p party := by
  intro party listed
  obtain old | joined := List.mem_append.mp listed
  · exact every party old
  · cases List.mem_singleton.mp joined
    exact new

theorem forall_set_iff {after : P} {p : P → Prop} (here : parties[i]? = some before) (same : p after ↔ p before) :
    (∀ party ∈ parties.set i after, p party) ↔ ∀ party ∈ parties, p party := by
  constructor
  · intro every party listed
    obtain ⟨j, found⟩ := List.mem_iff_getElem?.mp listed
    by_cases own : j = i
    · subst own
      cases here.symm.trans found
      exact same.mp (every after (List.mem_set (List.getElem?_eq_some_iff.mp here).1 after))
    · refine every party (List.mem_iff_getElem?.mpr ⟨j, ?_⟩)
      rw [List.getElem?_set_ne (Ne.symm own)]
      exact found
  · intro every
    exact forall_set every (same.mpr (every before (List.mem_of_getElem? here)))

theorem countP_set (p : P → Bool) (here : parties[i]? = some before) :
    (parties.set i after).countP p + (if p before then 1 else 0) =
      parties.countP p + (if p after then 1 else 0) := by
  induction parties generalizing i with
  | nil => contradiction
  | cons first rest ih =>
    cases i with
    | zero =>
      cases here
      simp only [List.set_cons_zero, List.countP_cons]
      omega
    | succ i =>
      have tail := ih (i := i) here
      simp only [List.set_cons_succ, List.countP_cons]
      omega

/-- A party that counts for as much after the step as before it does not move the count. -/
theorem countP_set_same (p : P → Bool) (here : parties[i]? = some before) (same : p after = p before) :
    (parties.set i after).countP p = parties.countP p := by
  have moved := countP_set after p here
  rw [same] at moved
  omega

theorem countP_set_more (p : P → Bool) (here : parties[i]? = some before) (out : p before = false)
    (inside : p after = true) : (parties.set i after).countP p = parties.countP p + 1 := by
  have moved := countP_set after p here
  simp only [out, inside, if_true, Bool.false_eq_true, if_false] at moved
  omega

theorem countP_set_le (p : P → Bool) (here : parties[i]? = some before) (out : p after = false) :
    (parties.set i after).countP p ≤ parties.countP p := by
  have moved := countP_set after p here
  simp only [out, Bool.false_eq_true, if_false] at moved
  omega

/-- What a party that is no longer among the selected ones has left behind. -/
theorem filter_set_perm (p : P → Bool) (here : parties[i]? = some before) (inside : p before = true)
    (out : p after = false) : (before :: (parties.set i after).filter p).Perm (parties.filter p) := by
  induction parties generalizing i with
  | nil => contradiction
  | cons first rest ih =>
    cases i with
    | zero =>
      cases here
      simp [inside, out]
    | succ i =>
      have tail := ih (i := i) here
      simp only [List.set_cons_succ, List.filter_cons]
      split
      · exact (List.Perm.swap _ _ _).trans (tail.cons first)
      · exact tail

/-- A step that leaves what is looked at of a party, and whether it is selected, as it was. -/
theorem map_filter_set_same {β : Type*} (p : P → Bool) (view : P → β) (here : parties[i]? = some before)
    (same : p after = p before) (seen : view after = view before) :
    ((parties.set i after).filter p).map view = (parties.filter p).map view := by
  induction parties generalizing i with
  | nil => contradiction
  | cons first rest ih =>
    cases i with
    | zero =>
      cases here
      simp only [List.set_cons_zero, List.filter_cons, same]
      split
      · simp [seen]
      · rfl
    | succ i =>
      have tail := ih (i := i) here
      simp only [List.set_cons_succ, List.filter_cons]
      split
      · simp [tail]
      · exact tail

theorem countP_eq_zero_of (p : P → Bool) (none : ∀ (j : Nat) party, parties[j]? = some party → p party = false) :
    parties.countP p = 0 := by
  rw [List.countP_eq_zero]
  intro party listed
  obtain ⟨j, found⟩ := List.mem_iff_getElem?.mp listed
  simp [none j party found]

theorem not_of_countP_eq_zero {p : P → Bool} (zero : parties.countP p = 0) (found : parties[j]? = some other) :
    p other = false := by
  have out := List.countP_eq_zero.mp zero other (List.mem_of_getElem? found)
  simpa using out

end Parties
