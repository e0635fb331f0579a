import Mathlib.Data.List.Basic

/-! What stands after a history of additions and removals, for keys of any type. An addition of
what stands and a removal of what does not are without effect. -/
namespace Standing

variable {κ : Type} [DecidableEq κ]

inductive Change (κ : Type) where
  | adds (k : κ)
  | removes (k : κ)
  deriving Repr, DecidableEq

def change (held : List κ) : Change κ → List κ
  | .adds k => k :: held
  | .removes k => held.filter (fun other => other ≠ k)

def standing (changes : List (Change κ)) : List κ := changes.foldl change []

variable {k : κ} {changes later : List (Change κ)} {held : List κ}

theorem mem_change_adds {new : κ} : k ∈ change held (.adds new) ↔ k = new ∨ k ∈ held := List.mem_cons

theorem mem_change_removes {old : κ} : k ∈ change held (.removes old) ↔ k ∈ held ∧ k ≠ old := by
  simp [change]

theorem standing_append : standing (changes ++ later) = later.foldl change (standing changes) := List.foldl_append

theorem standing_removes : k ∉ standing (changes ++ [.removes k]) := by
  rw [standing_append]
  intro still
  exact (mem_change_removes.mp still).2 rfl

/-- What nobody removes stands if it stood, or if it has been added. -/
theorem standing_unless_removed (kept : .removes k ∉ later) :
    k ∈ standing (changes ++ later) ↔ k ∈ standing changes ∨ .adds k ∈ later := by
  rw [standing_append]
  generalize standing changes = held
  induction later generalizing held with
  | nil => simp
  | cons c later ih =>
    have apart : .removes k ∉ later := fun member => kept (List.mem_cons_of_mem c member)
    rw [List.foldl_cons, ih apart]
    cases c with
    | adds new =>
      rw [mem_change_adds]
      simp only [List.mem_cons, Change.adds.injEq]
      tauto
    | removes old =>
      have other : k ≠ old := fun same => kept (same ▸ List.mem_cons_self)
      rw [mem_change_removes]
      simp [other]

/-- What nobody adds does not stand if it did not. -/
theorem absent_unless_added (absent : k ∉ standing changes) (kept : .adds k ∉ later) :
    k ∉ standing (changes ++ later) := by
  rw [standing_append]
  revert absent
  generalize standing changes = held
  intro absent
  induction later generalizing held with
  | nil => exact absent
  | cons c later ih =>
    refine ih (fun member => kept (List.mem_cons_of_mem c member)) _ ?_
    cases c with
    | adds new =>
      rw [mem_change_adds]
      rintro (rfl | there)
      · exact kept List.mem_cons_self
      · exact absent there
    | removes old =>
      rw [mem_change_removes]
      exact fun there => absent there.1

/-- What is removed and not added again is gone. -/
theorem absent_of_removed (removed : .removes k ∈ later) (kept : .adds k ∉ later) : k ∉ standing (changes ++ later) := by
  obtain ⟨first, rest, rfl⟩ := List.append_of_mem removed
  rw [List.append_cons, ← List.append_assoc, ← List.append_assoc]
  refine absent_unless_added standing_removes ?_
  exact fun later => kept (List.mem_append_right _ (List.mem_cons_of_mem _ later))

end Standing
