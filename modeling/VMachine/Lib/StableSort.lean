import Mathlib.Data.List.Sort

/-! Sorting by a key, where elements of equal keys keep their order. There is only one such
list for any given one. -/
namespace StableSort

section Sorting
variable {α κ : Type*} [LinearOrder κ] (key : α → κ)

structure Sorts (xs ys : List α) : Prop where
  perm : ys.Perm xs
  sorted : ys.Pairwise (fun a b => key a ≤ key b)
  stable : ∀ k, ys.filter (fun a => decide (key a = k)) = xs.filter (fun a => decide (key a = k))

variable {key}

theorem pairwise_equal_keys (k : κ) (xs : List α) :
    (xs.filter (fun a => decide (key a = k))).Pairwise (fun a b => key a ≤ key b) := by
  apply List.Pairwise.imp_of_mem _ (List.pairwise_of_forall (fun _ _ => trivial))
  intro a b first second _
  have own := of_decide_eq_true (List.mem_filter.mp first).2
  have other := of_decide_eq_true (List.mem_filter.mp second).2
  rw [own, other]

/-- Insertion sort, by any relation that compares the keys, is such a sort. -/
theorem insertionSort_sorts {r : α → α → Prop} [DecidableRel r] (compares : ∀ a b, r a b ↔ key a ≤ key b)
    (xs : List α) : Sorts key xs (xs.insertionSort r) := by
  have total : Std.Total r := ⟨fun a b => by simpa only [compares] using le_total (key a) (key b)⟩
  have trans : IsTrans α r := ⟨fun a b c ab bc => (compares a c).mpr (((compares a b).mp ab).trans ((compares b c).mp bc))⟩
  have perm := List.perm_insertionSort r xs
  refine ⟨perm, (List.pairwise_insertionSort r xs).imp (fun {a b} less => (compares a b).mp less), fun k => ?_⟩
  -- The elements of one key are a sorted part of the input, so they are a part of the output.
  have inside : (xs.filter (fun a => decide (key a = k))).Sublist (xs.insertionSort r) :=
    List.sublist_insertionSort ((pairwise_equal_keys k xs).imp (fun {a b} less => (compares a b).mpr less))
      List.filter_sublist
  have kept := inside.filter (fun a => decide (key a = k))
  rw [List.filter_filter] at kept
  simp only [Bool.and_self] at kept
  exact (kept.eq_of_length ((perm.filter _).length_eq).symm).symm

/-- The sorted list is the only one. -/
theorem Sorts.unique {xs ys zs : List α} (first : Sorts key xs ys) (second : Sorts key xs zs) : ys = zs := by
  have classes : ∀ k, ys.filter (fun a => decide (key a = k)) = zs.filter (fun a => decide (key a = k)) :=
    fun k => (first.stable k).trans (second.stable k).symm
  have sorted := first.sorted
  have other := second.sorted
  clear first second
  induction ys generalizing zs with
  | nil =>
    cases zs with
    | nil => rfl
    | cons z zs => simpa using classes (key z)
  | cons y ys ih =>
    cases zs with
    | nil => simpa using classes (key y)
    | cons z zs =>
      have mem_other {k : κ} {a : α} (member : a ∈ y :: ys) (own : key a = k) : a ∈ z :: zs := by
        have kept : a ∈ (y :: ys).filter (fun a => decide (key a = k)) := List.mem_filter.mpr ⟨member, decide_eq_true own⟩
        rw [classes] at kept
        exact (List.mem_filter.mp kept).1
      have mem_first {k : κ} {a : α} (member : a ∈ z :: zs) (own : key a = k) : a ∈ y :: ys := by
        have kept : a ∈ (z :: zs).filter (fun a => decide (key a = k)) := List.mem_filter.mpr ⟨member, decide_eq_true own⟩
        rw [← classes] at kept
        exact (List.mem_filter.mp kept).1
      obtain ⟨least, rest⟩ := List.pairwise_cons.mp sorted
      obtain ⟨lowest, others⟩ := List.pairwise_cons.mp other
      have below : key y ≤ key z := by
        obtain rfl | later := List.mem_cons.mp (mem_first List.mem_cons_self rfl)
        · exact le_rfl
        · exact least z later
      have above : key z ≤ key y := by
        obtain rfl | later := List.mem_cons.mp (mem_other List.mem_cons_self rfl)
        · exact le_rfl
        · exact lowest y later
      have same : key z = key y := le_antisymm above below
      have heads := classes (key y)
      simp only [List.filter_cons, same, decide_true, if_true, List.cons.injEq] at heads
      obtain ⟨rfl, _⟩ := heads
      rw [ih (fun k => ?_) rest others]
      have tails := classes k
      simp only [List.filter_cons] at tails
      split at tails
      · exact (List.cons.inj tails).2
      · exact tails

/-- A relation holds within every class of a key exactly if it holds between the elements of one
key. -/
theorem pairwise_classes_iff {r : α → α → Prop} {xs : List α} :
    xs.Pairwise (fun a b => key a = key b → r a b) ↔
      ∀ k, (xs.filter (fun a => decide (key a = k))).Pairwise r := by
  constructor
  · intro classes k
    refine (classes.filter (fun a => decide (key a = k))).imp_of_mem ?_
    intro a b first second related
    have own := of_decide_eq_true (List.mem_filter.mp first).2
    have other := of_decide_eq_true (List.mem_filter.mp second).2
    exact related (own.trans other.symm)
  · intro classes
    induction xs with
    | nil => exact .nil
    | cons x xs ih =>
      refine List.pairwise_cons.mpr ⟨fun y member same => ?_, ih (fun k => ?_)⟩
      · have own := classes (key x)
        rw [List.filter_cons_of_pos (by simp)] at own
        exact List.rel_of_pairwise_cons own (List.mem_filter.mpr ⟨member, by simp [same]⟩)
      · exact (classes k).sublist ((List.sublist_cons_self x xs).filter _)

/-- What holds along the sorted list: between elements of different keys wherever they stood, and
between elements of one key in the order in which they stood. -/
theorem Sorts.pairwise_iff {r : α → α → Prop} {xs ys : List α} (sorts : Sorts key xs ys) :
    ys.Pairwise r ↔ (∀ a ∈ xs, ∀ b ∈ xs, key a < key b → r a b) ∧ xs.Pairwise (fun a b => key a = key b → r a b) := by
  have classes : ys.Pairwise (fun a b => key a = key b → r a b) ↔ xs.Pairwise (fun a b => key a = key b → r a b) := by
    simp only [pairwise_classes_iff, sorts.stable]
  rw [← classes]
  constructor
  · intro related
    have within : ys.Pairwise (fun a b => key a = key b → r a b) := related.imp (fun {a b} holds (_ : key a = key b) => holds)
    refine ⟨fun a first b second less => ?_, within⟩
    obtain ⟨before, after, split⟩ := List.append_of_mem (sorts.perm.mem_iff.mpr second)
    have sorted := sorts.sorted
    rw [split, List.pairwise_append, List.pairwise_cons] at related sorted
    have there := sorts.perm.mem_iff.mpr first
    rw [split] at there
    rcases List.mem_append.mp there with earlier | later
    · exact related.2.2 a earlier b List.mem_cons_self
    · rcases List.mem_cons.mp later with rfl | later
      · exact absurd less (lt_irrefl _)
      · exact absurd (sorted.2.1.1 a later) (not_le.mpr less)
  · rintro ⟨between, within⟩
    refine (List.Pairwise.and sorts.sorted within).imp_of_mem ?_
    rintro a b first second ⟨ordered, same⟩
    rcases lt_or_eq_of_le ordered with less | equal
    · exact between a (sorts.perm.mem_iff.mp first) b (sorts.perm.mem_iff.mp second) less
    · exact same equal

end Sorting

section Related
variable {α β : Type*} {R : α → β → Prop} {r : α → α → Prop} {s : β → β → Prop} [DecidableRel r] [DecidableRel s]
  (compares : ∀ a a' b b', R a b → R a' b' → (r a a' ↔ s b b'))
include compares

theorem orderedInsert_forall₂ {a : α} {b : β} {xs : List α} {ys : List β} (new : R a b) (each : List.Forall₂ R xs ys) :
    List.Forall₂ R (xs.orderedInsert r a) (ys.orderedInsert s b) := by
  induction each with
  | nil => exact .cons new .nil
  | @cons x y xs ys first rest ih =>
    simp only [List.orderedInsert]
    by_cases before : r a x
    · rw [if_pos before, if_pos ((compares a x b y new first).mp before)]
      exact .cons new (.cons first rest)
    · rw [if_neg before, if_neg (fun other => before ((compares a x b y new first).mpr other))]
      exact .cons first ih

/-- Lists that are related element by element are so after sorting, if the relation keeps the order. -/
theorem insertionSort_forall₂ {xs : List α} {ys : List β} (each : List.Forall₂ R xs ys) :
    List.Forall₂ R (xs.insertionSort r) (ys.insertionSort s) := by
  induction each with
  | nil => exact .nil
  | cons first _ ih => exact orderedInsert_forall₂ compares first ih

end Related

end StableSort
