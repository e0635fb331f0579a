import Mathlib.Data.List.Nodup
import Mathlib.Data.List.Infix

/-! Deduplication that keeps the first element of every key, as a loop with a set of the
keys already seen does it. The order of the kept elements is the order of the input. -/
namespace FirstSeen

variable {α β κ : Type*} [DecidableEq κ]

/- One element of the loop's input at a time. The keys of `seen` are taken already. -/
def loop (key : α → κ) (seen : List κ) : List α → List α
  | [] => []
  | x :: xs => if key x ∈ seen then loop key seen xs else x :: loop key (key x :: seen) xs

def unique (key : α → κ) (xs : List α) : List α := loop key [] xs

section Loop
variable (key : α → κ)

/-- Only membership in `seen` matters, not its order. -/
theorem loop_congr {s t : List κ} (same : ∀ k, k ∈ s ↔ k ∈ t) (xs : List α) :
    loop key s xs = loop key t xs := by
  induction xs generalizing s t with
  | nil => rfl
  | cons x xs ih =>
    have next : ∀ k, k ∈ key x :: s ↔ k ∈ key x :: t := by simp [same]
    simp only [loop, same (key x), ih same, ih next]

theorem loop_append (s : List κ) (xs ys : List α) :
    loop key s (xs ++ ys) = loop key s xs ++ loop key (xs.map key ++ s) ys := by
  induction xs generalizing s with
  | nil => rfl
  | cons x xs ih =>
    by_cases taken : key x ∈ s
    · have same : ∀ k, k ∈ xs.map key ++ s ↔ k ∈ (x :: xs).map key ++ s := by
        intro k
        simp only [List.map_cons, List.cons_append, List.mem_cons]
        exact ⟨.inr, fun h => h.elim (fun e => e ▸ List.mem_append_right _ taken) id⟩
      simp only [List.cons_append, loop, taken, if_true, ih, loop_congr key same]
    · have same : ∀ k, k ∈ xs.map key ++ key x :: s ↔ k ∈ (x :: xs).map key ++ s := by
        intro k
        simp only [List.map_cons, List.cons_append, List.mem_cons, List.mem_append]
        tauto
      simp only [List.cons_append, loop, taken, if_false, ih, loop_congr key same]

theorem mem_keys_loop {s : List κ} {xs : List α} {k : κ} :
    k ∈ (loop key s xs).map key ↔ k ∈ xs.map key ∧ k ∉ s := by
  induction xs generalizing s with
  | nil => simp [loop]
  | cons x xs ih =>
    by_cases taken : key x ∈ s
    · simp only [loop, taken, if_true, ih, List.map_cons, List.mem_cons]
      constructor
      · exact fun h => ⟨.inr h.1, h.2⟩
      · rintro ⟨rfl | member, fresh⟩
        · exact absurd taken fresh
        · exact ⟨member, fresh⟩
    · simp only [loop, taken, if_false, ih, List.map_cons, List.mem_cons]
      constructor
      · rintro (rfl | ⟨member, fresh⟩)
        · exact ⟨.inl rfl, taken⟩
        · exact ⟨.inr member, fun h => fresh (.inr h)⟩
      · rintro ⟨member, fresh⟩
        by_cases first : k = key x
        · exact .inl first
        · refine .inr ⟨member.resolve_left first, ?_⟩
          rintro (h | h)
          · exact first h
          · exact fresh h

theorem loop_nodup (s : List κ) (xs : List α) : ((loop key s xs).map key).Nodup := by
  induction xs generalizing s with
  | nil => simp [loop]
  | cons x xs ih =>
    by_cases taken : key x ∈ s
    · simpa only [loop, taken, if_true] using ih s
    · simp only [loop, taken, if_false, List.map_cons, List.nodup_cons, mem_keys_loop]
      exact ⟨fun h => h.2 (List.mem_cons_self ..), ih _⟩

theorem loop_taken {s : List κ} {xs : List α} (taken : ∀ x ∈ xs, key x ∈ s) : loop key s xs = [] := by
  induction xs with
  | nil => rfl
  | cons x xs ih =>
    simp only [loop, taken x (List.mem_cons_self ..), if_true]
    exact ih (fun y hy => taken y (List.mem_cons_of_mem x hy))

theorem loop_fresh {s : List κ} {xs : List α} (fresh : ∀ x ∈ xs, key x ∉ s)
    (distinct : (xs.map key).Nodup) : loop key s xs = xs := by
  induction xs generalizing s with
  | nil => rfl
  | cons x xs ih =>
    have head := fresh x (List.mem_cons_self ..)
    obtain ⟨apart, rest⟩ := List.nodup_cons.mp distinct
    have next : ∀ y ∈ xs, key y ∉ key x :: s := by
      intro y hy h
      cases List.mem_cons.mp h with
      | inl same => exact apart (same ▸ List.mem_map_of_mem hy)
      | inr old => exact fresh y (List.mem_cons_of_mem x hy) old
    simp only [loop, head, if_false, ih next rest]

/-- The loop only looks at keys, so it commutes with any map that keeps them. -/
theorem map_loop (k : β → κ) (f : α → β) (s : List κ) (xs : List α) :
    (loop (k ∘ f) s xs).map f = loop k s (xs.map f) := by
  induction xs generalizing s with
  | nil => rfl
  | cons x xs ih =>
    simp only [loop, List.map_cons, Function.comp_apply]
    split
    · exact ih s
    · simp only [List.map_cons, ih]

end Loop

theorem nodup_keys_unique (key : α → κ) (xs : List α) : ((unique key xs).map key).Nodup := loop_nodup key [] xs

theorem mem_keys_unique (key : α → κ) {xs : List α} {k : κ} : k ∈ (unique key xs).map key ↔ k ∈ xs.map key := by
  rw [unique, mem_keys_loop]
  exact and_iff_left List.not_mem_nil

/-- Which keys are kept, up to their order, depends on the set of the given ones only. -/
theorem keys_unique_perm (key : α → κ) {xs ys : List α} (same : ∀ k, k ∈ xs.map key ↔ k ∈ ys.map key) :
    ((unique key xs).map key).Perm ((unique key ys).map key) := by
  apply (List.perm_ext_iff_of_nodup (nodup_keys_unique key xs) (nodup_keys_unique key ys)).mpr
  intro k
  rw [mem_keys_unique, mem_keys_unique, same k]

/-- Deduplicating two concatenated lists leaves exactly the second one if and only if its
own keys are distinct and what is kept of the first is a leading part of it. -/
theorem unique_append_eq_iff (key : α → κ) (xs ys : List α) :
    unique key (xs ++ ys) = ys ↔ (ys.map key).Nodup ∧ unique key xs <+: ys := by
  have split : unique key (xs ++ ys) = unique key xs ++ loop key (xs.map key) ys := by
    simp only [unique, loop_append, List.append_nil]
  constructor
  · intro whole
    have distinct := loop_nodup key [] (xs ++ ys)
    exact ⟨whole ▸ distinct, ⟨_, split.symm.trans whole⟩⟩
  · rintro ⟨distinct, rest, rfl⟩
    have old : ∀ x ∈ unique key xs, key x ∈ xs.map key := by
      intro x hx
      exact ((mem_keys_loop key).mp (List.mem_map_of_mem hx)).1
    rw [List.map_append] at distinct
    have apart := List.disjoint_of_nodup_append distinct
    have fresh : ∀ x ∈ rest, key x ∉ (unique key xs).map key ++ xs.map key := by
      intro x hx h
      have member : key x ∈ (unique key xs).map key := by
        cases List.mem_append.mp h with
        | inl kept => exact kept
        | inr given => exact (mem_keys_loop key).mpr ⟨given, List.not_mem_nil⟩
      exact apart member (List.mem_map_of_mem hx)
    rw [split, loop_append, loop_taken key old, List.nil_append,
      loop_fresh key fresh (List.nodup_append.mp distinct).2.1]

end FirstSeen
