import Mathlib.Data.List.MinMax
import Mathlib.Data.List.Induction
import Mathlib.Data.List.Nodup

/-! Dictionaries that keep the order in which their keys were first written, as a loop over rows
builds them. The last write of a key wins; where the rows come in descending order of time, that is
the write of the oldest row. -/
namespace Dict

section Writing
variable {κ α : Type*} [DecidableEq κ]

/- `d[k] = v`: in place, or at the end. -/
def set (k : κ) (v : α) : List (κ × α) → List (κ × α)
  | [] => [(k, v)]
  | (other, w) :: rest => if other = k then (k, v) :: rest else (other, w) :: set k v rest

def find (d : List (κ × α)) (k : κ) : Option α := (d.find? (fun entry => decide (entry.1 = k))).map Prod.snd

@[simp] theorem find_nil (k : κ) : find ([] : List (κ × α)) k = none := rfl

theorem find_cons (entry : κ × α) (d : List (κ × α)) (k : κ) :
    find (entry :: d) k = if entry.1 = k then some entry.2 else find d k := by
  by_cases own : entry.1 = k
  · simp [find, own]
  · simp [find, own]

theorem find_set (k : κ) (v : α) (d : List (κ × α)) (j : κ) :
    find (set k v d) j = if k = j then some v else find d j := by
  induction d with
  | nil => simp [set, find_cons]
  | cons entry d ih =>
    obtain ⟨other, w⟩ := entry
    by_cases own : other = k
    · subst own
      rw [set, if_pos rfl, find_cons, find_cons]
      split <;> rfl
    · simp only [set, own, if_false, find_cons, ih]
      by_cases asked : other = j
      · subst asked
        simp [Ne.symm own]
      · simp [asked]

theorem mem_keys_set (k : κ) (v : α) (d : List (κ × α)) (j : κ) :
    j ∈ (set k v d).map Prod.fst ↔ j = k ∨ j ∈ d.map Prod.fst := by
  induction d with
  | nil => simp [set]
  | cons entry d ih =>
    obtain ⟨other, w⟩ := entry
    by_cases own : other = k
    · subst own
      simp [set]
    · simp only [set, own, if_false, List.map_cons, List.mem_cons, ih]
      tauto

theorem nodup_keys_set (k : κ) (v : α) {d : List (κ × α)} (distinct : (d.map Prod.fst).Nodup) :
    ((set k v d).map Prod.fst).Nodup := by
  induction d with
  | nil => simp [set]
  | cons entry d ih =>
    obtain ⟨other, w⟩ := entry
    obtain ⟨fresh, rest⟩ := List.nodup_cons.mp distinct
    by_cases own : other = k
    · subst own
      simpa [set] using distinct
    · simp only [set, own, if_false, List.map_cons]
      refine List.nodup_cons.mpr ⟨fun member => ?_, ih rest⟩
      rcases (mem_keys_set k v d other).mp member with same | inside
      · exact own same
      · exact fresh inside

/-- In a dictionary a key has one entry, the one that is found. -/
theorem find_of_mem {d : List (κ × α)} (distinct : (d.map Prod.fst).Nodup) {entry : κ × α} (member : entry ∈ d) :
    find d entry.1 = some entry.2 := by
  induction d with
  | nil => contradiction
  | cons first d ih =>
    obtain ⟨fresh, rest⟩ := List.nodup_cons.mp distinct
    rw [find_cons]
    rcases List.mem_cons.mp member with rfl | later
    · simp
    · have different : first.1 ≠ entry.1 := fun same => fresh (same ▸ List.mem_map_of_mem later)
      rw [if_neg different, ih rest later]

end Writing

section Building
variable {κ α ρ : Type*} [DecidableEq κ] (key : ρ → κ) (value : ρ → α)

/- `{key(row): value(row) for row in rows}`. -/
def build (rows : List ρ) : List (κ × α) := rows.foldl (fun d row => set (key row) (value row) d) []

/-- The last row of a key decides. -/
theorem find_build (rows : List ρ) (k : κ) :
    find (build key value rows) k = (rows.filter (fun row => decide (key row = k))).getLast?.map value := by
  induction rows using List.reverseRecOn with
  | nil => rfl
  | append_singleton rows row ih =>
    have last : build key value (rows ++ [row]) = set (key row) (value row) (build key value rows) := by
      simp [build]
    rw [last, find_set, ih, List.filter_append]
    by_cases own : key row = k
    · simp [own]
    · simp [own]

theorem set_of_fresh {k : κ} (v : α) {d : List (κ × α)} (fresh : k ∉ d.map Prod.fst) : set k v d = d ++ [(k, v)] := by
  induction d with
  | nil => rfl
  | cons entry d ih =>
    obtain ⟨other, w⟩ := entry
    simp only [List.map_cons, List.mem_cons, not_or] at fresh
    rw [set, if_neg (Ne.symm fresh.1), ih fresh.2, List.cons_append]

/-- A dictionary is built from its own entries. -/
theorem build_entries {d : List (κ × α)} (distinct : (d.map Prod.fst).Nodup) : build Prod.fst Prod.snd d = d := by
  induction d using List.reverseRecOn with
  | nil => rfl
  | append_singleton d entry ih =>
    rw [List.map_append, List.nodup_append] at distinct
    have fresh : entry.1 ∉ d.map Prod.fst := fun member => distinct.2.2 entry.1 member entry.1 (by simp) rfl
    rw [build, List.foldl_append, ← build, ih distinct.1, List.foldl_cons, List.foldl_nil, set_of_fresh _ fresh]

end Building

section Times
variable {ρ τ : Type*} [LinearOrder τ] {time : ρ → τ} {rows sorted : List ρ}

/-- A row that is as late as all rows is the latest one, if no two bear one time. -/
theorem argmax_eq_some (distinct : (rows.map time).Nodup) {row : ρ} (member : row ∈ rows)
    (greatest : ∀ other ∈ rows, time other ≤ time row) : rows.argmax time = some row := by
  cases found : rows.argmax time with
  | none =>
    rw [List.argmax_eq_none.mp found] at member
    contradiction
  | some other =>
    have inside := List.argmax_mem found
    have above := List.le_of_mem_argmax member found
    have same := le_antisymm (greatest other inside) above
    rw [List.inj_on_of_nodup_map distinct inside member same]

theorem argmin_eq_some (distinct : (rows.map time).Nodup) {row : ρ} (member : row ∈ rows)
    (least : ∀ other ∈ rows, time row ≤ time other) : rows.argmin time = some row := by
  cases found : rows.argmin time with
  | none =>
    rw [List.argmin_eq_none.mp found] at member
    contradiction
  | some other =>
    have inside := List.argmin_mem found
    have below := List.le_of_mem_argmin member found
    have same := le_antisymm below (least other inside)
    rw [List.inj_on_of_nodup_map distinct inside member same]

/-- In descending order of time the first row is the latest and the last one the oldest. -/
theorem head_eq_argmax (perm : sorted.Perm rows) (descending : sorted.Pairwise (fun a b => time b ≤ time a))
    (distinct : (rows.map time).Nodup) : sorted.head? = rows.argmax time := by
  cases sorted with
  | nil =>
    rw [List.nil_perm.mp perm]
    rfl
  | cons first sorted =>
    symm
    refine argmax_eq_some distinct (perm.mem_iff.mp List.mem_cons_self) (fun other member => ?_)
    rcases List.mem_cons.mp (perm.mem_iff.mpr member) with rfl | later
    · exact le_rfl
    · exact List.rel_of_pairwise_cons descending later

theorem getLast_eq_argmin (perm : sorted.Perm rows) (descending : sorted.Pairwise (fun a b => time b ≤ time a))
    (distinct : (rows.map time).Nodup) : sorted.getLast? = rows.argmin time := by
  obtain rfl | ⟨earlier, last, rfl⟩ := List.eq_nil_or_concat' sorted
  · rw [List.nil_perm.mp perm]
    rfl
  · rw [List.getLast?_concat]
    symm
    refine argmin_eq_some distinct (perm.mem_iff.mp (by simp)) (fun other member => ?_)
    rw [List.pairwise_append] at descending
    rcases List.mem_append.mp (perm.mem_iff.mpr member) with before | itself
    · exact descending.2.2 other before last (by simp)
    · rw [List.mem_singleton.mp itself]

end Times

end Dict
