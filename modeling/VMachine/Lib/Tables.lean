import Mathlib.Data.List.Nodup

/-! Tables of a database. Two constraints are part of a table: no two rows have the same
key, and every row passes a check. A statement that would break one of them is refused, and
leaves the table as it was. -/
namespace Tables

inductive Violation where
  | check
  | unique
  deriving Repr, DecidableEq

structure Table {α κ : Type*} (key : α → κ) (ok : α → Bool) where
  rows : List α
  unique : (rows.map key).Nodup
  checked : ∀ row ∈ rows, ok row = true

/- The row of that key, rewritten. -/
def rewrite {α κ : Type*} [DecidableEq κ] (key : α → κ) (k : κ) (f : α → α) (row : α) : α :=
  if key row = k then f row else row

theorem key_rewrite {α κ : Type*} [DecidableEq κ] {key : α → κ} (k : κ) {f : α → α}
    (keeps : ∀ row, key (f row) = key row) (row : α) : key (rewrite key k f row) = key row := by
  unfold rewrite
  split
  · exact keeps row
  · rfl

namespace Table
variable {α κ : Type*} {key : α → κ} {ok : α → Bool} (table : Table key ok)

def keys : List κ := table.rows.map key

section Statements
variable [DecidableEq κ]

/- INSERT. -/
def insert (row : α) : Except Violation (Table key ok) :=
  if passes : ok row = true then
    if fresh : key row ∉ table.keys then
      .ok {
        rows := table.rows ++ [row]
        unique := by
          rw [List.map_append]
          exact table.unique.append (List.nodup_singleton _) (by simpa [keys] using fresh)
        checked := by
          intro other member
          obtain old | new := List.mem_append.mp member
          · exact table.checked other old
          · cases List.mem_singleton.mp new
            exact passes }
    else .error .unique
  else .error .check

/- UPDATE of the columns that are not the key. -/
def update (k : κ) (f : α → α) (keeps : ∀ row, key (f row) = key row) : Except Violation (Table key ok) :=
  if passes : ∀ row ∈ table.rows, ok (rewrite key k f row) = true then
    .ok {
      rows := table.rows.map (rewrite key k f)
      unique := by
        have same : key ∘ rewrite key k f = key := funext (key_rewrite k keeps)
        rw [List.map_map, same]
        exact table.unique
      checked := by
        intro row member
        obtain ⟨old, inside, rfl⟩ := List.mem_map.mp member
        exact passes old inside }
  else .error .check

/- UPDATE of every row, again not of its key. -/
def revise (f : α → α) (keeps : ∀ row, key (f row) = key row) : Except Violation (Table key ok) :=
  if passes : ∀ row ∈ table.rows, ok (f row) = true then
    .ok {
      rows := table.rows.map f
      unique := by
        have same : key ∘ f = key := funext keeps
        rw [List.map_map, same]
        exact table.unique
      checked := by
        intro row member
        obtain ⟨old, inside, rfl⟩ := List.mem_map.mp member
        exact passes old inside }
  else .error .check

end Statements

/- DELETE of the rows that a condition selects. -/
def delete (p : α → Bool) : Table key ok where
  rows := table.rows.filter (fun row => !p row)
  unique := table.unique.sublist (List.filter_sublist.map key)
  checked := fun row member => table.checked row (List.mem_of_mem_filter member)

section Facts
variable {table}

/-- The key decides the row. -/
theorem eq_of_key {row other : α} (inside : row ∈ table.rows) (there : other ∈ table.rows)
    (same : key row = key other) : row = other :=
  List.inj_on_of_nodup_map table.unique inside there same

/-- Rows that are selected by no less than their key are one row. -/
theorem filter_eq_singleton {row : α} (inside : row ∈ table.rows) {p : α → Bool} (selected : p row = true)
    (keyed : ∀ other, p other = true → key other = key row) : table.rows.filter p = [row] := by
  have only : ∀ other ∈ table.rows.filter p, other = row := by
    intro other member
    obtain ⟨there, too⟩ := List.mem_filter.mp member
    exact eq_of_key there inside (keyed other too)
  have distinct : (table.rows.filter p).Nodup := (List.Nodup.of_map key table.unique).filter p
  have member : row ∈ table.rows.filter p := List.mem_filter.mpr ⟨inside, selected⟩
  cases found : table.rows.filter p with
  | nil =>
    rw [found] at member
    contradiction
  | cons first rest =>
    rw [found] at only distinct
    obtain rfl := only first List.mem_cons_self
    have none : rest = [] := by
      rw [List.eq_nil_iff_forall_not_mem]
      intro other later
      obtain rfl := only other (List.mem_cons_of_mem _ later)
      exact (List.nodup_cons.mp distinct).1 later
    rw [none]

/-- The first row that is found by its key is the row. -/
theorem find?_eq_some {row : α} (inside : row ∈ table.rows) {p : α → Bool} (selected : p row = true)
    (keyed : ∀ other, p other = true → key other = key row) : table.rows.find? p = some row := by
  cases found : table.rows.find? p with
  | none => exact absurd selected (List.find?_eq_none.mp found row inside)
  | some other => rw [eq_of_key (List.mem_of_find?_eq_some found) inside (keyed other (List.find?_some found))]

variable [DecidableEq κ] {t : Table key ok}

theorem rows_of_insert {row : α} (inserted : table.insert row = .ok t) :
    t.rows = table.rows ++ [row] ∧ ok row = true ∧ key row ∉ table.keys := by
  unfold insert at inserted
  split at inserted
  · rename_i passes
    split at inserted
    · rename_i fresh
      cases inserted
      exact ⟨rfl, passes, fresh⟩
    · contradiction
  · contradiction

theorem insert_refused {row : α} {v : Violation} (refused : table.insert row = .error v) :
    ok row = false ∨ key row ∈ table.keys := by
  unfold insert at refused
  split at refused
  · split at refused
    · contradiction
    · rename_i taken
      exact .inr (not_not.mp taken)
  · rename_i fails
    exact .inl (Bool.eq_false_iff.mpr fails)

theorem rows_of_update {k : κ} {f : α → α} {keeps : ∀ row, key (f row) = key row}
    (updated : table.update k f keeps = .ok t) : t.rows = table.rows.map (rewrite key k f) := by
  unfold update at updated
  split at updated
  · cases updated
    rfl
  · contradiction

theorem update_refused {k : κ} {f : α → α} {keeps : ∀ row, key (f row) = key row} {v : Violation}
    (refused : table.update k f keeps = .error v) : ∃ row ∈ table.rows, key row = k ∧ ok (f row) = false := by
  unfold update at refused
  split at refused
  · contradiction
  · rename_i fails
    push Not at fails
    obtain ⟨row, inside, broken⟩ := fails
    by_cases own : key row = k
    · rw [rewrite, if_pos own] at broken
      exact ⟨row, inside, own, Bool.eq_false_iff.mpr broken⟩
    · rw [rewrite, if_neg own] at broken
      exact absurd (table.checked row inside) broken

/-- An update leaves the keys as they are, and so does a revision. -/
theorem keys_of_update {k : κ} {f : α → α} {keeps : ∀ row, key (f row) = key row}
    (updated : table.update k f keeps = .ok t) : t.keys = table.keys := by
  have same : key ∘ rewrite key k f = key := funext (key_rewrite k keeps)
  rw [keys, rows_of_update updated, List.map_map, same]
  rfl

omit [DecidableEq κ] in
theorem keys_of_revise {f : α → α} {keeps : ∀ row, key (f row) = key row} (revised : table.revise f keeps = .ok t) :
    t.keys = table.keys := by
  have same : key ∘ f = key := funext keeps
  unfold revise at revised
  split at revised
  · cases revised
    exact (List.map_map).trans (congrArg (fun g => table.rows.map g) same)
  · contradiction

omit [DecidableEq κ] in
/-- A revision that every row passes is made. -/
theorem rows_of_revise {f : α → α} {keeps : ∀ row, key (f row) = key row} (passes : ∀ row, ok row = true → ok (f row) = true) :
    ∃ t, table.revise f keeps = .ok t ∧ t.rows = table.rows.map f := by
  have all : ∀ row ∈ table.rows, ok (f row) = true := fun row member => passes row (table.checked row member)
  unfold revise
  rw [dif_pos all]
  exact ⟨_, rfl, rfl⟩

/-- A row after an update, of the key that is updated or of another. -/
theorem mem_update {k : κ} {f : α → α} {keeps : ∀ row, key (f row) = key row} {row : α}
    (updated : table.update k f keeps = .ok t) (inside : row ∈ table.rows) :
    (if key row = k then f row else row) ∈ t.rows := by
  rw [rows_of_update updated]
  exact List.mem_map_of_mem inside

end Facts

end Table

end Tables
