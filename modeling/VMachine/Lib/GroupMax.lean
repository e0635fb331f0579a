import VMachine.Lib.FirstSeen

/-! The greatest time of every group, and the rows that bear it, as a query joins a table with
its own maxima. In a table that is written in the order of time these are the last rows of each
group, and more than one where the last ones bear the same time. -/
namespace GroupMax

section Query
variable {α κ τ : Type*} [DecidableEq κ] [Max τ] (key : α → κ) (time : α → τ)

def group (k : κ) (rows : List α) : List α := rows.filter (fun row => decide (key row = k))

/- The greatest time of a group, of which an empty one has none. -/
def latest (k : κ) (rows : List α) : Option τ := ((group key k rows).map time).max?

/- `SELECT key, MAX(time) ... GROUP BY key`. -/
def maxima (rows : List α) : List (κ × τ) :=
  (FirstSeen.unique id (rows.map key)).filterMap (fun k => (latest key time k rows).map (Prod.mk k))

/- `JOIN ... ON key AND time`: a row is there once for each entry that it matches. -/
def join [DecidableEq τ] (rows : List α) (entries : List (κ × τ)) : List α :=
  rows.flatMap (fun row => (entries.filter (fun entry => decide (entry = (key row, time row)))).map (fun _ => row))

variable {key time} {k : κ} {rows : List α}

theorem mem_group {row : α} : row ∈ group key k rows ↔ row ∈ rows ∧ key row = k := by simp [group]

theorem maxima_nodup : (maxima key time rows).Nodup := by
  unfold maxima
  have names := FirstSeen.nodup_keys_unique id (rows.map key)
  rw [List.map_id] at names
  refine names.filterMap (fun a b entry fromA fromB => ?_)
  obtain ⟨_, _, rfl⟩ := Option.map_eq_some_iff.mp fromA
  obtain ⟨_, _, same⟩ := Option.map_eq_some_iff.mp fromB
  exact (congrArg Prod.fst same).symm

end Query

section Rows
variable {α κ τ : Type*} [DecidableEq κ] [LE τ] [Max τ] [Std.IsLinearOrder τ] [Std.LawfulOrderMax τ]
  {key : α → κ} {time : α → τ} {k : κ} {rows chosen : List α}

theorem mem_maxima {stamp : τ} : (k, stamp) ∈ maxima key time rows ↔ latest key time k rows = some stamp := by
  unfold maxima
  rw [List.mem_filterMap]
  constructor
  · rintro ⟨other, _, found⟩
    obtain ⟨_, greatest, same⟩ := Option.map_eq_some_iff.mp found
    cases same
    exact greatest
  · intro greatest
    obtain ⟨row, inside, _⟩ := List.mem_map.mp (List.max?_mem greatest)
    obtain ⟨member, its⟩ := mem_group.mp inside
    have named : k ∈ (rows.map key).map id := by
      rw [List.map_id]
      exact List.mem_map.mpr ⟨row, member, its⟩
    have kept := (FirstSeen.mem_keys_unique id).mpr named
    rw [List.map_id] at kept
    exact ⟨k, kept, by simp [greatest]⟩

/-- The join keeps the rows that bear the greatest time of their group, each once. -/
theorem join_maxima [DecidableEq τ] : join key time rows (maxima key time chosen) =
    rows.filter (fun row => decide (latest key time (key row) chosen = some (time row))) := by
  unfold join
  induction rows with
  | nil => rfl
  | cons row rows ih =>
    rw [List.flatMap_cons, List.filter_cons, ih, List.filter_eq]
    by_cases greatest : latest key time (key row) chosen = some (time row)
    · have once := List.count_eq_one_of_mem maxima_nodup (mem_maxima.mpr greatest)
      simp [greatest, once]
    · have never : (key row, time row) ∉ maxima key time chosen := fun member => greatest (mem_maxima.mp member)
      simp [greatest, List.count_eq_zero_of_not_mem never]

/-- In the order of time, the greatest time of a group is that of its last row. -/
theorem latest_of_ordered {earlier : List α} {last : α} (ordered : rows.Pairwise (fun a b => time a ≤ time b))
    (ends : group key k rows = earlier ++ [last]) : latest key time k rows = some (time last) := by
  have inGroup : (group key k rows).Pairwise (fun a b => time a ≤ time b) := ordered.filter _
  rw [ends, List.pairwise_append] at inGroup
  unfold latest
  rw [ends]
  apply List.max?_eq_some_iff.mpr
  refine ⟨by simp, fun stamp member => ?_⟩
  obtain ⟨row, inside, rfl⟩ := List.mem_map.mp member
  obtain before | itself := List.mem_append.mp inside
  · exact inGroup.2.2 row before last (List.mem_singleton_self last)
  · rw [List.mem_singleton.mp itself]
    exact Std.le_refl _

end Rows

end GroupMax
