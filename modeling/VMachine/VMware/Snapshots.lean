import VMachine.Database.Session
import VMachine.Lib.Parties
import VMachine.Lib.Runs

/-! The snapshots of the inventory in the table resource_snapshots. Each `_upsert_snapshot`
is a detached task with a session of its own: it selects the row of its type and id, and
then commits an update of that row or a new row. The tasks of any number of syncs take
these steps in any order. In the table, the id alone is unique. -/
namespace VMachine.VMware
open OpenStack Database Tables

/- A row. Its primary key is drawn with the row and its id never changes, so that the id
stands for it. -/
structure ResourceSnapshot (R : Type) where
  resourceType : String
  externalId : String
  resourceName : Option String
  projectId : Option String := none
  syncStatus : String
  rawData : Option R
  deriving Repr, DecidableEq

def ResourceSnapshot.fits {R : Type} (b : Backend) (row : ResourceSnapshot R) : Bool :=
  b.takes 100 row.resourceType && b.takes 255 row.externalId && row.resourceName.all (b.takes 255) &&
    row.projectId.all (b.takes 255) && b.takes 50 row.syncStatus

abbrev SnapshotTable (b : Backend) (R : Type) := Table (@ResourceSnapshot.externalId R) (ResourceSnapshot.fits b)

/- The arguments of `_upsert_snapshot`. -/
structure Upsert (R : Type) where
  resourceType : String
  externalId : String
  resourceName : String
  rawData : R
  deriving Repr, DecidableEq

/- A session writes a column only when its value is not the one that was loaded. -/
def written {α : Type} [DecidableEq α] (loaded new current : α) : α := if new = loaded then current else new

section Statements
variable {R : Type} [DecidableEq R]

def ResourceSnapshot.pair (row : ResourceSnapshot R) : String × String := (row.resourceType, row.externalId)

namespace Upsert
variable (u : Upsert R)

def pair : String × String := (u.resourceType, u.externalId)

/- The condition of the SELECT. -/
def selects (row : ResourceSnapshot R) : Bool := decide (row.pair = u.pair)

/- The row that is added when there is none. -/
def snapshot : ResourceSnapshot R where
  resourceType := u.resourceType
  externalId := u.externalId
  resourceName := some u.resourceName
  syncStatus := "active"
  rawData := some u.rawData

/- The row as the UPDATE leaves it. -/
def write (loaded row : ResourceSnapshot R) : ResourceSnapshot R where
  resourceType := row.resourceType
  externalId := row.externalId
  resourceName := written loaded.resourceName (some u.resourceName) row.resourceName
  projectId := row.projectId
  syncStatus := written loaded.syncStatus "active" row.syncStatus
  rawData := written loaded.rawData (some u.rawData) row.rawData

variable {b : Backend}

def select (table : SnapshotTable b R) : Except Exc (Option (ResourceSnapshot R)) :=
  scalarOneOrNone (table.rows.filter u.selects)

/- `session.commit()`, which sends what has been changed or added. -/
def commit (existing : Option (ResourceSnapshot R)) (table : SnapshotTable b R) :
    Except Violation (SnapshotTable b R) :=
  match existing with
  | some loaded => table.update loaded.externalId (u.write loaded) (fun _ => rfl)
  | none => table.insert u.snapshot

end Upsert

end Statements

inductive UpsertStage (R : Type) where
  | waiting
  | selected (existing : Option (ResourceSnapshot R))
  | committed
  | failed (exc : Exc)
  deriving Repr, DecidableEq

def UpsertStage.hasFailed {R : Type} : UpsertStage R → Bool
  | .failed _ => true
  | _ => false

def UpsertStage.finished {R : Type} : UpsertStage R → Bool
  | .committed | .failed _ => true
  | _ => false

def UpsertStage.isCommitted {R : Type} : UpsertStage R → Bool
  | .committed => true
  | _ => false

structure UpsertTask (R : Type) where
  upsert : Upsert R
  stage : UpsertStage R
  deriving Repr, DecidableEq

/- The table, and the tasks in the order in which they have been created. -/
structure Snapshots (b : Backend) (R : Type) where
  table : SnapshotTable b R
  tasks : List (UpsertTask R)

inductive UpsertEvent (R : Type) where
  | create (u : Upsert R)
  | select (i : Nat)
  | commit (i : Nat)

section Running
variable {b : Backend} {R : Type} [DecidableEq R]

def Snapshots.move (s : Snapshots b R) (i : Nat) (u : Upsert R) (stage : UpsertStage R) : Snapshots b R :=
  { s with tasks := s.tasks.set i ⟨u, stage⟩ }

def Snapshots.step (s : Snapshots b R) : UpsertEvent R → Option (Snapshots b R)
  | .create u => some { s with tasks := s.tasks ++ [⟨u, .waiting⟩] }
  | .select i =>
    match s.tasks[i]? with
    | some ⟨u, .waiting⟩ =>
      match u.select s.table with
      | .ok existing => some (s.move i u (.selected existing))
      | .error exc => some (s.move i u (.failed exc))
    | _ => none
  | .commit i =>
    match s.tasks[i]? with
    | some ⟨u, .selected existing⟩ =>
      match u.commit existing s.table with
      | .ok table => some ({ s with table := table }.move i u .committed)
      | .error violation => some (s.move i u (.failed (refusal violation)))
    | _ => none

end Running

/- The values of the upsert fit into the columns. -/
def Upsert.fits {R : Type} (b : Backend) (u : Upsert R) : Bool := u.snapshot.fits b

/- Some upsert of this pair has this data. -/
def Snapshots.Offered {b : Backend} {R : Type} (s : Snapshots b R) (pair : String × String) (raw : Option R) : Prop :=
  ∃ task ∈ s.tasks, task.upsert.pair = pair ∧ raw = some task.upsert.rawData

/- The table is a map from the pairs that have been upserted, and no task has failed. -/
structure Snapshots.Mapped {b : Backend} {R : Type} (s : Snapshots b R) : Prop where
  rows : ∀ task ∈ s.tasks, ∃ row, s.table.rows.filter task.upsert.selects = [row] ∧ row.syncStatus = "active" ∧
    s.Offered task.upsert.pair row.rawData
  unfailed : ∀ task ∈ s.tasks, task.stage.hasFailed = false

def Snapshots.Finished {b : Backend} {R : Type} (s : Snapshots b R) : Prop :=
  ∀ task ∈ s.tasks, task.stage.finished = true

/- The upsert that a commit of this task would add a row for. -/
def Snapshots.inserting {b : Backend} {R : Type} (s : Snapshots b R) (i : Nat) : Option (Upsert R) :=
  match s.tasks[i]? with
  | some ⟨u, .selected none⟩ => some u
  | _ => none

/- An upsert that has found no row commits while no row has its id, and what is upserted
fits. -/
def Undisturbed {b : Backend} {R : Type} (s : Snapshots b R) : UpsertEvent R → Prop
  | .create u => u.fits b = true
  | .select _ => True
  | .commit i => ∀ u ∈ s.inserting i, u.externalId ∉ s.table.keys

instance {b : Backend} {R : Type} (s : Snapshots b R) : (e : UpsertEvent R) → Decidable (Undisturbed s e)
  | .create u => inferInstanceAs (Decidable (u.fits b = true))
  | .select _ => .isTrue trivial
  | .commit i => inferInstanceAs (Decidable (∀ u ∈ s.inserting i, u.externalId ∉ s.table.keys))

section Steps
variable {b : Backend} {R : Type} {u : Upsert R}

theorem select_cases (table : SnapshotTable b R) :
    (u.select table = .ok none ∧ ∀ row ∈ table.rows, row.pair ≠ u.pair) ∨
    ∃ row ∈ table.rows, row.pair = u.pair ∧ u.select table = .ok (some row) := by
  have keyed (row other : ResourceSnapshot R) (one : u.selects row = true) (two : u.selects other = true) :
      row.externalId = other.externalId :=
    congrArg Prod.snd ((of_decide_eq_true one).trans (of_decide_eq_true two).symm)
  obtain ⟨none, others⟩ | ⟨row, inside, selected, found⟩ := scalarOneOrNone_keyed table keyed
  · exact .inl ⟨none, fun row inside => of_decide_eq_false (others row inside)⟩
  · exact .inr ⟨row, inside, of_decide_eq_true selected, found⟩

variable [DecidableEq R] {s t : Snapshots b R}

/-- What an event can do. No task finds more than one row. -/
theorem Snapshots.step_cases {e : UpsertEvent R} (next : s.step e = some t) :
    (∃ u, e = .create u ∧ t = { s with tasks := s.tasks ++ [⟨u, .waiting⟩] }) ∨
    (∃ i u existing, e = .select i ∧ s.tasks[i]? = some ⟨u, .waiting⟩ ∧ t = s.move i u (.selected existing) ∧
      ∀ row ∈ existing, row ∈ s.table.rows ∧ row.pair = u.pair) ∨
    (∃ i u existing table, e = .commit i ∧ s.tasks[i]? = some ⟨u, .selected existing⟩ ∧
      u.commit existing s.table = .ok table ∧ t = { s with table := table }.move i u .committed) ∨
    (∃ i u existing violation, e = .commit i ∧ s.tasks[i]? = some ⟨u, .selected existing⟩ ∧
      u.commit existing s.table = .error violation ∧ t = s.move i u (.failed (refusal violation))) := by
  cases e with
  | create u =>
    cases next
    exact .inl ⟨u, rfl, rfl⟩
  | select i =>
    simp only [Snapshots.step] at next
    split at next
    · rename_i u here
      obtain ⟨none, _⟩ | ⟨row, inside, own, found⟩ := @select_cases b R u s.table
      · rw [none] at next
        cases next
        exact .inr (.inl ⟨i, u, Option.none, rfl, here, rfl, by simp⟩)
      · rw [found] at next
        cases next
        refine .inr (.inl ⟨i, u, some row, rfl, here, rfl, ?_⟩)
        intro other same
        cases same
        exact ⟨inside, own⟩
    · contradiction
  | commit i =>
    simp only [Snapshots.step] at next
    split at next
    · rename_i u existing here
      cases committed : u.commit existing s.table with
      | ok table =>
        rw [committed] at next
        cases next
        exact .inr (.inr (.inl ⟨i, u, existing, table, rfl, here, committed, rfl⟩))
      | error violation =>
        rw [committed] at next
        cases next
        exact .inr (.inr (.inr ⟨i, u, existing, violation, rfl, here, committed, rfl⟩))
    · contradiction

end Steps

/- The row of the pair is there. Its status is the given one or active, and its data is the
given one or that of an upsert. -/
def Snapshots.Kept {b : Backend} {R : Type} (s : Snapshots b R) (pair : String × String) (status : String)
    (raw : Option R) : Prop :=
  ∃ row ∈ s.table.rows, row.pair = pair ∧ (row.syncStatus = status ∨ row.syncStatus = "active") ∧
    (row.rawData = raw ∨ s.Offered pair row.rawData)

/- What the table owes to a task: the row it has found, or the row it has written. -/
def Snapshots.Owed {b : Backend} {R : Type} (s : Snapshots b R) (task : UpsertTask R) : Prop :=
  match task.stage with
  | .selected (some loaded) => loaded.pair = task.upsert.pair ∧ loaded.fits b = true ∧
      s.Kept task.upsert.pair loaded.syncStatus loaded.rawData
  | .committed => task.upsert.fits b = true ∧ s.Kept task.upsert.pair "active" (some task.upsert.rawData)
  | _ => True

/- Rows stay, and their data is replaced by that of upserts only. -/
structure Evolves {b : Backend} {R : Type} (s t : Snapshots b R) : Prop where
  tasks : ∀ task ∈ s.tasks, ∃ later ∈ t.tasks, later.upsert = task.upsert
  rows : ∀ row ∈ s.table.rows, t.Kept row.pair row.syncStatus row.rawData

section Evolution
variable {b : Backend} {R : Type} {s t : Snapshots b R} {u : Upsert R}

theorem Evolves.offered (evolves : Evolves s t) {pair : String × String} {raw : Option R}
    (offered : s.Offered pair raw) : t.Offered pair raw := by
  obtain ⟨task, member, own, data⟩ := offered
  obtain ⟨later, there, same⟩ := evolves.tasks task member
  exact ⟨later, there, by rw [same]; exact own, by rw [same]; exact data⟩

theorem Evolves.kept (evolves : Evolves s t) {pair : String × String} {status : String} {raw : Option R}
    (kept : s.Kept pair status raw) : t.Kept pair status raw := by
  obtain ⟨row, inside, own, active, data⟩ := kept
  obtain ⟨later, there, same, active', data'⟩ := evolves.rows row inside
  refine ⟨later, there, same.trans own, ?_, ?_⟩
  · obtain unchanged | now := active'
    · rw [unchanged]
      exact active
    · exact .inr now
  · obtain unchanged | now := data'
    · rw [unchanged]
      exact data.imp_right evolves.offered
    · rw [own] at now
      exact .inr now

theorem Evolves.owed (evolves : Evolves s t) {task : UpsertTask R} (owed : s.Owed task) : t.Owed task := by
  unfold Snapshots.Owed at owed ⊢
  split
  · rename_i loaded stage
    rw [stage] at owed
    exact ⟨owed.1, owed.2.1, evolves.kept owed.2.2⟩
  · rename_i stage
    rw [stage] at owed
    exact ⟨owed.1, evolves.kept owed.2⟩
  · trivial

theorem kept_of_mem {row : ResourceSnapshot R} (inside : row ∈ s.table.rows) :
    s.Kept row.pair row.syncStatus row.rawData := ⟨row, inside, rfl, .inl rfl, .inl rfl⟩

theorem moved_tasks {i : Nat} {stage stage' : UpsertStage R} (here : s.tasks[i]? = some ⟨u, stage⟩) :
    ∀ task ∈ s.tasks, ∃ later ∈ s.tasks.set i ⟨u, stage'⟩, later.upsert = task.upsert := by
  intro task member
  obtain ⟨j, found⟩ := List.mem_iff_getElem?.mp member
  by_cases own : j = i
  · subst own
    cases here.symm.trans found
    exact ⟨_, List.mem_set (List.getElem?_eq_some_iff.mp here).1 _, rfl⟩
  · refine ⟨task, List.mem_iff_getElem?.mpr ⟨j, ?_⟩, rfl⟩
    rw [List.getElem?_set_ne (Ne.symm own)]
    exact found

theorem evolves_create (u : Upsert R) : Evolves s { s with tasks := s.tasks ++ [⟨u, .waiting⟩] } where
  tasks task member := ⟨task, List.mem_append_left _ member, rfl⟩
  rows _ inside := kept_of_mem inside

theorem evolves_move {i : Nat} {stage stage' : UpsertStage R} (here : s.tasks[i]? = some ⟨u, stage⟩) :
    Evolves s (s.move i u stage') where
  tasks := moved_tasks here
  rows _ inside := kept_of_mem inside

theorem offered_by {i : Nat} {stage stage' : UpsertStage R} (here : s.tasks[i]? = some ⟨u, stage⟩) :
    (s.move i u stage').Offered u.pair (some u.rawData) :=
  ⟨⟨u, stage'⟩, List.mem_set (List.getElem?_eq_some_iff.mp here).1 _, rfl, rfl⟩

/- Nothing has gone wrong so far, and nothing is bound to. -/
def Going (s : Snapshots b R) : Prop :=
  ∀ task ∈ s.tasks, task.stage.hasFailed = false ∧ task.upsert.fits b = true

/-- A task that has committed has its row. -/
theorem row_of_committed {task : UpsertTask R} (member : task ∈ s.tasks) (owed : s.Owed task)
    (committed : task.stage = .committed) :
    ∃ row, s.table.rows.filter task.upsert.selects = [row] ∧ row.syncStatus = "active" ∧
      s.Offered task.upsert.pair row.rawData := by
  simp only [Snapshots.Owed, committed] at owed
  obtain ⟨_, row, inside, own, active, data⟩ := owed
  refine ⟨row, ?_, active.elim id id, ?_⟩
  · refine Table.filter_eq_singleton inside (decide_eq_true own) ?_
    intro other selected
    exact congrArg Prod.snd ((of_decide_eq_true selected).trans own.symm)
  · obtain own | offered := data
    · exact ⟨task, member, rfl, own⟩
    · exact offered

/-- When all tasks have finished, the table is the map it should be exactly when nothing has
gone wrong. -/
theorem mapped_iff_going (owed : ∀ task ∈ s.tasks, s.Owed task) (finished : s.Finished) : s.Mapped ↔ Going s := by
  have committed (task : UpsertTask R) (member : task ∈ s.tasks) (unfailed : task.stage.hasFailed = false) :
      task.stage = .committed := by
    have ended := finished task member
    cases stage : task.stage with
    | committed => rfl
    | failed exc => simp [stage, UpsertStage.hasFailed] at unfailed
    | waiting => simp [stage, UpsertStage.finished] at ended
    | selected existing => simp [stage, UpsertStage.finished] at ended
  constructor
  · intro mapped task member
    have unfailed := mapped.unfailed task member
    have own := owed task member
    simp only [Snapshots.Owed, committed task member unfailed] at own
    exact ⟨unfailed, own.1⟩
  · intro going
    refine ⟨fun task member => ?_, fun task member => (going task member).1⟩
    exact row_of_committed member (owed task member) (committed task member (going task member).1)

end Evolution

section Committing
variable {b : Backend} {R : Type} [DecidableEq R] {s t : Snapshots b R} {u : Upsert R} {i : Nat}

theorem written_cases {α : Type} [DecidableEq α] (loaded new current : α) :
    (new = loaded ∧ written loaded new current = current) ∨ written loaded new current = new := by
  unfold written
  split
  · rename_i same
    exact .inl ⟨same, rfl⟩
  · exact .inr rfl

/-- What fits stays so under an update with values that fit. -/
theorem fits_write {loaded row : ResourceSnapshot R} (there : row.fits b = true) (fits : u.fits b = true) :
    (u.write loaded row).fits b = true := by
  simp only [Upsert.fits, Upsert.snapshot, ResourceSnapshot.fits, Bool.and_eq_true] at there fits
  simp only [Upsert.write, ResourceSnapshot.fits, Bool.and_eq_true]
  refine ⟨⟨⟨there.1.1.1, ?_⟩, there.1.2⟩, ?_⟩
  · obtain ⟨_, same⟩ | new := written_cases loaded.resourceName (some u.resourceName) row.resourceName
    · rw [same]
      exact there.1.1.2
    · rw [new]
      exact fits.1.1.2
  · obtain ⟨_, same⟩ | new := written_cases loaded.syncStatus "active" row.syncStatus
    · rw [same]
      exact there.2
    · rw [new]
      exact fits.2

/-- Only values that fit are written. -/
theorem fits_of_write {loaded row : ResourceSnapshot R} (own : row.pair = u.pair) (found : loaded.fits b = true)
    (fits : (u.write loaded row).fits b = true) : u.fits b = true := by
  obtain ⟨sameType, sameId⟩ := Prod.mk.inj own
  simp only [Upsert.write, ResourceSnapshot.fits, Bool.and_eq_true] at found fits
  simp only [Upsert.fits, Upsert.snapshot, ResourceSnapshot.fits, Bool.and_eq_true]
  have active : b.takes 50 "active" = true := by
    unfold Backend.takes
    cases b.enforcesLengths with
    | true => decide
    | false => rfl
  refine ⟨⟨⟨?_, ?_⟩, rfl⟩, active⟩
  · rw [← sameType, ← sameId]
    exact fits.1.1.1
  · obtain ⟨same, _⟩ | new := written_cases loaded.resourceName (some u.resourceName) row.resourceName
    · rw [same]
      exact found.1.1.2
    · rw [← new]
      exact fits.1.1.2

/-- A commit of a new row. -/
theorem commit_inserts {table : SnapshotTable b R} (here : s.tasks[i]? = some ⟨u, .selected none⟩)
    (committed : u.commit none s.table = .ok table) :
    Evolves s ({ s with table := table }.move i u .committed) ∧
    ({ s with table := table }.move i u .committed).Owed ⟨u, .committed⟩ := by
  obtain ⟨rows, fits, _⟩ := Table.rows_of_insert committed
  refine ⟨⟨moved_tasks here, ?_⟩, fits, u.snapshot, ?_, rfl, .inl rfl, .inl rfl⟩
  · intro row inside
    refine kept_of_mem ?_
    change row ∈ table.rows
    rw [rows]
    exact List.mem_append_left _ inside
  · change u.snapshot ∈ table.rows
    rw [rows]
    exact List.mem_append_right _ (List.mem_singleton_self _)

/-- A row that an update has written to, as the upsert wants it. -/
theorem write_kept {loaded row : ResourceSnapshot R} (here : s.tasks[i]? = some ⟨u, .selected (some loaded)⟩)
    {table : SnapshotTable b R} (own : row.pair = u.pair) (inside : u.write loaded row ∈ table.rows) :
    ({ s with table := table }.move i u .committed).Kept u.pair row.syncStatus row.rawData := by
  refine ⟨u.write loaded row, inside, own, ?_, ?_⟩
  · obtain ⟨_, same⟩ | new := written_cases loaded.syncStatus "active" row.syncStatus
    · exact .inl same
    · exact .inr new
  · obtain ⟨_, same⟩ | new := written_cases loaded.rawData (some u.rawData) row.rawData
    · exact .inl same
    · refine .inr ?_
      change Snapshots.Offered _ u.pair (written loaded.rawData (some u.rawData) row.rawData)
      rw [new]
      exact @offered_by b R { s with table := table } u i _ _ here

/-- A commit of an update. The row that was found is still there. -/
theorem commit_updates {table : SnapshotTable b R} {loaded : ResourceSnapshot R}
    (here : s.tasks[i]? = some ⟨u, .selected (some loaded)⟩) (owed : s.Owed ⟨u, .selected (some loaded)⟩)
    (committed : u.commit (some loaded) s.table = .ok table) :
    Evolves s ({ s with table := table }.move i u .committed) ∧
    ({ s with table := table }.move i u .committed).Owed ⟨u, .committed⟩ := by
  obtain ⟨own, fits, row, inside, same, active, data⟩ := owed
  have updated : s.table.update loaded.externalId (u.write loaded) (fun _ => rfl) = .ok table := committed
  have key : row.externalId = loaded.externalId := congrArg Prod.snd (same.trans own.symm)
  have there : u.write loaded row ∈ table.rows := by
    have rewritten := Table.mem_update updated inside
    rw [if_pos key] at rewritten
    exact rewritten
  have evolves : Evolves s ({ s with table := table }.move i u .committed) := by
    refine ⟨moved_tasks here, ?_⟩
    intro other present
    have rewritten := Table.mem_update updated present
    split at rewritten
    · rename_i found
      obtain rfl := Table.eq_of_key inside present (key.trans found.symm)
      rw [same]
      exact write_kept here same there
    · exact kept_of_mem rewritten
  refine ⟨evolves, ?_, u.write loaded row, there, same, ?_, ?_⟩
  · exact fits_of_write same fits (table.checked _ there)
  · obtain ⟨before, kept⟩ | new := written_cases loaded.syncStatus "active" row.syncStatus
    · refine .inl (kept.trans ?_)
      exact active.elim (fun old => old.trans before.symm) id
    · exact .inl new
  · obtain ⟨before, kept⟩ | new := written_cases loaded.rawData (some u.rawData) row.rawData
    · obtain old | offered := data
      · exact .inl (kept.trans (old.trans before.symm))
      · refine .inr ?_
        have later := evolves.offered offered
        rw [← kept] at later
        exact later
    · exact .inl new

/-- Every task is owed what the table has, whatever the next step. -/
theorem step_owed {e : UpsertEvent R} (owed : ∀ task ∈ s.tasks, s.Owed task) (next : s.step e = some t) :
    Evolves s t ∧ ∀ task ∈ t.tasks, t.Owed task := by
  obtain ⟨u, rfl, rfl⟩ | ⟨i, u, existing, rfl, here, rfl, found⟩ | ⟨i, u, existing, table, rfl, here, committed, rfl⟩ |
    ⟨i, u, existing, violation, rfl, here, _, rfl⟩ := Snapshots.step_cases next
  · refine ⟨evolves_create u, Parties.forall_append (fun task member => ?_) trivial⟩
    exact (evolves_create u).owed (owed task member)
  · have evolves : Evolves s (s.move i u (.selected existing)) := evolves_move here
    refine ⟨evolves, Parties.forall_set (fun task member => evolves.owed (owed task member)) ?_⟩
    cases existing with
    | none => trivial
    | some row =>
      obtain ⟨inside, own⟩ := found row rfl
      refine ⟨own, s.table.checked row inside, ?_⟩
      have kept := evolves.kept (kept_of_mem inside)
      rw [own] at kept
      exact kept
  · have commits : Evolves s ({ s with table := table }.move i u .committed) ∧
        ({ s with table := table }.move i u .committed).Owed ⟨u, .committed⟩ := by
      cases existing with
      | none => exact commit_inserts here committed
      | some loaded => exact commit_updates here (owed _ (List.mem_of_getElem? here)) committed
    exact ⟨commits.1, Parties.forall_set (fun task member => commits.1.owed (owed task member)) commits.2⟩
  · have evolves : Evolves s (s.move i u (.failed (refusal violation))) := evolves_move here
    exact ⟨evolves, Parties.forall_set (fun task member => evolves.owed (owed task member)) trivial⟩

theorem commit_refused_iff {existing : Option (ResourceSnapshot R)} {violation : Violation}
    (fits : u.fits b = true) (refused : u.commit existing s.table = .error violation) :
    existing = none ∧ u.externalId ∈ s.table.keys := by
  cases existing with
  | none =>
    obtain unfit | taken := Table.insert_refused refused
    · exact absurd (fits.symm.trans unfit) (by simp)
    · exact ⟨rfl, taken⟩
  | some loaded =>
    have updated : s.table.update loaded.externalId (u.write loaded) (fun _ => rfl) = .error violation := refused
    obtain ⟨row, inside, _, unfit⟩ := Table.update_refused updated
    exact absurd ((fits_write (s.table.checked row inside) fits).symm.trans unfit) (by simp)

/-- A step keeps things going exactly when it is undisturbed. -/
theorem step_going_iff {e : UpsertEvent R} (next : s.step e = some t) : Going t ↔ Going s ∧ Undisturbed s e := by
  obtain ⟨u, rfl, rfl⟩ | ⟨i, u, existing, rfl, here, rfl, _⟩ | ⟨i, u, existing, table, rfl, here, committed, rfl⟩ |
    ⟨i, u, existing, violation, rfl, here, refused, rfl⟩ := Snapshots.step_cases next
  · simp only [Going, List.mem_append, List.mem_singleton, or_imp, forall_and, forall_eq, Undisturbed,
      UpsertStage.hasFailed]
    constructor
    · rintro ⟨⟨unfailed, _⟩, fit, fits⟩
      exact ⟨⟨unfailed, fit⟩, fits⟩
    · rintro ⟨⟨unfailed, fit⟩, fits⟩
      exact ⟨⟨unfailed, trivial⟩, fit, fits⟩
  · simp only [Undisturbed, and_true]
    exact Parties.forall_set_iff here (by simp [UpsertStage.hasFailed])
  · have fresh : ∀ u' ∈ s.inserting i, u'.externalId ∉ s.table.keys := by
      intro u' inserts
      cases existing with
      | none =>
        simp only [Snapshots.inserting, here, Option.mem_def, Option.some.injEq] at inserts
        rw [← inserts]
        exact (Table.rows_of_insert committed).2.2
      | some loaded => simp [Snapshots.inserting, here] at inserts
    have kept : Going ({ s with table := table }.move i u .committed) ↔ Going s :=
      Parties.forall_set_iff here (by simp [UpsertStage.hasFailed])
    rw [kept]
    exact ⟨fun going => ⟨going, fresh⟩, fun both => both.1⟩
  · constructor
    · intro going
      have last := going ⟨u, .failed (refusal violation)⟩ (List.mem_set (List.getElem?_eq_some_iff.mp here).1 _)
      exact absurd last.1 (by simp [UpsertStage.hasFailed])
    · rintro ⟨going, undisturbed⟩
      obtain ⟨rfl, taken⟩ := commit_refused_iff (going _ (List.mem_of_getElem? here)).2 refused
      have inserts : s.inserting i = some u := by simp [Snapshots.inserting, here]
      exact absurd taken (undisturbed u inserts)

theorem run_owed {table : SnapshotTable b R} {events : List (UpsertEvent R)}
    (run : Runs.exec Snapshots.step ⟨table, []⟩ events = some s) : ∀ task ∈ s.tasks, s.Owed task := by
  have start : ∀ task ∈ (⟨table, []⟩ : Snapshots b R).tasks, (⟨table, []⟩ : Snapshots b R).Owed task :=
    fun _ member => (List.not_mem_nil member).elim
  exact Runs.invariant Snapshots.step (I := fun s => ∀ task ∈ s.tasks, s.Owed task)
    (fun s e t owed next => (step_owed owed next).2) start run

/-- The snapshots are a map exactly when no upsert that has found no row commits after a row
of its id has come, and all that is upserted fits. -/
theorem snapshots_mapped_iff {table : SnapshotTable b R} {events : List (UpsertEvent R)}
    (run : Runs.exec Snapshots.step ⟨table, []⟩ events = some s) (finished : s.Finished) :
    s.Mapped ↔ Runs.Along Snapshots.step Undisturbed ⟨table, []⟩ events := by
  have kept := Runs.iff_along Snapshots.step (I := fun _ => True) (G := Going) (P := Undisturbed)
    (fun _ _ _ _ _ => trivial) (fun _ _ _ _ next => step_going_iff next) trivial run
  have start : Going (⟨table, []⟩ : Snapshots b R) := fun _ member => (List.not_mem_nil member).elim
  rw [mapped_iff_going (run_owed run) finished, kept]
  exact ⟨fun both => both.2, fun along => ⟨start, along⟩⟩

end Committing

def noSnapshots : SnapshotTable sqlite String := ⟨[], List.nodup_nil, fun _ member => (List.not_mem_nil member).elim⟩

def webUpsert (rawData : String) : Upsert String := ⟨"vmware_vm", "vm-1", "web01", rawData⟩

/- A second sync starts when the first one has stored the VM. -/
def successiveUpserts : List (UpsertEvent String) :=
  [.create (webUpsert "poweredOn"), .create ⟨"vmware_datastore", "datastore-1", "ds", "NFS"⟩, .select 1, .select 0,
    .commit 0, .create (webUpsert "poweredOff"), .select 2, .commit 1, .commit 2]

theorem successive_upserts_mapped : ∃ s, Runs.exec Snapshots.step ⟨noSnapshots, []⟩ successiveUpserts = some s ∧
    s.Finished ∧ s.Mapped := by
  have ends : (Runs.exec Snapshots.step ⟨noSnapshots, []⟩ successiveUpserts).any
      (fun s => s.tasks.all (fun task => task.stage.finished)) = true := by decide +kernel
  obtain ⟨s, run, ended⟩ := (Option.any_eq_true _ _).mp ends
  have finished : s.Finished := fun task member => List.all_eq_true.mp ended task member
  have undisturbed : Runs.Along Snapshots.step Undisturbed ⟨noSnapshots, []⟩ successiveUpserts := by decide +kernel
  exact ⟨s, run, finished, (snapshots_mapped_iff run finished).mpr undisturbed⟩

/- Two syncs that overlap: both look for the VM before one of them has stored it. -/
def overlappingUpserts : List (UpsertEvent String) :=
  [.create (webUpsert "poweredOn"), .create (webUpsert "poweredOn"), .select 0, .select 1, .commit 0, .commit 1]

theorem overlapping_upsert_fails : ¬ ∀ (b : Backend) (table : SnapshotTable b String)
    (events : List (UpsertEvent String)) (s : Snapshots b String),
    Runs.exec Snapshots.step ⟨table, []⟩ events = some s → s.Finished → s.Mapped := by
  intro claim
  have ends : (Runs.exec Snapshots.step ⟨noSnapshots, []⟩ overlappingUpserts).any
      (fun s => s.tasks.all (fun task => task.stage.finished) && s.tasks.any (fun task => task.stage.hasFailed)) =
      true := by decide +kernel
  obtain ⟨s, run, ended⟩ := (Option.any_eq_true _ _).mp ends
  obtain ⟨all, some_failed⟩ := Bool.and_eq_true_iff.mp ended
  obtain ⟨task, member, failed⟩ := List.any_eq_true.mp some_failed
  have mapped := claim sqlite noSnapshots overlappingUpserts s run (fun task member => List.all_eq_true.mp all task member)
  exact absurd (failed.symm.trans (mapped.unfailed task member)) (by simp)

end VMachine.VMware
