import VMachine.Database.Session
import VMachine.Lib.Runs

/-! Migration tasks. Three writers share a row: the service, the progress endpoint, which
passes any integer on to it, and the worker's cleanup of stale tasks. A task is sound while its
progress is a percentage and it has a finishing time exactly if its status is terminal. -/
namespace VMachine.Orchestration
open OpenStack Database Tables
open Py (nonempty)

structure MigrationCreateRequest where
  migrationType : String
  sourceRef : String
  destinationRef : Option String := none
  resourceType : String := "server"
  resourceId : Option String := none
  deriving Repr, DecidableEq

/- A row of migration_tasks, without the column that nothing reads. -/
structure MigrationTask where
  id : String
  migrationType : String
  sourceRef : String
  destinationRef : Option String
  resourceType : String
  resourceId : Option String
  status : String
  progress : Int
  errorMessage : Option String
  createdAt : Nat
  finishedAt : Option Nat
  deriving Repr, DecidableEq

structure MigrationTaskSummary where
  id : String
  migrationType : String
  sourceRef : String
  destinationRef : Option String
  resourceType : String
  resourceId : Option String
  status : String
  progress : Int
  errorMessage : Option String
  createdAt : Option String
  finishedAt : Option String
  operationTaskId : Option Nat := none
  deriving Repr, DecidableEq

def MigrationTask.fits (b : Backend) (task : MigrationTask) : Bool :=
  b.takes 36 task.id && b.takes 50 task.migrationType && b.takes 255 task.sourceRef &&
    task.destinationRef.all (b.takes 255) && b.takes 50 task.resourceType && task.resourceId.all (b.takes 255) &&
    b.takes 50 task.status && b.takesInt task.progress

abbrev MigrationTable (b : Backend) := Table MigrationTask.id (MigrationTask.fits b)

def emptyMigrations (b : Backend) : MigrationTable b := ⟨[], List.nodup_nil, by simp⟩

/- The statuses that end a task. -/
def terminal (status : String) : Bool := decide (status = "succeeded" ∨ status = "failed")

def migrationNotFound : Exc := .appException "Migration task not found" 404 "migration_not_found"

/- What is raised for a session whose sessionmaker has not been bound to an engine. -/
def unboundExecution : Exc :=
  .foreign "UnboundExecutionError" "Could not locate a bind configured on mapper mapped class MigrationTask"

/- An hour, in microseconds. -/
def hour : Nat := 3600 * 1000000

section Service
variable {b : Backend} (isoformat : Nat → String)

def serializeMigration (task : MigrationTask) : MigrationTaskSummary where
  id := task.id
  migrationType := task.migrationType
  sourceRef := task.sourceRef
  destinationRef := task.destinationRef
  resourceType := task.resourceType
  resourceId := task.resourceId
  status := task.status
  progress := task.progress
  errorMessage := task.errorMessage
  createdAt := some (isoformat task.createdAt)
  finishedAt := task.finishedAt.map isoformat

/- The row of `create_migration`, with the id and the time that its columns default to. -/
def newMigration (payload : MigrationCreateRequest) (id : String) (now : Nat) : MigrationTask where
  id := id
  migrationType := payload.migrationType
  sourceRef := payload.sourceRef
  destinationRef := payload.destinationRef
  resourceType := payload.resourceType
  resourceId := payload.resourceId
  status := "queued"
  progress := 0
  errorMessage := none
  createdAt := now
  finishedAt := none

def createMigration (table : MigrationTable b) (payload : MigrationCreateRequest) (id : String) (now : Nat) :
    Except Exc (MigrationTaskSummary × MigrationTable b) :=
  match table.insert (newMigration payload id now) with
  | .ok written => .ok (serializeMigration isoformat (newMigration payload id now), written)
  | .error violation => .error (refusal violation)

/- The assignments of `update_migration_progress`. An empty status is none. -/
def MigrationTask.advance (progress : Int) (status : Option String) (now : Nat) (task : MigrationTask) : MigrationTask :=
  { task with
    progress := progress
    status := (nonempty status).getD task.status
    finishedAt := if status.any terminal then some now else task.finishedAt }

theorem advance_id (progress : Int) (status : Option String) (now : Nat) (task : MigrationTask) :
    (task.advance progress status now).id = task.id := rfl

def updateMigrationProgress (table : MigrationTable b) (migrationId : String) (progress : Int) (status : Option String)
    (now : Nat) : Except Exc (MigrationTaskSummary × MigrationTable b) :=
  match table.rows.find? (fun task => task.id == migrationId) with
  | none => .error migrationNotFound
  | some task =>
    match table.update migrationId (MigrationTask.advance progress status now) (advance_id progress status now) with
    | .ok written => .ok (serializeMigration isoformat (task.advance progress status now), written)
    | .error violation => .error (refusal violation)

/- `POST /migrations/id/progress`, whose progress is any integer. -/
def postMigrationProgress (table : MigrationTable b) (migrationId : String) (progress : Int) (now : Nat) :
    Except Exc (MigrationTaskSummary × MigrationTable b) :=
  updateMigrationProgress isoformat table migrationId progress none now

end Service

section Cleanup
variable {b : Backend}

/- In progress, and created more than an hour ago. -/
def MigrationTask.stale (now : Nat) (task : MigrationTask) : Bool :=
  decide (task.status = "in_progress" ∧ task.createdAt + hour < now)

def MigrationTask.giveUp (now : Nat) (task : MigrationTask) : MigrationTask :=
  if task.stale now then { task with status := "failed", progress := 0 } else task

theorem giveUp_id (now : Nat) (task : MigrationTask) : (task.giveUp now).id = task.id := by
  unfold MigrationTask.giveUp
  split <;> rfl

/- `cleanup_stale_migrations_task`, in a process that has bound its sessions or not. -/
def cleanupStaleMigrationsTask (bound : Bool) (table : MigrationTable b) (now : Nat) : Except Exc (MigrationTable b) :=
  if bound then
    match table.revise (MigrationTask.giveUp now) (giveUp_id now) with
    | .ok written => .ok written
    | .error violation => .error (refusal violation)
  else .error unboundExecution

end Cleanup

/- A call of one of the three writers. The id, the time and the process are its circumstances. -/
inductive Writing where
  | create (payload : MigrationCreateRequest) (id : String) (now : Nat)
  | update (migrationId : String) (progress : Int) (status : Option String) (now : Nat)
  | post (migrationId : String) (progress : Int) (now : Nat)
  | cleanup (bound : Bool) (now : Nat)
  deriving Repr, DecidableEq

section Writers
variable {b : Backend} (isoformat : Nat → String)

/- A call that raises leaves the table as it was. -/
def committed {α : Type} (table : MigrationTable b) (result : Except Exc (α × MigrationTable b)) : MigrationTable b :=
  match result with
  | .ok (_, written) => written
  | .error _ => table

def migrationStep (table : MigrationTable b) : Writing → Option (MigrationTable b)
  | .create payload id now => some (committed table (createMigration isoformat table payload id now))
  | .update migrationId progress status now =>
    some (committed table (updateMigrationProgress isoformat table migrationId progress status now))
  | .post migrationId progress now =>
    some (committed table (postMigrationProgress isoformat table migrationId progress now))
  | .cleanup bound now =>
    some (committed table ((cleanupStaleMigrationsTask bound table now).map (fun written => ((), written))))

end Writers

/- The progress is a percentage, and the task is finished exactly if its status is terminal. -/
structure MigrationTask.Sound (task : MigrationTask) : Prop where
  atLeast : 0 ≤ task.progress
  atMost : task.progress ≤ 100
  finished : task.finishedAt.isSome = terminal task.status

def SoundTasks {b : Backend} (table : MigrationTable b) : Prop := ∀ task ∈ table.rows, task.Sound

/- What an update may ask of a task: a percentage, and no status that takes a finished task up
again. It does not matter what is asked if the database refuses it. -/
def MigrationTask.Admits (b : Backend) (task : MigrationTask) (progress : Int) (status : Option String) (now : Nat) : Prop :=
  (task.advance progress status now).fits b = true →
    0 ≤ progress ∧ progress ≤ 100 ∧ ∀ given, nonempty status = some given → terminal given = false →
      terminal task.status = false

def Admissible {b : Backend} (table : MigrationTable b) : Writing → Prop
  | .create _ _ _ => True
  | .update migrationId progress status now =>
    ∀ task ∈ table.rows, task.id = migrationId → task.Admits b progress status now
  | .post migrationId progress now => ∀ task ∈ table.rows, task.id = migrationId → task.Admits b progress none now
  | .cleanup bound now => bound = true → ∀ task ∈ table.rows, task.stale now = false

section Soundness
variable {b : Backend} {isoformat : Nat → String} {table t : MigrationTable b}

/-- What an update makes of a sound task. -/
theorem advance_sound_iff {task : MigrationTask} (sound : task.Sound) (progress : Int) (status : Option String) (now : Nat) :
    (task.advance progress status now).Sound ↔ 0 ≤ progress ∧ progress ≤ 100 ∧
      ∀ given, nonempty status = some given → terminal given = false → terminal task.status = false := by
  have finished : (task.advance progress status now).finishedAt.isSome =
      terminal (task.advance progress status now).status ↔
      ∀ given, nonempty status = some given → terminal given = false → terminal task.status = false := by
    cases text : nonempty status with
    | none =>
      have goesOn : status.any terminal = false := by
        cases status with
        | none => rfl
        | some given =>
          by_cases empty : given = ""
          · rw [empty]
            decide
          · simp [nonempty, empty] at text
      simp [MigrationTask.advance, text, goesOn, sound.finished]
    | some given =>
      obtain ⟨rfl, filled⟩ := Py.nonempty_eq_some.mp text
      have written : (task.advance progress (some given) now).status = given := by simp [MigrationTask.advance, text]
      by_cases ends : terminal given = true
      · have done : (task.advance progress (some given) now).finishedAt = some now := by simp [MigrationTask.advance, ends]
        rw [done, written, ends]
        refine iff_of_true rfl (fun other same goesOn => ?_)
        cases same
        rw [ends] at goesOn
        contradiction
      · have kept : (task.advance progress (some given) now).finishedAt = task.finishedAt := by
          simp [MigrationTask.advance, ends]
        have goesOn : terminal given = false := Bool.eq_false_iff.mpr ends
        rw [kept, written, sound.finished, goesOn]
        constructor
        · intro unfinished _ _ _
          exact unfinished
        · intro admits
          exact admits given rfl goesOn
  constructor
  · intro after
    exact ⟨after.atLeast, after.atMost, finished.mp after.finished⟩
  · rintro ⟨atLeast, atMost, admits⟩
    exact ⟨atLeast, atMost, finished.mpr admits⟩

theorem newMigration_sound (payload : MigrationCreateRequest) (id : String) (now : Nat) :
    (newMigration payload id now).Sound where
  atLeast := Int.le_refl 0
  atMost := by simp [newMigration]
  finished := rfl

theorem createMigration_sound (sound : SoundTasks table) (payload : MigrationCreateRequest) (id : String) (now : Nat) :
    SoundTasks (committed table (createMigration isoformat table payload id now)) := by
  unfold createMigration
  cases inserted : table.insert (newMigration payload id now) with
  | error violation => exact sound
  | ok written =>
    obtain ⟨rows, _, _⟩ := Table.rows_of_insert inserted
    intro task member
    change task ∈ written.rows at member
    rw [rows] at member
    obtain old | new := List.mem_append.mp member
    · exact sound task old
    · rw [List.mem_singleton.mp new]
      exact newMigration_sound payload id now

/-- Among sound tasks, an update is as sound as the row that it writes. -/
theorem update_sound_iff (sound : SoundTasks table) {task : MigrationTask} (member : task ∈ table.rows)
    {f : MigrationTask → MigrationTask} {keeps : ∀ row, (f row).id = row.id}
    (updated : table.update task.id f keeps = .ok t) : SoundTasks t ↔ (f task).Sound := by
  constructor
  · intro after
    have kept := Table.mem_update updated member
    rw [if_pos rfl] at kept
    exact after _ kept
  · intro after row inside
    rw [Table.rows_of_update updated] at inside
    obtain ⟨old, was, rfl⟩ := List.mem_map.mp inside
    unfold rewrite
    split
    · rename_i same
      rw [Table.eq_of_key was member same]
      exact after
    · exact sound old was

/-- An update keeps the tasks sound exactly if the task it is for admits it. -/
theorem updateMigrationProgress_sound_iff (sound : SoundTasks table) (migrationId : String) (progress : Int)
    (status : Option String) (now : Nat) :
    SoundTasks (committed table (updateMigrationProgress isoformat table migrationId progress status now)) ↔
      ∀ task ∈ table.rows, task.id = migrationId → task.Admits b progress status now := by
  unfold updateMigrationProgress
  cases found : table.rows.find? (fun task => task.id == migrationId) with
  | none =>
    refine iff_of_true sound (fun task member own => ?_)
    have other := List.find?_eq_none.mp found task member
    exact absurd (beq_iff_eq.mpr own) other
  | some task =>
    obtain rfl : task.id = migrationId := by simpa using List.find?_some found
    have member := List.mem_of_find?_eq_some found
    have only : ∀ other ∈ table.rows, other.id = task.id → other = task := fun other inside same =>
      Table.eq_of_key inside member same
    simp only
    cases updated : table.update task.id (MigrationTask.advance progress status now)
        (advance_id progress status now) with
    | error violation =>
      obtain ⟨row, inside, same, refused⟩ := Table.update_refused updated
      refine iff_of_true sound (fun other also its fits => ?_)
      rw [only other also its, ← only row inside same, refused] at fits
      contradiction
    | ok written =>
      have fits : (task.advance progress status now).fits b = true := by
        have kept := Table.mem_update updated member
        rw [if_pos rfl] at kept
        exact written.checked _ kept
      change SoundTasks written ↔ _
      rw [update_sound_iff sound member updated, advance_sound_iff (sound task member)]
      constructor
      · intro admits other inside same _
        rw [only other inside same]
        exact admits
      · intro admits
        exact admits task member rfl fits

theorem giveUp_fits (now : Nat) (task : MigrationTask) (fits : task.fits b = true) : (task.giveUp now).fits b = true := by
  unfold MigrationTask.giveUp
  split
  · have failed : b.takes 50 "failed" = true := by
      have short : "failed".length ≤ 50 := by decide
      simp [Backend.takes, short]
    have zero : b.takesInt 0 = true := by
      have room : (0 : Int) < 2 ^ (b.integerBits - 1) := Int.pow_pos (by decide)
      exact decide_eq_true ⟨by omega, room⟩
    simp only [MigrationTask.fits, Bool.and_eq_true] at fits ⊢
    exact ⟨⟨fits.1.1, failed⟩, zero⟩
  · exact fits

/-- A stale task that is given up has failed without a finishing time. -/
theorem giveUp_sound_iff {task : MigrationTask} (sound : task.Sound) (now : Nat) :
    (task.giveUp now).Sound ↔ task.stale now = false := by
  unfold MigrationTask.giveUp
  split
  · rename_i stale
    refine iff_of_false (fun after => ?_) (by simp [stale])
    have unfinished : task.finishedAt.isSome = false := by
      rw [sound.finished, (of_decide_eq_true stale).1]
      decide
    have finished := after.finished
    rw [unfinished] at finished
    contradiction
  · rename_i fresh
    exact iff_of_true sound (Bool.eq_false_iff.mpr fresh)

theorem cleanup_sound_iff (sound : SoundTasks table) (bound : Bool) (now : Nat) :
    SoundTasks (committed table ((cleanupStaleMigrationsTask bound table now).map (fun written => ((), written)))) ↔
      (bound = true → ∀ task ∈ table.rows, task.stale now = false) := by
  cases bound with
  | false => exact iff_of_true sound (fun never => nomatch never)
  | true =>
    obtain ⟨written, revised, rows⟩ :=
      @Table.rows_of_revise _ _ _ _ table _ (giveUp_id now) (giveUp_fits now)
    have result : cleanupStaleMigrationsTask true table now = .ok written := by
      simp [cleanupStaleMigrationsTask, revised]
    rw [result]
    change SoundTasks written ↔ _
    unfold SoundTasks
    rw [rows]
    constructor
    · intro after _ task member
      exact (giveUp_sound_iff (sound task member) now).mp (after _ (List.mem_map_of_mem member))
    · intro fresh row member
      obtain ⟨task, inside, rfl⟩ := List.mem_map.mp member
      exact (giveUp_sound_iff (sound task inside) now).mpr (fresh rfl task inside)

/-- What one call does to sound tasks. -/
theorem migrationStep_sound_iff {writing : Writing} (sound : SoundTasks table)
    (next : migrationStep isoformat table writing = some t) : SoundTasks t ↔ Admissible table writing := by
  cases writing with
  | create payload id now =>
    cases next
    exact iff_of_true (createMigration_sound sound payload id now) trivial
  | update migrationId progress status now =>
    cases next
    exact updateMigrationProgress_sound_iff sound migrationId progress status now
  | post migrationId progress now =>
    cases next
    exact updateMigrationProgress_sound_iff sound migrationId progress none now
  | cleanup bound now =>
    cases next
    exact cleanup_sound_iff sound bound now

end Soundness

/-- The tasks are sound in every state of a run exactly if every call of it is admissible: each
update passes a percentage and takes no finished task up again, and no cleanup finds a stale
task. -/
theorem migrations_sound_iff (b : Backend) (isoformat : Nat → String) (writings : List Writing) :
    Runs.Always (migrationStep isoformat) SoundTasks (emptyMigrations b) writings ↔
      Runs.Along (migrationStep isoformat) Admissible (emptyMigrations b) writings := by
  have total : ∀ (table : MigrationTable b) writing, ∃ t, migrationStep isoformat table writing = some t := by
    intro table writing
    cases writing <;> exact ⟨_, rfl⟩
  have nothing : SoundTasks (emptyMigrations b) := by
    intro task member
    contradiction
  obtain ⟨t, run⟩ := Runs.exec_total (migrationStep isoformat) total (emptyMigrations b) writings
  exact Runs.always_iff_along (I := fun _ => True) (migrationStep isoformat) (fun _ _ _ _ _ => trivial)
    (fun _ _ _ _ sound next => migrationStep_sound_iff sound next) trivial nothing run

/- The invariant, over all runs. -/
def MigrationsSound : Prop :=
  ∀ (b : Backend) (isoformat : Nat → String) (writings : List Writing),
    Runs.Always (migrationStep isoformat) SoundTasks (emptyMigrations b) writings

/- A task is created, and the endpoint is told that it is at 150 percent. -/
def overfullRun : List Writing :=
  [.create { migrationType := "cold", sourceRef := "srv-1" } "mig-1" 0, .post "mig-1" 150 1]

theorem overfull_progress_stored : ¬ MigrationsSound := by
  intro claim
  have always := claim postgresql toString overfullRun
  have stored : (Runs.exec (migrationStep toString) (emptyMigrations postgresql) overfullRun).map
      (fun table => table.rows.map MigrationTask.progress) = some [150] := by decide +kernel
  obtain ⟨t, run, rows⟩ := Option.map_eq_some_iff.mp stored
  have sound := Runs.last_of_always (migrationStep toString) always run
  obtain ⟨task, member, progress⟩ := List.mem_map.mp (rows ▸ List.mem_singleton_self (150 : Int))
  have most := (sound task member).atMost
  omega

end VMachine.Orchestration
