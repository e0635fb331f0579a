import VMachine.Orchestration.Migrations

/-! Which migrations the cleanup fails. It goes by the time at which a task was created, where
its purpose is about the time since when the task has been in progress. The history of the calls
tells the two apart. -/
namespace VMachine.Orchestration
open OpenStack Database Tables

/- The time at which a call is made. -/
def Writing.time : Writing → Nat
  | .create _ _ now => now
  | .update _ _ _ now => now
  | .post _ _ now => now
  | .cleanup _ now => now

section Dating
variable {b : Backend} (isoformat : Nat → String)

/- The status of a task, if there is one of that id. -/
def statusOf (table : MigrationTable b) (id : String) : Option String :=
  (table.rows.find? (fun task => task.id == id)).map MigrationTask.status

/- The table, and since when each task has been in its status. -/
structure Dated (b : Backend) where
  table : MigrationTable b
  since : String → Nat

def Dated.initial (b : Backend) : Dated b := ⟨emptyMigrations b, fun _ => 0⟩

/- A call, with the time noted for every task whose status it changes. -/
def datedStep (s : Dated b) (writing : Writing) : Option (Dated b) :=
  (migrationStep isoformat s.table writing).map (fun table =>
    ⟨table, fun id => if statusOf table id = statusOf s.table id then s.since id else writing.time⟩)

/- The table that a cleanup leaves. -/
def cleaned (table : MigrationTable b) (bound : Bool) (now : Nat) : MigrationTable b :=
  committed table ((cleanupStaleMigrationsTask bound table now).map (fun written => ((), written)))

/- In progress, and for more than an hour. -/
def Dated.Stuck (s : Dated b) (now : Nat) (task : MigrationTask) : Prop :=
  task.status = "in_progress" ∧ s.since task.id + hour < now

/- What is asked of a cleanup: of the tasks in the table, it changes to failed those that are stuck. -/
def FailsStuckOnly (s : Dated b) : Writing → Prop
  | .cleanup bound now => ∀ task ∈ s.table.rows,
      (task.status ≠ "failed" ∧ statusOf (cleaned s.table bound now) task.id = some "failed") ↔ s.Stuck now task
  | _ => True

/- No task in progress has an hour gone by since its creation and not since it was taken up, or
the other way about. Where the cleanup cannot run, no task is stuck. -/
def ToldApart (s : Dated b) : Writing → Prop
  | .cleanup bound now => ∀ task ∈ s.table.rows, task.status = "in_progress" →
      if bound then task.createdAt + hour < now ↔ s.since task.id + hour < now else now ≤ s.since task.id + hour
  | _ => True

instance (s : Dated b) (now : Nat) (task : MigrationTask) : Decidable (s.Stuck now task) :=
  inferInstanceAs (Decidable (_ ∧ _))

instance (s : Dated b) (writing : Writing) : Decidable (FailsStuckOnly s writing) :=
  match writing with
  | .cleanup bound now => inferInstanceAs (Decidable (∀ task ∈ s.table.rows,
      (task.status ≠ "failed" ∧ statusOf (cleaned s.table bound now) task.id = some "failed") ↔ s.Stuck now task))
  | .create _ _ _ => .isTrue trivial
  | .update _ _ _ _ => .isTrue trivial
  | .post _ _ _ => .isTrue trivial

end Dating

section Failing
variable {b : Backend} {isoformat : Nat → String} {table t : MigrationTable b}

theorem statusOf_of_mem {task : MigrationTask} (member : task ∈ table.rows) :
    statusOf table task.id = some task.status := by
  have found : table.rows.find? (fun other => other.id == task.id) = some task :=
    Table.find?_eq_some member (beq_self_eq_true task.id) (fun other same => beq_iff_eq.mp same)
  rw [statusOf, found]
  rfl

theorem statusOf_of_absent {id : String} (absent : id ∉ table.keys) : statusOf table id = none := by
  rw [statusOf, Option.map_eq_none_iff, List.find?_eq_none]
  intro task member same
  exact absent (List.mem_map.mpr ⟨task, member, beq_iff_eq.mp same⟩)

/-- In a bound process every task is given up that is stale, in any other none is. -/
theorem rows_cleaned (bound : Bool) (now : Nat) :
    (cleaned table bound now).rows = if bound then table.rows.map (MigrationTask.giveUp now) else table.rows := by
  cases bound with
  | false => rfl
  | true =>
    obtain ⟨written, revised, rows⟩ :=
      @Table.rows_of_revise _ _ _ _ table _ (giveUp_id now) (giveUp_fits now)
    have result : cleanupStaleMigrationsTask true table now = .ok written := by
      simp [cleanupStaleMigrationsTask, revised]
    rw [cleaned, result]
    exact rows

theorem statusOf_cleaned {task : MigrationTask} (member : task ∈ table.rows) (bound : Bool) (now : Nat) :
    statusOf (cleaned table bound now) task.id =
      some (if bound = true ∧ task.stale now = true then "failed" else task.status) := by
  cases bound with
  | false =>
    have kept : task ∈ (cleaned table false now).rows := by
      rw [rows_cleaned]
      exact member
    rw [statusOf_of_mem kept]
    simp
  | true =>
    have inside : task.giveUp now ∈ (cleaned table true now).rows := by
      rw [rows_cleaned, if_pos rfl]
      exact List.mem_map_of_mem member
    have status := statusOf_of_mem inside
    rw [giveUp_id] at status
    rw [status, MigrationTask.giveUp]
    by_cases stale : task.stale now = true <;> simp [stale]

/-- A task that has not failed is changed to failed exactly if it is stale. -/
theorem failed_by_cleaned {task : MigrationTask} (member : task ∈ table.rows) (bound : Bool) (now : Nat) :
    (task.status ≠ "failed" ∧ statusOf (cleaned table bound now) task.id = some "failed") ↔
      bound = true ∧ task.status = "in_progress" ∧ task.createdAt + hour < now := by
  rw [statusOf_cleaned member, Option.some.injEq]
  constructor
  · rintro ⟨unfailed, after⟩
    split at after
    · rename_i given
      exact ⟨given.1, of_decide_eq_true given.2⟩
    · contradiction
  · rintro ⟨runs, progress, created⟩
    have stale : task.stale now = true := decide_eq_true ⟨progress, created⟩
    have unfailed : task.status ≠ "failed" := by
      rw [progress]
      decide
    exact ⟨unfailed, if_pos ⟨runs, stale⟩⟩

theorem failsStuckOnly_iff (s : Dated b) (writing : Writing) : FailsStuckOnly s writing ↔ ToldApart s writing := by
  cases writing with
  | create payload id now => exact Iff.rfl
  | update migrationId progress status now => exact Iff.rfl
  | post migrationId progress now => exact Iff.rfl
  | cleanup bound now =>
    apply forall₂_congr
    intro task member
    rw [failed_by_cleaned member, Dated.Stuck]
    cases bound with
    | false =>
      simp only [Bool.false_eq_true, false_and, false_iff, not_and, not_lt, if_false]
    | true =>
      simp only [true_and, if_true]
      exact and_congr_right_iff

end Failing

section Ordered
variable {b : Backend} {isoformat : Nat → String} {table t : MigrationTable b} {s : Dated b} {history : List Writing}

/-- A row after a call was there before, with the same time of creation, or is created by it. -/
theorem kept_or_created {writing : Writing} (next : migrationStep isoformat table writing = some t)
    {task : MigrationTask} (member : task ∈ t.rows) :
    (∃ old ∈ table.rows, old.id = task.id ∧ old.createdAt = task.createdAt) ∨
      task.createdAt = writing.time ∧ task.id ∉ table.keys := by
  have updated (migrationId : String) (progress : Int) (status : Option String) (now : Nat)
      (inside : task ∈ (committed table (updateMigrationProgress isoformat table migrationId progress status now)).rows) :
      ∃ old ∈ table.rows, old.id = task.id ∧ old.createdAt = task.createdAt := by
    unfold updateMigrationProgress at inside
    split at inside
    · exact ⟨task, inside, rfl, rfl⟩
    · split at inside
      · rename_i written updated
        change task ∈ written.rows at inside
        rw [Table.rows_of_update updated] at inside
        obtain ⟨old, was, rfl⟩ := List.mem_map.mp inside
        refine ⟨old, was, (key_rewrite _ (advance_id progress status now) old).symm, ?_⟩
        unfold rewrite
        split <;> rfl
      · exact ⟨task, inside, rfl, rfl⟩
  cases writing with
  | create payload id now =>
    cases next
    unfold createMigration at member
    split at member
    · rename_i written inserted
      obtain ⟨rows, _, fresh⟩ := Table.rows_of_insert inserted
      change task ∈ written.rows at member
      rw [rows] at member
      obtain old | new := List.mem_append.mp member
      · exact .inl ⟨task, old, rfl, rfl⟩
      · rw [List.mem_singleton.mp new]
        exact .inr ⟨rfl, fresh⟩
    · exact .inl ⟨task, member, rfl, rfl⟩
  | update migrationId progress status now =>
    cases next
    exact .inl (updated migrationId progress status now member)
  | post migrationId progress now =>
    cases next
    exact .inl (updated migrationId progress none now member)
  | cleanup bound now =>
    cases next
    change task ∈ (cleaned table bound now).rows at member
    rw [rows_cleaned] at member
    split at member
    · obtain ⟨old, was, rfl⟩ := List.mem_map.mp member
      refine .inl ⟨old, was, (giveUp_id now old).symm, ?_⟩
      unfold MigrationTask.giveUp
      split <;> rfl
    · exact .inl ⟨task, member, rfl, rfl⟩

/- Each task was created at the time of a call, and has come into its status no earlier. -/
def Dated.InTime (times : List Nat) (s : Dated b) : Prop :=
  ∀ task ∈ s.table.rows, task.createdAt ∈ times ∧ task.createdAt ≤ s.since task.id

theorem datedStep_inTime {times : List Nat} {writing : Writing} {after : Dated b} (inTime : s.InTime times)
    (latest : ∀ time ∈ times, time ≤ writing.time) (next : datedStep isoformat s writing = some after) :
    after.InTime (times ++ [writing.time]) := by
  obtain ⟨written, step, rfl⟩ := Option.map_eq_some_iff.mp next
  intro task member
  obtain ⟨old, was, sameId, sameTime⟩ | ⟨created, fresh⟩ := kept_or_created step member
  · obtain ⟨known, before⟩ := inTime old was
    rw [sameTime] at known before
    rw [sameId] at before
    refine ⟨List.mem_append_left _ known, ?_⟩
    by_cases same : statusOf written task.id = statusOf s.table task.id
    · simpa only [same, if_true] using before
    · simpa only [same, if_false] using latest _ known
  · have absent := statusOf_of_absent fresh
    have present := statusOf_of_mem member
    simp only [created, absent, present, List.mem_append, List.mem_singleton, or_true, reduceCtorEq, if_false, le_refl,
      and_self]

/-- In a history in the order of time, every task has come into its status after its creation. -/
theorem created_before_entered (run : Runs.exec (datedStep isoformat) (Dated.initial b) history = some s)
    (ordered : (history.map Writing.time).Pairwise (· ≤ ·)) : s.InTime (history.map Writing.time) := by
  have all := Runs.history (I := fun calls (s : Dated b) => (calls.map Writing.time).Pairwise (· ≤ ·) →
      s.InTime (calls.map Writing.time)) (datedStep isoformat) ?_ ?_ run
  · exact all ordered
  · intro calls s writing after inTime next sorted
    rw [List.map_append, List.pairwise_append] at sorted
    rw [List.map_append]
    exact datedStep_inTime (inTime sorted.1) (fun time earlier => sorted.2.2 time earlier _ (by simp)) next
  · intro _ task member
    contradiction

/-- So the cleanup misses no stuck task. -/
theorem none_missed (run : Runs.exec (datedStep isoformat) (Dated.initial b) history = some s)
    (ordered : (history.map Writing.time).Pairwise (· ≤ ·)) {now : Nat} {task : MigrationTask} (member : task ∈ s.table.rows)
    (stuck : s.Stuck now task) : statusOf (cleaned s.table true now) task.id = some "failed" := by
  obtain ⟨progress, long⟩ := stuck
  have before := (created_before_entered run ordered task member).2
  exact ((failed_by_cleaned member true now).mpr ⟨rfl, progress, by omega⟩).2

/-- It errs by failing tasks that have waited for an hour before they were taken up, and in no other way. -/
theorem failsStuckOnly_of_ordered (run : Runs.exec (datedStep isoformat) (Dated.initial b) history = some s)
    (ordered : (history.map Writing.time).Pairwise (· ≤ ·)) (now : Nat) :
    FailsStuckOnly s (.cleanup true now) ↔ ∀ task ∈ s.table.rows, task.status = "in_progress" →
      task.createdAt + hour < now → s.since task.id + hour < now := by
  rw [failsStuckOnly_iff]
  have inTime := created_before_entered run ordered
  constructor
  · intro apart task member progress created
    exact (apart task member progress).mp created
  · intro waited task member progress
    refine ⟨waited task member progress, fun stuck => ?_⟩
    have before := (inTime task member).2
    omega

end Ordered

/-- In a history of calls, the cleanups fail the stuck migrations and no others exactly if at each
of them every migration in progress was created more than an hour ago if and only if it was
taken up more than an hour ago. If the calls are in the order of time, a cleanup in a bound process
misses no stuck migration, so that it can only fail one too early. -/
theorem cleanups_fail_stuck_only_iff (b : Backend) (isoformat : Nat → String) (history : List Writing) :
    (Runs.Along (datedStep isoformat) FailsStuckOnly (Dated.initial b) history ↔
      Runs.Along (datedStep isoformat) ToldApart (Dated.initial b) history) ∧
    ∀ s, Runs.exec (datedStep isoformat) (Dated.initial b) history = some s →
      (history.map Writing.time).Pairwise (· ≤ ·) → ∀ now,
        (∀ task ∈ s.table.rows, s.Stuck now task → statusOf (cleaned s.table true now) task.id = some "failed") ∧
        (FailsStuckOnly s (.cleanup true now) ↔ ∀ task ∈ s.table.rows, task.status = "in_progress" →
          task.createdAt + hour < now → s.since task.id + hour < now) := by
  refine ⟨Runs.along_congr (datedStep isoformat) failsStuckOnly_iff, fun s run ordered now => ⟨?_, ?_⟩⟩
  · exact fun task member stuck => none_missed run ordered member stuck
  · exact failsStuckOnly_of_ordered run ordered now

/- A migration that is taken up after a minute. -/
def takenUp : List Writing :=
  [.create { migrationType := "cold", sourceRef := "srv-1" } "mig-1" 0, .update "mig-1" 0 (some "in_progress") 60000000]

/-- Two hours later it is stuck, and the cleanup fails it and no other. -/
theorem stuck_migration_fails : ∃ s, Runs.exec (datedStep toString) (Dated.initial postgresql) takenUp = some s ∧
    statusOf (cleaned s.table true (2 * hour)) "mig-1" = some "failed" ∧ FailsStuckOnly s (.cleanup true (2 * hour)) := by
  have ends : (Runs.exec (datedStep toString) (Dated.initial postgresql) takenUp).any (fun s =>
      s.table.rows.all (fun task => decide (task.id = "mig-1" ∧ s.Stuck (2 * hour) task)) && !s.table.rows.isEmpty) = true := by
    decide +kernel
  obtain ⟨s, run, seen⟩ := (Option.any_eq_true _ _).mp ends
  obtain ⟨all, some⟩ := Bool.and_eq_true_iff.mp seen
  have stuck (task : MigrationTask) (member : task ∈ s.table.rows) : task.id = "mig-1" ∧ s.Stuck (2 * hour) task :=
    of_decide_eq_true (List.all_eq_true.mp all task member)
  have ordered : (takenUp.map Writing.time).Pairwise (· ≤ ·) := by decide
  obtain ⟨missesNone, stuckOnly⟩ := (cleanups_fail_stuck_only_iff postgresql toString takenUp).2 s run ordered (2 * hour)
  obtain ⟨task, member⟩ := List.exists_mem_of_ne_nil _ (by simpa using some)
  have fails := missesNone task member (stuck task member).2
  rw [(stuck task member).1] at fails
  exact ⟨s, run, fails, stuckOnly.mpr (fun other there _ _ => (stuck other there).2.2)⟩

/- The law, over all histories. -/
def CleanupsFailStuckOnly : Prop :=
  ∀ (b : Backend) (isoformat : Nat → String) (history : List Writing),
    Runs.Along (datedStep isoformat) FailsStuckOnly (Dated.initial b) history

/- A migration that is queued for two hours, and the cleanup a second after it has been taken up. -/
def queuedForLong : List Writing :=
  [.create { migrationType := "cold", sourceRef := "srv-1" } "mig-1" 0,
    .update "mig-1" 0 (some "in_progress") (2 * hour), .cleanup true (2 * hour + 1000000)]

theorem just_started_fails : ¬ CleanupsFailStuckOnly := by
  intro claim
  have along := claim postgresql toString queuedForLong
  have breach : ¬ Runs.Along (datedStep toString) FailsStuckOnly (Dated.initial postgresql) queuedForLong := by
    decide +kernel
  exact breach along

end VMachine.Orchestration
