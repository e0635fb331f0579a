import VMachine.OpenStack.Requests
import VMachine.OpenStack.Tasks
import VMachine.Orchestration.Migrations

/-! `MigrationManager.execute_vmware_migration`. The execution commits its progress five times, and
between two commits the service, the progress endpoint and the cleanup may write to the same row. A
commit sends the columns that the session takes to have changed, and no others. -/
namespace VMachine.Orchestration
open OpenStack Database Tables Py Effects Traces

/- The arguments, with the settings and what vCenter and the file system answer. `vmName` is the
name that is read off the virtual machine for the path of its disk. -/
structure Job where
  taskId : String
  vmName : String
  targetFlavor : String
  targetNetwork : String
  diskDir : String
  getVmByName : Nat → Option Exc
  makedirs : Nat → Option Exc
  nameOf : Nat → Except Exc String
  openDisk : Nat → String → Option Exc

def migrationFailed (exc : Exc) : Exc := .appException ("Migration failed: " ++ exc.message) 400 "app_error"

/- What a session raises whose transaction is over. -/
def pendingRollback : Exc :=
  .foreign "PendingRollbackError" "This Session's transaction has been rolled back due to a previous exception during flush."

/- What it raises when the answer to its COMMIT was lost, so that it does not know the outcome. -/
def invalidTransaction : Exc :=
  .foreign "PendingRollbackError" "Can't reconnect until invalid transaction is rolled back.  Please rollback() fully before proceeding"

/- What becomes of a statement: it is answered, it is refused, or it is carried out and the answer
is lost. -/
inductive Answer where
  | given
  | refused
  | lost
  deriving Repr, DecidableEq

def notInOpenStack (kind name : String) : Exc :=
  .appException ("Target " ++ kind ++ " '" ++ name ++ "' not found in OpenStack") 400 "app_error"

section Work
variable (env : Env) (job : Job)

/- A call that raises, or has no result that is looked at. -/
def mayRaise (answer : Nat → Option Exc) : M Unit := do
  let n ← ask
  match answer n with
  | some exc => throw exc
  | none => return

def exportVmDisk : M String := do
  mayRaise job.makedirs
  let n ← ask
  let name ← OpenStack.ofExcept (job.nameOf n)
  return job.diskDir ++ "/" ++ name ++ ".vmdk"

/- The open file is sent as the data of the image. -/
def uploadDisk (path : String) : M Val := do
  mayRaise (fun n => job.openDisk n path)
  let image ← call env "image" "create_image" []
    [("name", .str ("migrated-" ++ job.vmName)), ("data", .str path), ("disk_format", .str "vmdk"),
      ("container_format", .str "bare")]
  return image.value

def findTarget (service operation kind name : String) : M Val := do
  let found ← call env service operation [.str name] []
  if found.value.truthy then return found.value else throw (notInOpenStack kind name)

/- The id of the server that is created of the image. -/
def launchServer (image : Val) : M Val := do
  let flavor ← findTarget env "compute" "get_flavor" "flavor" job.targetFlavor
  let network ← findTarget env "network" "get_network" "network" job.targetNetwork
  let imageId ← OpenStack.ofExcept (readAttr image "id")
  let flavorId ← OpenStack.ofExcept (readAttr flavor "id")
  let networkId ← OpenStack.ofExcept (readAttr network "id")
  let server ← call env "compute" "create_server" []
    [("name", .str ("migrated-" ++ job.vmName)), ("image_id", imageId), ("flavor_id", flavorId),
      ("networks", .list [.dict [("uuid", networkId)]])]
  OpenStack.ofExcept (readAttr server.value "id")

end Work

/- Where the execution is, with the task as its session has it. -/
inductive Point where
  | loading
  | absent
  | marking (held : MigrationTask)
  | locating (held : MigrationTask)
  | exporting (held : MigrationTask)
  | uploading (held : MigrationTask) (path : String)
  | launching (held : MigrationTask) (image : Val)
  | completed
  | raised (exc : Exc)

/- The task that the session of the execution has, while it works on it. -/
def Point.task : Point → Option MigrationTask
  | .marking held | .locating held | .exporting held | .uploading held _ | .launching held _ => some held
  | .loading | .absent | .completed | .raised _ => none

/- `written` are the status and the progress of each commit that was carried out, and `unanswered`
says that the answer to the last one was lost. -/
structure Execution (b : Backend) where
  world : World
  table : MigrationTable b
  point : Point
  written : List (String × Int)
  unanswered : Bool

def Execution.begin {b : Backend} (world : World) (table : MigrationTable b) : Execution b :=
  ⟨world, table, .loading, [], false⟩

/- The UPDATE of a commit: a column is set if its value is not the one that was loaded. -/
def MigrationTask.flush (held draft row : MigrationTask) : MigrationTask :=
  { row with
    status := if draft.status = held.status then row.status else draft.status
    progress := if draft.progress = held.progress then row.progress else draft.progress
    destinationRef := if draft.destinationRef = held.destinationRef then row.destinationRef else draft.destinationRef }

theorem flush_id (held draft row : MigrationTask) : (held.flush draft row).id = row.id := rfl

/- A value for the column destination_ref. -/
def destination : Val → Option (Option String)
  | .str s => some (some s)
  | .none => some none
  | _ => none

section Steps
variable {b : Backend} (env : Env) (job : Job) (s : Execution b)

/- `await session.commit()`, on the table, unless it is refused. -/
def flushed (table : MigrationTable b) (answer : Answer) (held draft : MigrationTask) : Option (MigrationTable b) :=
  if answer = .refused then none else (table.update job.taskId (held.flush draft) (flush_id held draft)).toOption

/- The session has committed, and goes on to a point if it is told so. -/
def Execution.carry (table : MigrationTable b) (answer : Answer) (mark : String × Int) (next : Point) (exc : Exc) :
    Execution b :=
  { s with
    table := table, written := s.written ++ [mark], unanswered := decide (answer = .lost)
    point := if answer = .lost then .raised exc else next }

/- The handler of `except Exception`. -/
def Execution.giveUp (answer : Answer) (held : MigrationTask) (exc : Exc) : Execution b :=
  match flushed job s.table answer held { held with status := "failed", progress := 0 } with
  | some table => s.carry table answer ("failed", 0) (.raised (migrationFailed exc)) databaseError
  | none => { s with point := .raised databaseError }

/- The assignments and the commit of one stage. Its failure leads to the handler, whose own commit
finds the transaction over. -/
def Execution.commit (answer : Answer) (held draft : MigrationTask) (next : MigrationTask → Point) : Execution b :=
  match flushed job s.table answer held draft with
  | some table => s.carry table answer (draft.status, draft.progress) (next draft) invalidTransaction
  | none => { s with point := .raised pendingRollback }

/- The work of a stage, and its commit. -/
def Execution.attempt {α : Type} (answer : Answer) (held : MigrationTask) (work : M α) (draft : α → Option MigrationTask)
    (next : α → MigrationTask → Point) : Execution b :=
  match work s.world with
  | .ok a w =>
    match draft a with
    | some draft => { s with world := w }.commit job answer held draft (next a)
    | none => { s with world := w, point := .raised pendingRollback }
  | .error exc w => { s with world := w }.giveUp job answer held exc

def MigrationTask.reaches (progress : Int) (held : MigrationTask) : MigrationTask := { held with progress := progress }

def MigrationTask.completes (serverId : Val) (held : MigrationTask) : Option MigrationTask :=
  (destination serverId).map (fun ref => { held with progress := 100, status := "completed", destinationRef := ref })

def Execution.proceed (answer : Answer) : Option (Execution b) :=
  match s.point with
  | .loading =>
    if answer = .given then
      match scalarOneOrNone (s.table.rows.filter (fun row => decide (row.id = job.taskId))) with
      | .ok none => some { s with point := .absent }
      | .ok (some task) => some { s with point := .marking task }
      | .error exc => some { s with point := .raised exc }
    else some { s with point := .raised databaseError }
  | .marking held =>
    some (s.commit job answer held { held with status := "in_progress", progress := 10 } .locating)
  | .locating held =>
    some (s.attempt job answer held (mayRaise job.getVmByName) (fun _ => some (held.reaches 30)) (fun _ => .exporting))
  | .exporting held =>
    some (s.attempt job answer held (exportVmDisk job) (fun _ => some (held.reaches 50))
      (fun path held => .uploading held path))
  | .uploading held path =>
    some (s.attempt job answer held (uploadDisk env job path) (fun _ => some (held.reaches 70))
      (fun image held => .launching held image))
  | .launching held image =>
    some (s.attempt job answer held (launchServer env job image) held.completes (fun _ _ => .completed))
  | _ => none

/- A step of the execution, with what becomes of its statement, or a call of one of the other writers. -/
inductive Move where
  | proceed (answer : Answer)
  | other (writing : Writing)

def Execution.step (isoformat : Nat → String) : Move → Option (Execution b)
  | .proceed answer => s.proceed env job answer
  | .other writing => (migrationStep isoformat s.table writing).map (fun table => { s with table := table })

end Steps

section Requested
variable {env : Env} {job : Job}

theorem mayRaise_emits (answer : Nat → Option Exc) : Emits World.operations [] (mayRaise answer) := by
  refine emits_after (operations_emits ask_emits) (fun n => ?_)
  split
  · exact emits_throw [] _
  · exact emits_pure _

theorem exportVmDisk_emits : Emits World.operations [] (exportVmDisk job) :=
  emits_after (mayRaise_emits _) (fun _ => emits_after (operations_emits ask_emits) (fun _ =>
    emits_after (operations_emits (ofExcept_emits _)) (fun _ => emits_pure _)))

theorem uploadDisk_emits (path : String) : Emits World.operations ["create_image"] (uploadDisk env job path) :=
  emits_after (mayRaise_emits _) (fun _ => emits_before (operations_emits (call_emits _ _ _ _)) (fun _ => emits_pure _))

theorem findTarget_emits (service operation kind name : String) :
    Emits World.operations [operation] (findTarget env service operation kind name) :=
  emits_before (operations_emits (call_emits _ _ _ _)) (fun _ => emits_ite _ (emits_pure _) (emits_throw [] _))

theorem launchServer_emits (image : Val) :
    Emits World.operations ["get_flavor", "get_network", "create_server"] (launchServer env job image) := by
  refine emits_cons (findTarget_emits _ _ _ _) (fun flavor => emits_cons (findTarget_emits _ _ _ _) (fun network => ?_))
  refine emits_after (operations_emits (ofExcept_emits _)) (fun _ => ?_)
  refine emits_after (operations_emits (ofExcept_emits _)) (fun _ => ?_)
  refine emits_after (operations_emits (ofExcept_emits _)) (fun _ => ?_)
  exact emits_before (operations_emits (call_emits _ _ _ _)) (fun _ => operations_emits (ofExcept_emits _))

end Requested

/- The first commits of an execution, and all the requests that it ever makes. -/
def marks : List (String × Int) := [("in_progress", 10), ("in_progress", 30), ("in_progress", 50), ("in_progress", 70)]

def migrationRequests : List String := ["create_image", "get_flavor", "get_network", "create_server"]

section Running
variable {b : Backend} {env : Env} {job : Job} {s t : Execution b} {start : World}

/- An execution has not written its ending, or has told it, or does not know of it. -/
def Execution.Ends (s : Execution b) (exc : Exc) (k : Nat) (asked : List String) : Prop :=
  (s.written = marks.take k ++ [("failed", 0)] ∧ s.unanswered = false ∧ ∃ cause, exc = migrationFailed cause) ∨
  (s.written = marks.take k ∧ ∀ cause, exc ≠ migrationFailed cause) ∨
  ((s.written = marks.take k ++ [("failed", 0)] ∨
      (s.written = marks ++ [("completed", 100)] ∧ asked = migrationRequests)) ∧
    s.unanswered = true ∧ ∀ cause, exc ≠ migrationFailed cause)

/- What an execution has written and asked for, by where it is. An execution that raises has written
a beginning of its marks, and after it that it has failed if it could. -/
def Execution.Recorded (start : World) (s : Execution b) : Prop :=
  match s.point with
  | .loading | .absent | .marking _ => s.written = [] ∧ s.world.operations = start.operations ∧ s.unanswered = false
  | .locating held => held.status = "in_progress" ∧ held.progress = 10 ∧ s.written = marks.take 1 ∧
      s.world.operations = start.operations ∧ s.unanswered = false
  | .exporting held => held.status = "in_progress" ∧ held.progress = 30 ∧ s.written = marks.take 2 ∧
      s.world.operations = start.operations ∧ s.unanswered = false
  | .uploading held _ => held.status = "in_progress" ∧ held.progress = 50 ∧ s.written = marks.take 3 ∧
      s.world.operations = start.operations ∧ s.unanswered = false
  | .launching held _ => held.status = "in_progress" ∧ held.progress = 70 ∧ s.written = marks ∧
      s.world.operations = start.operations ++ ["create_image"] ∧ s.unanswered = false
  | .completed => s.written = marks ++ [("completed", 100)] ∧
      s.world.operations = start.operations ++ migrationRequests ∧ s.unanswered = false
  | .raised exc => ∃ k asked, asked <+: migrationRequests ∧ s.world.operations = start.operations ++ asked ∧
      s.Ends exc k asked

/-- A commit is carried out and told, or carried out and not told, or not carried out. -/
theorem commit_cases (answer : Answer) (held draft : MigrationTask) (next : MigrationTask → Point) :
    (∃ table, flushed job s.table answer held draft = some table ∧ s.commit job answer held draft next =
      ⟨s.world, table, next draft, s.written ++ [(draft.status, draft.progress)], false⟩) ∨
    (∃ table, flushed job s.table answer held draft = some table ∧ s.commit job answer held draft next =
      ⟨s.world, table, .raised invalidTransaction, s.written ++ [(draft.status, draft.progress)], true⟩) ∨
    s.commit job answer held draft next = ⟨s.world, s.table, .raised pendingRollback, s.written, s.unanswered⟩ := by
  unfold Execution.commit
  cases done : flushed job s.table answer held draft with
  | some table =>
    by_cases lost : answer = .lost
    · exact .inr (.inl ⟨table, rfl, by simp [Execution.carry, lost]⟩)
    · exact .inl ⟨table, rfl, by simp [Execution.carry, lost]⟩
  | none => exact .inr (.inr rfl)

theorem giveUp_cases (answer : Answer) (held : MigrationTask) (exc : Exc) :
    (∃ table, flushed job s.table answer held { held with status := "failed", progress := 0 } = some table ∧
      ∃ lost, s.giveUp job answer held exc = ⟨s.world, table, .raised (if lost = true then databaseError else
        migrationFailed exc), s.written ++ [("failed", 0)], lost⟩) ∨
    s.giveUp job answer held exc = ⟨s.world, s.table, .raised databaseError, s.written, s.unanswered⟩ := by
  unfold Execution.giveUp
  cases done : flushed job s.table answer held { held with status := "failed", progress := 0 } with
  | some table =>
    refine .inl ⟨table, rfl, decide (answer = .lost), ?_⟩
    by_cases lost : answer = .lost <;> simp [Execution.carry, lost]
  | none => exact .inr rfl

/-- How the work of a stage and its commit can end. -/
theorem attempt_cases {α : Type} (answer : Answer) (held : MigrationTask) (work : M α)
    (draft : α → Option MigrationTask) (next : α → MigrationTask → Point) :
    (∃ a w d table, work s.world = .ok a w ∧ draft a = some d ∧ flushed job s.table answer held d = some table ∧
      (s.attempt job answer held work draft next =
          ⟨w, table, next a d, s.written ++ [(d.status, d.progress)], false⟩ ∨
        s.attempt job answer held work draft next =
          ⟨w, table, .raised invalidTransaction, s.written ++ [(d.status, d.progress)], true⟩)) ∨
    (∃ a w, work s.world = .ok a w ∧
      s.attempt job answer held work draft next = ⟨w, s.table, .raised pendingRollback, s.written, s.unanswered⟩) ∨
    (∃ exc w table, work s.world = .error exc w ∧
      flushed job s.table answer held { held with status := "failed", progress := 0 } = some table ∧
      ∃ lost, s.attempt job answer held work draft next = ⟨w, table, .raised (if lost = true then databaseError else
        migrationFailed exc), s.written ++ [("failed", 0)], lost⟩) ∨
    (∃ exc w, work s.world = .error exc w ∧
      s.attempt job answer held work draft next = ⟨w, s.table, .raised databaseError, s.written, s.unanswered⟩) := by
  cases run : work s.world with
  | ok a w =>
    cases made : draft a with
    | none => exact .inr (.inl ⟨a, w, rfl, by simp only [Execution.attempt, run, made]⟩)
    | some d =>
      have commits : s.attempt job answer held work draft next =
          Execution.commit job { s with world := w } answer held d (next a) := by
        simp only [Execution.attempt, run, made]
      rw [commits]
      obtain ⟨table, done, same⟩ | ⟨table, done, same⟩ | same :=
        @commit_cases b job { s with world := w } answer held d (next a)
      · exact .inl ⟨a, w, d, table, rfl, made, done, .inl same⟩
      · exact .inl ⟨a, w, d, table, rfl, made, done, .inr same⟩
      · exact .inr (.inl ⟨a, w, rfl, same⟩)
  | error exc w =>
    have gives : s.attempt job answer held work draft next =
        Execution.giveUp job { s with world := w } answer held exc := by
      simp only [Execution.attempt, run]
    rw [gives]
    obtain ⟨table, done, same⟩ | same := @giveUp_cases b job { s with world := w } answer held exc
    · exact .inr (.inr (.inl ⟨exc, w, table, rfl, done, same⟩))
    · exact .inr (.inr (.inr ⟨exc, w, rfl, same⟩))

theorem foreign_ne_failed (type message : String) (cause : Exc) : Exc.foreign type message ≠ migrationFailed cause := by
  simp [migrationFailed]

theorem scalar_ne_failed {rows : List MigrationTask} {exc : Exc} (raised : scalarOneOrNone rows = .error exc)
    (cause : Exc) : exc ≠ migrationFailed cause := by
  unfold scalarOneOrNone at raised
  split at raised
  · contradiction
  · contradiction
  · cases raised
    exact foreign_ne_failed _ _ cause

/-- A stage of which it is known what its work asks for, and what its commit leaves. -/
theorem attempt_recorded {α : Type} {answer : Answer} {held : MigrationTask} {work : M α}
    {draft : α → Option MigrationTask} {next : α → MigrationTask → Point} {k : Nat} {before asks : List String}
    (written : s.written = marks.take k) (asked : s.world.operations = start.operations ++ before)
    (emits : Emits World.operations asks work) (known : before ++ asks <+: migrationRequests)
    (mark : ∀ a d, draft a = some d → marks.take k ++ [(d.status, d.progress)] = marks.take (k + 1) ∨
      (marks.take k ++ [(d.status, d.progress)] = marks ++ [("completed", 100)] ∧ before ++ asks = migrationRequests))
    (onward : ∀ a d w table, draft a = some d → w.operations = start.operations ++ (before ++ asks) →
      Execution.Recorded start
        (⟨w, table, next a d, marks.take k ++ [(d.status, d.progress)], false⟩ : Execution b)) :
    (s.attempt job answer held work draft next).Recorded start := by
  obtain ⟨a, w, d, table, run, made, _, same | same⟩ | ⟨a, w, run, same⟩ | ⟨exc, w, table, run, _, lost, same⟩ |
    ⟨exc, w, run, same⟩ := @attempt_cases b job s α answer held work draft next
  · have after := emits.of_ok run
    rw [asked, List.append_assoc] at after
    rw [same, written]
    exact onward a d w table made after
  · have after := emits.of_ok run
    rw [asked, List.append_assoc] at after
    rw [same, written]
    obtain marked | completed := mark a d made
    · exact ⟨k + 1, before ++ asks, known, after, .inr (.inl ⟨marked, foreign_ne_failed _ _⟩)⟩
    · exact ⟨k, before ++ asks, known, after, .inr (.inr ⟨.inr completed, rfl, foreign_ne_failed _ _⟩)⟩
  · have after := emits.of_ok run
    rw [asked, List.append_assoc] at after
    rw [same]
    exact ⟨k, before ++ asks, known, after, .inr (.inl ⟨written, foreign_ne_failed _ _⟩)⟩
  · obtain ⟨done, part, after⟩ := emits.of_error run
    rw [asked, List.append_assoc] at after
    rw [same, written]
    have request := ((List.prefix_append_right_inj before).mpr part).trans known
    cases lost with
    | true => exact ⟨k, before ++ done, request, after, .inr (.inr ⟨.inl rfl, rfl, foreign_ne_failed _ _⟩)⟩
    | false => exact ⟨k, before ++ done, request, after, .inl ⟨rfl, rfl, exc, rfl⟩⟩
  · obtain ⟨done, part, after⟩ := emits.of_error run
    rw [asked, List.append_assoc] at after
    rw [same]
    exact ⟨k, before ++ done, ((List.prefix_append_right_inj before).mpr part).trans known, after,
      .inr (.inl ⟨written, foreign_ne_failed _ _⟩)⟩

theorem marked {held : MigrationTask} (status : held.status = "in_progress") (progress : Int) (k : Nat) {ms : List (String × Int)}
    (next : marks.take k ++ [("in_progress", progress)] = ms) :
    marks.take k ++ [((held.reaches progress).status, (held.reaches progress).progress)] = ms := by
  rw [← next, ← status]
  rfl

/-- A stage that leaves the next mark. -/
theorem stage_recorded {α : Type} {answer : Answer} {held : MigrationTask} {work : M α} {progress : Int}
    {next : α → MigrationTask → Point} {k : Nat} {before asks : List String} (status : held.status = "in_progress")
    (written : s.written = marks.take k) (asked : s.world.operations = start.operations ++ before)
    (emits : Emits World.operations asks work) (known : before ++ asks <+: migrationRequests)
    (mark : marks.take k ++ [("in_progress", progress)] = marks.take (k + 1))
    (onward : ∀ a w table, w.operations = start.operations ++ (before ++ asks) → Execution.Recorded start
      (⟨w, table, next a (held.reaches progress), marks.take (k + 1), false⟩ : Execution b)) :
    (s.attempt job answer held work (fun _ => some (held.reaches progress)) next).Recorded start := by
  refine attempt_recorded written asked emits known ?_ ?_
  · rintro a _ ⟨⟩
    exact .inl (marked status progress k mark)
  · rintro a _ w table ⟨⟩ after
    rw [marked status progress k mark]
    exact onward a w table after

theorem proceed_recorded {answer : Answer} (recorded : s.Recorded start)
    (next : s.proceed env job answer = some t) : t.Recorded start := by
  unfold Execution.Recorded at recorded
  unfold Execution.proceed at next
  split at next
  · rename_i here
    rw [here] at recorded
    obtain ⟨written, asked, told⟩ := recorded
    have nothing (exc : Exc) (other : ∀ cause, exc ≠ migrationFailed cause) :
        Execution.Recorded start { s with point := .raised exc } :=
      ⟨0, [], List.nil_prefix, by rw [asked, List.append_nil], .inr (.inl ⟨written, other⟩)⟩
    split at next
    · split at next
      · cases next
        exact ⟨written, asked, told⟩
      · cases next
        exact ⟨written, asked, told⟩
      · rename_i exc found
        cases next
        exact nothing exc (scalar_ne_failed found)
    · cases next
      exact nothing databaseError (foreign_ne_failed _ _)
  · rename_i held here
    rw [here] at recorded
    obtain ⟨written, asked, _⟩ := recorded
    cases next
    have none_asked : s.world.operations = start.operations ++ [] := by rw [asked, List.append_nil]
    obtain ⟨table, _, same⟩ | ⟨table, _, same⟩ | same :=
      @commit_cases b job s answer held { held with status := "in_progress", progress := 10 } .locating
    · rw [same, written]
      exact ⟨rfl, rfl, rfl, asked, rfl⟩
    · rw [same, written]
      exact ⟨1, [], List.nil_prefix, none_asked, .inr (.inl ⟨rfl, foreign_ne_failed _ _⟩)⟩
    · rw [same]
      exact ⟨0, [], List.nil_prefix, none_asked, .inr (.inl ⟨written, foreign_ne_failed _ _⟩)⟩
  · rename_i held here
    rw [here] at recorded
    obtain ⟨status, _, written, asked, _⟩ := recorded
    cases next
    refine stage_recorded status written (asked.trans (List.append_nil _).symm) (mayRaise_emits _) (by simp) rfl ?_
    intro a w table after
    exact ⟨status, rfl, rfl, after.trans (List.append_nil _), rfl⟩
  · rename_i held here
    rw [here] at recorded
    obtain ⟨status, _, written, asked, _⟩ := recorded
    cases next
    refine stage_recorded status written (asked.trans (List.append_nil _).symm) exportVmDisk_emits (by simp) rfl ?_
    intro a w table after
    exact ⟨status, rfl, rfl, after.trans (List.append_nil _), rfl⟩
  · rename_i held path here
    rw [here] at recorded
    obtain ⟨status, _, written, asked, _⟩ := recorded
    cases next
    refine stage_recorded status written (asked.trans (List.append_nil _).symm) (uploadDisk_emits path)
      (by simp [migrationRequests]) rfl ?_
    intro a w table after
    exact ⟨status, rfl, rfl, after, rfl⟩
  · rename_i held image here
    rw [here] at recorded
    obtain ⟨status, _, written, asked, _⟩ := recorded
    cases next
    have all : s.written = marks.take 4 := written
    refine attempt_recorded all asked (launchServer_emits image) (by simp [migrationRequests]) ?_ ?_
    · intro serverId d made
      obtain ⟨ref, _, rfl⟩ := Option.map_eq_some_iff.mp made
      exact .inr ⟨rfl, rfl⟩
    · intro serverId d w table made after
      obtain ⟨ref, _, rfl⟩ := Option.map_eq_some_iff.mp made
      exact ⟨rfl, after, rfl⟩
  · contradiction

/-- A commit rewrites the row of the task, and no other. -/
theorem rows_flushed {table after : MigrationTable b} {answer : Answer} {held draft : MigrationTask}
    (done : flushed job table answer held draft = some after) :
    after.rows = table.rows.map (rewrite MigrationTask.id job.taskId (held.flush draft)) ∧ after.keys = table.keys := by
  unfold flushed at done
  split at done
  · contradiction
  · cases updated : table.update job.taskId (held.flush draft) (flush_id held draft) with
    | ok written =>
      rw [updated] at done
      cases done
      exact ⟨Table.rows_of_update updated, Table.keys_of_update updated⟩
    | error violation =>
      rw [updated] at done
      contradiction

/-- No writer takes a task out of the table. -/
theorem writing_keeps {isoformat : Nat → String} {table after : MigrationTable b} {writing : Writing}
    (written : migrationStep isoformat table writing = some after) {id : String} (inside : id ∈ table.keys) :
    id ∈ after.keys := by
  have update (migrationId : String) (progress : Int) (status : Option String) (now : Nat) :
      id ∈ (committed table (updateMigrationProgress isoformat table migrationId progress status now)).keys := by
    unfold updateMigrationProgress
    split
    · exact inside
    · cases updated : table.update migrationId (MigrationTask.advance progress status now)
        (advance_id progress status now) with
      | ok new => exact (Table.keys_of_update updated).symm ▸ inside
      | error violation => exact inside
  cases writing with
  | create payload newId now =>
    cases written
    unfold createMigration
    cases inserted : table.insert (newMigration payload newId now) with
    | ok new =>
      have rows := (Table.rows_of_insert inserted).1
      change id ∈ new.keys
      rw [Table.keys, rows, List.map_append]
      exact List.mem_append_left _ inside
    | error violation => exact inside
  | update migrationId progress status now =>
    cases written
    exact update migrationId progress status now
  | post migrationId progress now =>
    cases written
    exact update migrationId progress none now
  | cleanup bound now =>
    cases written
    unfold cleanupStaleMigrationsTask
    cases bound with
    | false => exact inside
    | true =>
      cases revised : table.revise (MigrationTask.giveUp now) (giveUp_id now) with
      | ok new =>
        simp only [if_true]
        exact (Table.keys_of_revise revised).symm ▸ inside
      | error violation => exact inside

theorem attempt_effect {α : Type} {answer : Answer} {held : MigrationTask} {work : M α}
    {draft : α → Option MigrationTask} {next : α → MigrationTask → Point} (positive : held.progress ≠ 0)
    (drafted : ∀ a d, draft a = some d → d.progress ≠ held.progress)
    (done : s.attempt job answer held work draft next = t) :
    (t.table = s.table ∧ t.written = s.written ∧ t.point.task = none) ∨
    ∃ d, flushed job s.table answer held d = some t.table ∧ t.written = s.written ++ [(d.status, d.progress)] ∧
      d.progress ≠ held.progress := by
  subst done
  obtain ⟨a, w, d, table, _, made, done, same | same⟩ | ⟨a, w, _, same⟩ | ⟨exc, w, table, _, done, lost, same⟩ |
    ⟨exc, w, _, same⟩ := @attempt_cases b job s α answer held work draft next
  · rw [same]
    exact .inr ⟨d, done, rfl, drafted a d made⟩
  · rw [same]
    exact .inr ⟨d, done, rfl, drafted a d made⟩
  · rw [same]
    exact .inl ⟨rfl, rfl, rfl⟩
  · rw [same]
    exact .inr ⟨_, done, rfl, positive.symm⟩
  · rw [same]
    exact .inl ⟨rfl, rfl, rfl⟩

/- What a step of the execution does to its row. It leaves the table alone, or commits. From its
second commit on, it has the task as in progress, and its progress changes. -/
def Execution.Effect (job : Job) (answer : Answer) (s t : Execution b) : Prop :=
  (t.table = s.table ∧ t.written = s.written ∧ (t.point.task ≠ none → job.taskId ∈ s.table.keys)) ∨
  ∃ held draft, s.point.task = some held ∧ flushed job s.table answer held draft = some t.table ∧
    t.written = s.written ++ [(draft.status, draft.progress)] ∧
    (s.written ≠ [] → held.status = "in_progress" ∧ draft.progress ≠ held.progress)

theorem proceed_effect {answer : Answer} (recorded : s.Recorded start) (next : s.proceed env job answer = some t) :
    s.Effect job answer t := by
  have stage {α : Type} {held : MigrationTask} {work : M α} {draft : α → Option MigrationTask}
      {following : α → MigrationTask → Point} (there : s.point.task = some held) (status : held.status = "in_progress")
      (positive : held.progress ≠ 0) (drafted : ∀ a d, draft a = some d → d.progress ≠ held.progress)
      (done : some (s.attempt job answer held work draft following) = some t) : s.Effect job answer t := by
    obtain ⟨table, written, ended⟩ | ⟨d, done, written, moved⟩ := attempt_effect positive drafted (Option.some.inj done)
    · exact .inl ⟨table, written, fun held => absurd ended held⟩
    · exact .inr ⟨held, d, there, done, written, fun _ => ⟨status, moved⟩⟩
  have reaches {α : Type} {held : MigrationTask} {progress : Int} (before : held.progress < progress) (a : α)
      (d : MigrationTask) (made : some (held.reaches progress) = some d) : d.progress ≠ held.progress := by
    cases made
    exact before.ne'
  unfold Execution.Recorded at recorded
  unfold Execution.proceed at next
  split at next
  · split at next
    · split at next
      · cases next
        exact .inl ⟨rfl, rfl, fun held => absurd rfl held⟩
      · rename_i task found
        cases next
        obtain ⟨none, _⟩ | ⟨row, inside, own, loaded⟩ := @scalarOneOrNone_keyed _ _ MigrationTask.id _ s.table
          (fun row => decide (row.id = job.taskId))
          (fun row other selected too => (of_decide_eq_true selected).trans (of_decide_eq_true too).symm)
        · cases none.symm.trans found
        · exact .inl ⟨rfl, rfl, fun _ => List.mem_map.mpr ⟨row, inside, of_decide_eq_true own⟩⟩
      · cases next
        exact .inl ⟨rfl, rfl, fun held => absurd rfl held⟩
    · cases next
      exact .inl ⟨rfl, rfl, fun held => absurd rfl held⟩
  · rename_i held here
    rw [here] at recorded
    cases next
    obtain ⟨table, done, same⟩ | ⟨table, done, same⟩ | same :=
      @commit_cases b job s answer held { held with status := "in_progress", progress := 10 } .locating
    · rw [same]
      exact .inr ⟨held, _, by rw [here]; rfl, done, rfl, fun begun => absurd recorded.1 begun⟩
    · rw [same]
      exact .inr ⟨held, _, by rw [here]; rfl, done, rfl, fun begun => absurd recorded.1 begun⟩
    · rw [same]
      exact .inl ⟨rfl, rfl, fun held => absurd rfl held⟩
  · rename_i held here
    rw [here] at recorded
    obtain ⟨status, progress, _⟩ := recorded
    exact stage (by rw [here]; rfl) status (by omega) (reaches (by omega)) next
  · rename_i held here
    rw [here] at recorded
    obtain ⟨status, progress, _⟩ := recorded
    exact stage (by rw [here]; rfl) status (by omega) (reaches (by omega)) next
  · rename_i held path here
    rw [here] at recorded
    obtain ⟨status, progress, _⟩ := recorded
    exact stage (by rw [here]; rfl) status (by omega) (reaches (by omega)) next
  · rename_i held image here
    rw [here] at recorded
    obtain ⟨status, progress, _⟩ := recorded
    refine stage (by rw [here]; rfl) status (by omega) ?_ next
    intro serverId d made
    obtain ⟨ref, _, rfl⟩ := Option.map_eq_some_iff.mp made
    change (100 : Int) ≠ held.progress
    omega
  · contradiction

/- What holds of an execution in every state of a run: its record, and that the row of the task that
it has loaded is still there. -/
def Execution.Sound (job : Job) (start : World) (s : Execution b) : Prop :=
  s.Recorded start ∧ (s.point.task ≠ none ∨ s.written ≠ [] → job.taskId ∈ s.table.keys)

theorem begin_sound (world : World) (table : MigrationTable b) : (Execution.begin world table).Sound job world :=
  ⟨⟨rfl, rfl, rfl⟩, by rintro (held | written) <;> contradiction⟩

theorem step_sound {isoformat : Nat → String} (move : Move) (sound : s.Sound job start)
    (next : s.step env job isoformat move = some t) : t.Sound job start := by
  obtain ⟨recorded, inside⟩ := sound
  cases move with
  | proceed answer =>
    refine ⟨proceed_recorded recorded next, ?_⟩
    obtain ⟨table, written, loaded⟩ | ⟨held, draft, there, done, _⟩ := proceed_effect recorded next
    · rw [table, written]
      rintro (held | begun)
      · exact loaded held
      · exact inside (.inr begun)
    · intro _
      rw [(rows_flushed done).2]
      exact inside (.inl (by simp [there]))
  | other writing =>
    obtain ⟨table, written, rfl⟩ := Option.map_eq_some_iff.mp next
    exact ⟨recorded, fun begun => writing_keeps written (inside begun)⟩

theorem run_sound {isoformat : Nat → String} {world : World} {table : MigrationTable b} {moves : List Move}
    (run : Runs.exec (fun s => s.step env job isoformat) (Execution.begin world table) moves = some s) : s.Sound job world :=
  Runs.invariant _ (I := Execution.Sound job world)
    (fun _ move _ sound next => step_sound move sound next) (begin_sound world table) run

theorem mark_in_progress {k : Nat} {mark : String × Int} (member : mark ∈ marks.take k) : mark.1 = "in_progress" := by
  have known := List.mem_of_mem_take member
  simp only [marks, List.mem_cons, List.not_mem_nil, or_false] at known
  obtain rfl | rfl | rfl | rfl := known <;> rfl

theorem unended_marks (k : Nat) : ("completed", 100) ∉ marks.take k ∧ ("failed", 0) ∉ marks.take k :=
  ⟨fun member => absurd (mark_in_progress member) (by decide +kernel),
    fun member => absurd (mark_in_progress member) (by decide +kernel)⟩

theorem failed_uncompleted (k : Nat) : ("completed", 100) ∉ marks.take k ++ [("failed", 0)] := by
  intro member
  obtain mark | ending := List.mem_append.mp member
  · exact (unended_marks k).1 mark
  · exact absurd (List.mem_singleton.mp ending) (by decide +kernel)

/-- An execution is under way, or has completed, or has raised. -/
theorem recorded_cases (recorded : s.Recorded start) :
    (∃ k asked, s.written = marks.take k ∧ s.unanswered = false ∧ asked <+: migrationRequests ∧
      s.world.operations = start.operations ++ asked ∧ s.point ≠ .completed ∧ ∀ exc, s.point ≠ .raised exc) ∨
    (s.point = .completed ∧ s.written = marks ++ [("completed", 100)] ∧
      s.world.operations = start.operations ++ migrationRequests ∧ s.unanswered = false) ∨
    ∃ exc k asked, s.point = .raised exc ∧ asked <+: migrationRequests ∧
      s.world.operations = start.operations ++ asked ∧ s.Ends exc k asked := by
  have idle {ops : List String} (asked : s.world.operations = ops) : s.world.operations = ops ++ [] :=
    asked.trans (List.append_nil _).symm
  unfold Execution.Recorded at recorded
  cases here : s.point with
  | loading | absent | marking held =>
    rw [here] at recorded
    obtain ⟨written, asked, told⟩ := recorded
    exact .inl ⟨0, [], written, told, List.nil_prefix, idle asked, by simp, by simp⟩
  | locating held =>
    rw [here] at recorded
    obtain ⟨_, _, written, asked, told⟩ := recorded
    exact .inl ⟨1, [], written, told, List.nil_prefix, idle asked, by simp, by simp⟩
  | exporting held =>
    rw [here] at recorded
    obtain ⟨_, _, written, asked, told⟩ := recorded
    exact .inl ⟨2, [], written, told, List.nil_prefix, idle asked, by simp, by simp⟩
  | uploading held path =>
    rw [here] at recorded
    obtain ⟨_, _, written, asked, told⟩ := recorded
    exact .inl ⟨3, [], written, told, List.nil_prefix, idle asked, by simp, by simp⟩
  | launching held image =>
    rw [here] at recorded
    obtain ⟨_, _, written, asked, told⟩ := recorded
    exact .inl ⟨4, ["create_image"], written, told, by simp [migrationRequests], asked, by simp, by simp⟩
  | completed =>
    rw [here] at recorded
    exact .inr (.inl ⟨rfl, recorded⟩)
  | raised exc =>
    rw [here] at recorded
    obtain ⟨k, asked, part, requested, ends⟩ := recorded
    exact .inr (.inr ⟨exc, k, asked, rfl, part, requested, ends⟩)

/-- In every state of every run, whatever the other writers do: the commits are a beginning of the
marks with at most one ending behind it; an execution that has completed or has told its failure
has written so, and one whose row says so has told it unless the answer to its last commit was
lost, of which it knows nothing; the requests are a beginning of the four, all of them if it has
completed, and none of them is taken back. -/
theorem execution_accounts {isoformat : Nat → String} {world : World} {table : MigrationTable b} {moves : List Move}
    (run : Runs.exec (fun s => s.step env job isoformat) (Execution.begin world table) moves = some s) :
    (∃ k, s.written = marks.take k ∨ s.written = marks.take k ++ [("failed", 0)] ∨
      s.written = marks ++ [("completed", 100)]) ∧
    (s.point = .completed ↔ ("completed", 100) ∈ s.written ∧ s.unanswered = false) ∧
    ((∃ cause, s.point = .raised (migrationFailed cause)) ↔ ("failed", 0) ∈ s.written ∧ s.unanswered = false) ∧
    (s.unanswered = true → ∃ exc, s.point = .raised exc) ∧
    ∃ asked, asked <+: migrationRequests ∧ s.world.operations = world.operations ++ asked ∧
      (("completed", 100) ∈ s.written → asked = migrationRequests) := by
  obtain ⟨k, asked, written, told, part, requested, incomplete, going⟩ | ⟨here, written, asked, told⟩ |
    ⟨exc, k, asked, here, part, requested, ends⟩ := recorded_cases (run_sound run).1
  · have uncompleted : ("completed", 100) ∉ s.written := written ▸ (unended_marks k).1
    have unfailed : ("failed", 0) ∉ s.written := written ▸ (unended_marks k).2
    refine ⟨⟨k, .inl written⟩, iff_of_false incomplete (fun there => uncompleted there.1),
      iff_of_false ?_ (fun there => unfailed there.1), by simp [told], asked, part, requested,
      fun there => absurd there uncompleted⟩
    rintro ⟨cause, raised⟩
    exact going _ raised
  · have unfailed : ("failed", 0) ∉ s.written := by
      rw [written]
      decide +kernel
    exact ⟨⟨4, .inr (.inr written)⟩, iff_of_true here ⟨by simp [written], told⟩,
      iff_of_false (by simp [here]) (fun there => unfailed there.1), by simp [told], migrationRequests,
      List.prefix_refl _, asked, fun _ => rfl⟩
  · have raised : ∃ exc, s.point = .raised exc := ⟨exc, here⟩
    have incomplete : s.point ≠ .completed := by simp [here]
    have untold (other : ∀ cause, exc ≠ migrationFailed cause) :
        ¬ ∃ cause, s.point = .raised (migrationFailed cause) := by
      rintro ⟨cause, same⟩
      exact other cause (Point.raised.inj (here.symm.trans same))
    obtain ⟨written, told, cause, rfl⟩ | ⟨written, other⟩ | ⟨written, lost, other⟩ := ends
    · have uncompleted : ("completed", 100) ∉ s.written := written ▸ failed_uncompleted k
      exact ⟨⟨k, .inr (.inl written)⟩, iff_of_false incomplete (fun there => uncompleted there.1),
        iff_of_true ⟨cause, here⟩ ⟨by simp [written], told⟩, fun _ => raised, asked, part, requested,
        fun there => absurd there uncompleted⟩
    · have uncompleted : ("completed", 100) ∉ s.written := written ▸ (unended_marks k).1
      have unfailed : ("failed", 0) ∉ s.written := written ▸ (unended_marks k).2
      exact ⟨⟨k, .inl written⟩, iff_of_false incomplete (fun there => uncompleted there.1),
        iff_of_false (untold other) (fun there => unfailed there.1), fun _ => raised, asked, part, requested,
        fun there => absurd there uncompleted⟩
    · refine ⟨⟨k, .inr (written.imp_right And.left)⟩, iff_of_false incomplete (by simp [lost]),
        iff_of_false (untold other) (by simp [lost]), fun _ => raised, asked, part, requested, fun there => ?_⟩
      obtain written | ⟨_, all⟩ := written
      · rw [written] at there
        exact absurd there (failed_uncompleted k)
      · exact all

/-- A commit after the first sets the progress of the row whatever has been written to it in between,
and its status only if it ends the execution. It sets no finishing time, and touches no other row. -/
theorem commit_overwrites {isoformat : Nat → String} {world : World} {table : MigrationTable b} {moves : List Move}
    {answer : Answer} {status : String} {progress : Int}
    (run : Runs.exec (fun s => s.step env job isoformat) (Execution.begin world table) moves = some s)
    (next : s.step env job isoformat (.proceed answer) = some t) (begun : s.written ≠ [])
    (committed : t.written = s.written ++ [(status, progress)]) :
    job.taskId ∈ t.table.keys ∧ ∀ row ∈ t.table.rows, ∃ old ∈ s.table.rows, old.id = row.id ∧
      row.finishedAt = old.finishedAt ∧
      if row.id = job.taskId then
        row.progress = progress ∧ row.status = (if status = "in_progress" then old.status else status)
      else row = old := by
  obtain ⟨recorded, inside⟩ := run_sound run
  refine ⟨(step_sound (.proceed answer) ⟨recorded, inside⟩ next).2 (.inr (by simp [committed])), ?_⟩
  obtain ⟨_, written, _⟩ | ⟨held, draft, _, done, written, later⟩ := proceed_effect recorded next
  · rw [committed] at written
    simp at written
  · obtain ⟨working, moved⟩ := later begun
    have same : (status, progress) = (draft.status, draft.progress) :=
      List.singleton_inj.mp (List.append_cancel_left (committed.symm.trans written))
    cases same
    intro row member
    rw [(rows_flushed done).1] at member
    obtain ⟨old, there, rfl⟩ := List.mem_map.mp member
    refine ⟨old, there, (key_rewrite job.taskId (flush_id held draft) old).symm, ?_, ?_⟩
    · unfold rewrite
      split <;> rfl
    · rw [key_rewrite job.taskId (flush_id held draft) old, rewrite]
      split
      · refine ⟨if_neg moved, ?_⟩
        change (if draft.status = held.status then old.status else draft.status) = _
        rw [working]
      · rfl

end Running

/- A cloud and a vCenter that have all that is asked for. -/
def roomyCloud : Env where
  ready := true
  listLimit := 1000
  connect _ := none
  sdk _ request := { result := .ok ⟨.dict [("id", .str request.operation)], none⟩ }
  wall _ := 0
  lag _ := 0
  redisUp _ := true
  databaseUp _ := true
  uuid _ := "uuid"

def oneJob : Job where
  taskId := "m-1"
  vmName := "web"
  targetFlavor := "flv-1"
  targetNetwork := "net-1"
  diskDir := "/var/disks"
  getVmByName _ := none
  makedirs _ := none
  nameOf _ := .ok "web"
  openDisk _ _ := none

def oneQueued : MigrationTable postgresql :=
  ⟨[⟨"m-1", "vmware_to_openstack", "web", none, "server", none, "queued", 0, none, 0, none⟩], by simp, by decide +kernel⟩

/- The task is taken up, and given up by the cleanup two hours later. -/
def givenUp : List Move := [.proceed .given, .proceed .given, .other (.cleanup true (2 * hour))]

/- What is left of it, with that answer to the last commit. -/
def goesOn (last : Answer) : List Move := [.proceed .given, .proceed .given, .proceed .given, .proceed last]

/-- The execution completes all the same. If the answer to its last commit is lost, it does not know. -/
theorem given_up_completes : (∃ s, Runs.exec (fun s => s.step roomyCloud oneJob (fun _ => ""))
      (Execution.begin .initial oneQueued) (givenUp ++ goesOn .given) = some s ∧ s.point = .completed ∧
      s.world.operations = World.initial.operations ++ migrationRequests) ∧
    ∃ s, Runs.exec (fun s => s.step roomyCloud oneJob (fun _ => "")) (Execution.begin .initial oneQueued)
      (givenUp ++ goesOn .lost) = some s ∧ s.point ≠ .completed ∧
      s.world.operations = World.initial.operations ++ migrationRequests := by
  have answered : (Runs.exec (fun s => s.step roomyCloud oneJob (fun _ => "")) (Execution.begin .initial oneQueued)
      (givenUp ++ goesOn .given)).map (fun s => (s.written, s.unanswered)) =
        some (marks ++ [("completed", 100)], false) := by decide +kernel
  have unanswered : (Runs.exec (fun s => s.step roomyCloud oneJob (fun _ => "")) (Execution.begin .initial oneQueued)
      (givenUp ++ goesOn .lost)).map (fun s => (s.written, s.unanswered)) =
        some (marks ++ [("completed", 100)], true) := by decide +kernel
  obtain ⟨s, run, ends⟩ := Option.map_eq_some_iff.mp answered
  obtain ⟨t, run', ends'⟩ := Option.map_eq_some_iff.mp unanswered
  obtain ⟨written, told⟩ := Prod.mk.inj ends
  obtain ⟨written', lost⟩ := Prod.mk.inj ends'
  obtain ⟨_, completed, _, _, asked, _, requested, all⟩ := execution_accounts run
  obtain ⟨_, completed', _, _, asked', _, requested', all'⟩ := execution_accounts run'
  have ended : ("completed", 100) ∈ s.written := by simp [written]
  have ended' : ("completed", 100) ∈ t.written := by simp [written']
  refine ⟨⟨s, run, completed.mpr ⟨ended, told⟩, all ended ▸ requested⟩, t, run', ?_, all' ended' ▸ requested'⟩
  rw [ne_eq, completed', lost]
  simp

/-- The execution goes on with a task that the cleanup has given up: it has failed, and its progress
is that of the next commit. -/
theorem given_up_goes_on : ∃ s t, Runs.exec (fun s => s.step roomyCloud oneJob (fun _ => "")) (Execution.begin .initial oneQueued)
    givenUp = some s ∧ s.step roomyCloud oneJob (fun _ => "") (.proceed .given) = some t ∧
    ∃ row ∈ t.table.rows, row.id = "m-1" ∧ row.status = "failed" ∧ row.progress = 30 := by
  have run : (Runs.exec (fun s => s.step roomyCloud oneJob (fun _ => "")) (Execution.begin .initial oneQueued) givenUp).bind
      (fun s => (s.step roomyCloud oneJob (fun _ => "") (.proceed .given)).map
        (fun t => (s.written, t.written, s.table.rows.map MigrationTask.status))) =
      some ([("in_progress", 10)], [("in_progress", 10)] ++ [("in_progress", 30)], ["failed"]) := by decide +kernel
  obtain ⟨s, run, rest⟩ := Option.bind_eq_some_iff.mp run
  obtain ⟨t, next, found⟩ := Option.map_eq_some_iff.mp rest
  obtain ⟨before, committed, failed⟩ : s.written = [("in_progress", 10)] ∧
      t.written = [("in_progress", 10)] ++ [("in_progress", 30)] ∧ s.table.rows.map MigrationTask.status = ["failed"] := by
    simpa using found
  obtain ⟨inside, rows⟩ := commit_overwrites run next (by simp [before]) (before.symm ▸ committed)
  obtain ⟨row, member, own⟩ := List.mem_map.mp inside
  obtain ⟨old, there, _, _, changed⟩ := rows row member
  rw [if_pos own, if_pos rfl] at changed
  have status : old.status ∈ s.table.rows.map MigrationTask.status := List.mem_map_of_mem there
  rw [failed] at status
  exact ⟨s, t, run, next, row, member, own, changed.2.trans (List.mem_singleton.mp status), changed.1⟩

end VMachine.Orchestration
