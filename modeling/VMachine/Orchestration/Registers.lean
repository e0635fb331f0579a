import Mathlib.Algebra.Order.Ring.Rat
import VMachine.Database.Records
import VMachine.Orchestration.Clusters

/-! `StorageService`, `OperationsService` and the records of `ClusterService`: what becomes of storage
pools, scaling policies, scheduled tasks and clusters that are created and deleted by any number of
calls at a time. -/
namespace VMachine.Orchestration.Registers
open Runs OpenStack Database Database.Records

structure StoragePoolCreateRequest where
  name : String
  description : Option String := none
  poolType : String := "ceph"
  totalCapacityGb : Nat := 0
  replicationFactor : Nat := 3
  nameLength : 1 ≤ name.length ∧ name.length ≤ 255
  replicationBounds : 1 ≤ replicationFactor ∧ replicationFactor ≤ 10

structure StoragePool where
  id : String
  name : String
  description : Option String
  poolType : String
  status : String := "active"
  totalCapacityGb : Nat
  usedCapacityGb : Nat := 0
  replicationFactor : Nat
  createdAt : Nat
  deriving Repr, DecidableEq

structure StoragePoolSummary where
  id : String
  name : String
  poolType : String
  status : String
  totalCapacityGb : Nat
  usedCapacityGb : Nat
  replicationFactor : Nat
  createdAt : Option String
  operationTaskId : Option String := none
  deriving Repr, DecidableEq

/- The row of `create_pool`. -/
def StoragePoolCreateRequest.pool (payload : StoragePoolCreateRequest) (id : String) (now : Nat) : StoragePool where
  id := id
  name := payload.name
  description := payload.description
  poolType := payload.poolType
  totalCapacityGb := payload.totalCapacityGb
  replicationFactor := payload.replicationFactor
  createdAt := now

def storageService (b : Backend) (isoformat : Nat → String) : Service StoragePool StoragePoolSummary where
  id := StoragePool.id
  name pool := some pool.name
  fits pool := b.takes 36 pool.id && b.takes 255 pool.name &&
    b.takes 50 pool.poolType && b.takes 50 pool.status && b.takesInt pool.totalCapacityGb &&
    b.takesInt pool.usedCapacityGb && b.takesInt pool.replicationFactor
  createdAt := StoragePool.createdAt
  serialize pool := ⟨pool.id, pool.name, pool.poolType, pool.status, pool.totalCapacityGb, pool.usedCapacityGb,
    pool.replicationFactor, some (isoformat pool.createdAt), none⟩
  notFound := .appException "Storage pool not found" 404 "storage_pool_not_found"
  alreadyExists := none

structure ScalingPolicyCreateRequest where
  name : String
  description : Option String := none
  metricName : String
  threshold : Rat
  comparison : String := "gt"
  minReplicas : Nat := 1
  maxReplicas : Nat := 10
  cooldownSeconds : Nat := 300
  targetResourceType : String := "deployment"
  targetResourceId : Option String := none
  nameLength : 1 ≤ name.length ∧ name.length ≤ 255
  minBounds : 1 ≤ minReplicas ∧ minReplicas ≤ 100
  maxBounds : 1 ≤ maxReplicas ∧ maxReplicas ≤ 1000
  cooldownBound : 60 ≤ cooldownSeconds

structure AutoScalingPolicy where
  id : String
  name : String
  description : Option String
  metricName : String
  threshold : Rat
  comparison : String
  minReplicas : Nat
  maxReplicas : Nat
  cooldownSeconds : Nat
  targetResourceType : String
  targetResourceId : Option String
  enabled : Bool := true
  createdAt : Nat
  deriving Repr, DecidableEq

structure ScalingPolicySummary where
  id : String
  name : String
  metricName : String
  threshold : Rat
  comparison : String
  minReplicas : Nat
  maxReplicas : Nat
  cooldownSeconds : Nat
  targetResourceType : String
  enabled : Bool
  createdAt : Option String
  operationTaskId : Option String := none
  deriving Repr, DecidableEq

/- The row of `create_scaling_policy`. -/
def ScalingPolicyCreateRequest.policy (payload : ScalingPolicyCreateRequest) (id : String) (now : Nat) :
    AutoScalingPolicy where
  id := id
  name := payload.name
  description := payload.description
  metricName := payload.metricName
  threshold := payload.threshold
  comparison := payload.comparison
  minReplicas := payload.minReplicas
  maxReplicas := payload.maxReplicas
  cooldownSeconds := payload.cooldownSeconds
  targetResourceType := payload.targetResourceType
  targetResourceId := payload.targetResourceId
  createdAt := now

def scalingPolicies (b : Backend) (isoformat : Nat → String) : Service AutoScalingPolicy ScalingPolicySummary where
  id := AutoScalingPolicy.id
  name policy := some policy.name
  fits policy := b.takes 36 policy.id && b.takes 255 policy.name && policy.description.all (b.takes 2000) &&
    b.takes 100 policy.metricName && b.takes 20 policy.comparison && b.takesInt policy.minReplicas &&
    b.takesInt policy.maxReplicas && b.takesInt policy.cooldownSeconds && b.takes 50 policy.targetResourceType &&
    policy.targetResourceId.all (b.takes 255)
  createdAt := AutoScalingPolicy.createdAt
  serialize p := ⟨p.id, p.name, p.metricName, p.threshold, p.comparison, p.minReplicas, p.maxReplicas,
    p.cooldownSeconds, p.targetResourceType, p.enabled, some (isoformat p.createdAt), none⟩
  notFound := .appException "Scaling policy not found" 404 "scaling_policy_not_found"
  alreadyExists := none

structure ScheduledTaskCreateRequest where
  name : String
  description : Option String := none
  taskType : String
  cronExpression : String
  targetAction : String
  targetResourceType : Option String := none
  targetResourceId : Option String := none
  nameLength : 1 ≤ name.length ∧ name.length ≤ 255

structure ScheduledTask where
  id : String
  name : String
  description : Option String
  taskType : String
  cronExpression : String
  targetAction : String
  targetResourceType : Option String
  targetResourceId : Option String
  enabled : Bool := true
  lastRunAt : Option Nat := none
  createdAt : Nat
  deriving Repr, DecidableEq

structure ScheduledTaskSummary where
  id : String
  name : String
  taskType : String
  cronExpression : String
  targetAction : String
  enabled : Bool
  lastRunAt : Option String
  createdAt : Option String
  operationTaskId : Option String := none
  deriving Repr, DecidableEq

/- The row of `create_scheduled_task`. -/
def ScheduledTaskCreateRequest.task (payload : ScheduledTaskCreateRequest) (id : String) (now : Nat) : ScheduledTask where
  id := id
  name := payload.name
  description := payload.description
  taskType := payload.taskType
  cronExpression := payload.cronExpression
  targetAction := payload.targetAction
  targetResourceType := payload.targetResourceType
  targetResourceId := payload.targetResourceId
  createdAt := now

/- The description, as that of a pool, is of type `Text`, which has no length. -/
def scheduledTasks (b : Backend) (isoformat : Nat → String) : Service ScheduledTask ScheduledTaskSummary where
  id := ScheduledTask.id
  name task := some task.name
  fits task := b.takes 36 task.id && b.takes 255 task.name && b.takes 50 task.taskType && b.takes 100 task.cronExpression &&
    b.takes 100 task.targetAction && task.targetResourceType.all (b.takes 50) && task.targetResourceId.all (b.takes 255)
  createdAt := ScheduledTask.createdAt
  serialize t := ⟨t.id, t.name, t.taskType, t.cronExpression, t.targetAction, t.enabled, t.lastRunAt.map isoformat,
    some (isoformat t.createdAt), none⟩
  notFound := .appException "Scheduled task not found" 404 "scheduled_task_not_found"
  alreadyExists := none

/- `create_cluster` looks for the name first. -/
def clusterService (b : Backend) (isoformat : Nat → String) : Service ClusterDeployment ClusterSummary where
  id := ClusterDeployment.id
  name cluster := some cluster.name
  fits := ClusterDeployment.fits b
  createdAt := ClusterDeployment.createdAt
  serialize := Orchestration.serialize isoformat
  notFound := .appException "Cluster not found" 404 "cluster_not_found"
  alreadyExists := some (fun cluster => Orchestration.alreadyExists cluster.name)

section Accounts
variable {ρ σ ι : Type} [DecidableEq ι] {service : Service ρ σ} {calls : ι → Op service} {before : Stored service}
  {s : System ι service} {es : List (ι × Event)}

/-- However the calls take turns and whichever statement fails, a record can be got exactly if its creation
has been committed and no deletion of it has, and a listing has exactly those, each once. No call is
carried out twice, one that has returned has been carried out, and one that has raised anything else
than a failure of the database has not. -/
theorem records_accounted (fresh : Fresh calls before)
    (run : exec (System.step calls) (.begin calls before) es = some s) :
    (∀ k, (∃ summary, s.stored.get k = .ok summary) ↔ Stands calls before s k) ∧
    (∀ items ordered, s.stored.Listed items ordered → (ordered.map service.id).Nodup ∧
      ∀ k, k ∈ ordered.map service.id ↔ Stands calls before s k) ∧
    s.writers.Nodup ∧ (∀ i summary, s.stage i = .returned summary → i ∈ s.writers) ∧
    ∀ i exc, s.stage i = .raised exc → exc ≠ databaseError → exc ≠ notRefreshed → i ∉ s.writers := by
  have sound := Records.run_sound fresh run
  refine ⟨fun k => get_ok_iff.trans (sound.keys k), ?_, sound.once, fun i summary ended => sound.done i (.inr ⟨summary, ended⟩), ?_⟩
  · intro items ordered listed
    obtain ⟨once, same⟩ := listed_once listed
    exact ⟨once, fun k => (same k).trans (sound.keys k)⟩
  · intro i exc raised answered refreshed wrote
    obtain rfl | rfl := sound.told i exc raised wrote
    · exact answered rfl
    · exact refreshed rfl

end Accounts

def noPools : Stored (storageService sqlite toString) := ⟨[], List.nodup_nil, List.nodup_nil, by simp⟩

def fastPool : StoragePoolCreateRequest where
  name := "fast"
  nameLength := by decide
  replicationBounds := by decide

/- A pool that is created once and deleted twice. -/
def poolCalls (i : Fin 3) : Op (storageService sqlite toString) :=
  if i = 0 then .create (fastPool.pool "p-1" 0) else .delete "p-1"

theorem poolCalls_fresh : Fresh poolCalls noPools where
  unused i row _ := by simp [noPools, Stored.keys]
  apart i j row other first second _ := by
    have own {i : Fin 3} {row : StoragePool} (creates : poolCalls i = .create row) : i = 0 := by
      by_contra later
      simp [poolCalls, later] at creates
    rw [own first, own second]

/-- The creation has raised, and the pool is there. -/
theorem unanswered_pool_kept : ∃ s, exec (System.step poolCalls) (.begin poolCalls noPools) [(0, .commit 0 .lost)] = some s ∧
    s.stage 0 = .raised databaseError ∧ ∃ summary, s.stored.get "p-1" = .ok summary := by
  obtain ⟨s, run, writers, raised⟩ : ∃ s : System (Fin 3) (storageService sqlite toString),
      exec (System.step poolCalls) (.begin poolCalls noPools) [(0, .commit 0 .lost)] = some s ∧
      s.writers = [0] ∧ s.stage 0 = .raised databaseError := ⟨_, rfl, rfl, rfl⟩
  have stands : Stands poolCalls noPools s "p-1" := by
    rw [Stands, writers]
    exact ⟨.inr ⟨0, List.mem_singleton_self 0, _, rfl, rfl⟩, by simp [Removed, poolCalls]⟩
  exact ⟨s, run, raised, ((records_accounted poolCalls_fresh run).1 "p-1").mpr stands⟩

/- The statement of the event has been carried out and answered. -/
def answered : Event → Bool
  | .look ok | .refresh ok => ok
  | .commit _ answer => decide (answer = .carried)

section Deletions
variable {ρ σ ι : Type} [DecidableEq ι] {service : Service ρ σ} {calls : ι → Op service} {before : Stored service}
  {s t : System ι service} {es : List (ι × Event)} {i : ι} {k : String}

/- When the call looked for its record, the state was such. -/
def Looked (calls : ι → Op service) (before : Stored service) (i : ι) (es : List (ι × Event))
    (P : System ι service → Prop) : Prop :=
  ∃ earlier later u, es = earlier ++ (i, .look true) :: later ∧
    exec (System.step calls) (.begin calls before) earlier = some u ∧ P u

theorem Looked.later {P : System ι service → Prop} (looked : Looked calls before i es P) (e : ι × Event) :
    Looked calls before i (es ++ [e]) P := by
  obtain ⟨earlier, later, u, rfl, run, holds⟩ := looked
  exact ⟨earlier, later ++ [e], u, by simp, run, holds⟩

/- How far a deletion has come whose statements are all answered. -/
inductive Deleting (calls : ι → Op service) (before : Stored service) (i : ι) (k : String) (es : List (ι × Event)) :
    Stage ρ σ → Prop where
  | started : Deleting calls before i k es .started
  | loaded (row : ρ) (there : Looked calls before i es (fun u => k ∈ u.stored.keys)) :
    Deleting calls before i k es (.loaded row)
  | returned (there : Looked calls before i es (fun u => k ∈ u.stored.keys)) : Deleting calls before i k es (.returned none)
  | raised (absent : Looked calls before i es (fun u => k ∉ u.stored.keys)) :
    Deleting calls before i k es (.raised service.notFound)

theorem Deleting.later {stage : Stage ρ σ} (deleting : Deleting calls before i k es stage) (e : ι × Event) :
    Deleting calls before i k (es ++ [e]) stage := by
  cases deleting with
  | started => exact .started
  | loaded row there => exact .loaded row (there.later e)
  | returned there => exact .returned (there.later e)
  | raised absent => exact .raised (absent.later e)

theorem stage_other {j : ι} {e : Event} (other : i ≠ j) (next : s.step calls (j, e) = some t) : t.stage i = s.stage i := by
  obtain ⟨rfl, _, rfl⟩ | ⟨rfl, _, rfl⟩ | ⟨now, answer, exc, rfl, _, rfl, _⟩ | ⟨now, answer, after, onward, rfl, _, rfl⟩ |
    ⟨rfl, _, ⟨row, _, rfl⟩ | ⟨_, rfl⟩⟩ | ⟨rfl, _, rfl⟩ := Records.step_cases next <;> simp [System.goto, System.write, other]

/-- A step of the deletion itself, when it is answered. -/
theorem deleting_step (deletes : calls i = .delete k) {e : Event} (heard : answered e = true)
    (run : exec (System.step calls) (.begin calls before) es = some s) (deleting : Deleting calls before i k es (s.stage i))
    (next : s.step calls (i, e) = some t) : Deleting calls before i k (es ++ [(i, e)]) (t.stage i) := by
  obtain ⟨rfl, started, rfl⟩ | ⟨rfl, _, _⟩ | ⟨now, answer, exc, rfl, waits, rfl, refused | failed⟩ |
    ⟨now, answer, after, onward, rfl, flushes, rfl⟩ | ⟨rfl, committed, _⟩ | ⟨rfl, _, _⟩ := Records.step_cases next
  · have looked {P : System ι service → Prop} (holds : P s) : Looked calls before i (es ++ [(i, .look true)]) P :=
      ⟨es, [], s, rfl, run, holds⟩
    simp only [System.goto, Function.update_self, deletes, Stored.look]
    cases found : s.stored.find k with
    | some row =>
      obtain ⟨inside, same⟩ := find_eq_some found
      exact .loaded row (looked (mem_keys.mpr ⟨row, inside, same⟩))
    | none => exact .raised (looked (find_eq_none.mp found))
  · contradiction
  · simp [answered, refused] at heard
  · rw [deletes] at failed
    generalize stage : s.stage i = here at failed
    cases here <;> simp [Stored.flush] at failed
  · have carried : answer = .carried := of_decide_eq_true heard
    subst carried
    generalize stage : s.stage i = here at flushes deleting
    rw [deletes] at flushes
    cases flushes with
    | delete row id =>
      cases deleting with
      | loaded row there =>
        simp only [System.goto, Function.update_self]
        exact .returned (there.later _)
  · rw [committed] at deleting
    contradiction
  · contradiction

theorem run_deleting (deletes : calls i = .delete k) (heard : ∀ e, (i, e) ∈ es → answered e = true)
    (run : exec (System.step calls) (.begin calls before) es = some s) : Deleting calls before i k es (s.stage i) := by
  have kept : exec (System.step calls) (.begin calls before) es = some s ∧
      ((∀ e, (i, e) ∈ es → answered e = true) → Deleting calls before i k es (s.stage i)) := by
    refine Runs.history (System.step calls) (I := fun es s => exec (System.step calls) (.begin calls before) es = some s ∧
      ((∀ e, (i, e) ∈ es → answered e = true) → Deleting calls before i k es (s.stage i))) ?_ ⟨rfl, fun _ => ?_⟩ run
    · rintro es u ⟨j, e⟩ t ⟨run, deleting⟩ next
      refine ⟨(exec_append _).mpr ⟨u, run, by simp [exec, next]⟩, fun heard => ?_⟩
      have sofar := deleting (fun e member => heard e (List.mem_append_left _ member))
      by_cases own : i = j
      · subst own
        exact deleting_step deletes (heard e (List.mem_append_right _ (List.mem_singleton_self _))) run sofar next
      · rw [stage_other own next]
        exact sofar.later _
    · simp only [System.begin, deletes, Op.begins]
      exact .started
  exact kept.2 heard

/-- A deletion whose statements are answered returns exactly if, when it looked, the creation of the record
had been committed and no deletion of it had; otherwise it says that there is no such record. So of
several deletions of one record more than one can return. -/
theorem deletion_told (fresh : Fresh calls before)
    (run : exec (System.step calls) (.begin calls before) es = some s) (deletes : calls i = .delete k)
    (heard : ∀ e, (i, e) ∈ es → answered e = true)
    (ended : (∃ summary, s.stage i = .returned summary) ∨ ∃ exc, s.stage i = .raised exc) :
    Looked calls before i es (fun u => (Stands calls before u k ∧ s.stage i = .returned none) ∨
      (¬ Stands calls before u k ∧ s.stage i = .raised service.notFound)) := by
  have deleting := run_deleting deletes heard run
  generalize stage : s.stage i = here at deleting ended
  cases deleting with
  | started => simp at ended
  | loaded row there => simp at ended
  | returned there =>
    obtain ⟨earlier, later, u, split, first, inside⟩ := there
    exact ⟨earlier, later, u, split, first, .inl ⟨((Records.run_sound fresh first).keys k).mp inside, rfl⟩⟩
  | raised absent =>
    obtain ⟨earlier, later, u, split, first, outside⟩ := absent
    exact ⟨earlier, later, u, split, first, .inr ⟨fun stands => outside (((Records.run_sound fresh first).keys k).mpr stands), rfl⟩⟩

end Deletions

/- Both deletions look for the pool before one of them has committed. -/
def deletedTwice : List (Fin 3 × Event) :=
  [(0, .commit 0 .carried), (0, .refresh true), (1, .look true), (2, .look true), (1, .commit 1 .carried),
    (2, .commit 2 .carried)]

/-- Both return, since the pool was still there when the second one looked. -/
theorem both_deletions_return : ∃ s, exec (System.step poolCalls) (.begin poolCalls noPools) deletedTwice = some s ∧
    s.stage 1 = .returned none ∧ s.stage 2 = .returned none ∧
    Looked poolCalls noPools 2 deletedTwice (fun u => Stands poolCalls noPools u "p-1") := by
  obtain ⟨s, run, first, second⟩ : ∃ s : System (Fin 3) (storageService sqlite toString),
      exec (System.step poolCalls) (.begin poolCalls noPools) deletedTwice = some s ∧
      s.stage 1 = .returned none ∧ s.stage 2 = .returned none := ⟨_, rfl, rfl, rfl⟩
  have heard : ∀ x ∈ deletedTwice, answered x.2 = true := by decide
  obtain ⟨earlier, later, u, split, reach, ⟨stands, _⟩ | ⟨_, raised⟩⟩ :=
    deletion_told poolCalls_fresh run rfl (fun e member => heard (2, e) member) (.inl ⟨none, second⟩)
  · exact ⟨s, run, first, second, earlier, later, u, split, reach, stands⟩
  · rw [second] at raised
    contradiction

end VMachine.Orchestration.Registers
