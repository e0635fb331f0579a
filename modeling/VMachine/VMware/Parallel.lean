import VMachine.Lib.Parties
import VMachine.Lib.Runs
import VMachine.VMware.Assessment

/-! `ParallelAssessmentService`: one coroutine per element of `vm_ids`, at most
`max_concurrency` of them past the semaphore, and a loop that takes their results in the
order they complete. An evaluation itself does not give way to other coroutines. An event
names the coroutine that goes on; which one it is, and whether a timeout comes first, is
open. -/
namespace VMachine.VMware
open Py Effects OpenStack

inductive EvaluationStatus where
  | completed
  | failed
  | timeout
  deriving Repr, DecidableEq

structure SingleVMResult (F : Type) where
  vmId : String
  vmName : String
  status : EvaluationStatus
  compatibilityResult : Option (ScoredCompatibilityResult F) := none
  mappingResult : Option (VMMappingResult F) := none
  errorMessage : Option String := none
  durationMs : F
  evaluatedAt : String := ""
  deriving Repr, DecidableEq

inductive ProgressStatus where
  | running
  | completed
  | completedWithErrors
  deriving Repr, DecidableEq

structure ParallelAssessmentProgress where
  taskId : String
  totalVms : Int
  completed : Int
  failed : Int
  inProgress : Int
  status : ProgressStatus
  deriving Repr, DecidableEq

structure ParallelAssessmentService (F : Type) where
  inventory : VMwareInventoryService
  mappingEngine : VMwareMappingEngine
  operationTask : Bool
  tasks : Cache.Table ParallelAssessmentProgress
  results : Cache.Table (List (SingleVMResult F))

def ParallelAssessmentService.getProgress {F : Type} (service : ParallelAssessmentService F) (taskId : String) :
    Option ParallelAssessmentProgress :=
  service.tasks.lookup taskId

def ParallelAssessmentService.getResults {F : Type} (service : ParallelAssessmentService F) (taskId : String) :
    Option (List (SingleVMResult F)) :=
  service.results.lookup taskId

/- The dependency: a service of its own for every request. -/
def getParallelAssessmentService {F : Type} : ParallelAssessmentService F where
  inventory := getVmwareInventoryService
  mappingEngine := getVmwareMappingEngine
  operationTask := true
  tasks := ∅
  results := ∅

/- Where `_evaluate_one` is. Times are those it has read from the clock, and a retry knows
what the first attempt raised. -/
inductive Stage where
  | waiting
  | attempting (start : Nat)
  | retrying (start retryStart : Nat) (exc : Exc)
  | finished
  deriving Repr, DecidableEq

def Stage.holds : Stage → Bool
  | .attempting _ | .retrying _ _ _ => true
  | _ => false

def Stage.unfinished : Stage → Bool
  | .finished => false
  | _ => true

structure Evaluation where
  vmId : String
  stage : Stage
  deriving Repr, DecidableEq

def Evaluation.unfinished (ev : Evaluation) : Bool := ev.stage.unfinished

/- Where `assess_parallel` is: before each call of the operation task service, in the loop
over the results, or at its end. -/
inductive CallPhase where
  | creating
  | opening (task : Nat)
  | collecting (task : Option Nat)
  | closing (task : Nat)
  | returned
  | raised (exc : Exc)
  deriving Repr, DecidableEq

/- The final values have been written to the record. -/
def CallPhase.concluded : CallPhase → Bool
  | .closing _ | .returned => true
  | _ => false

/- A call of `assess_parallel`. `done` are the results that are ready and not yet taken. -/
structure Session (F : Type) where
  vmIds : List String
  includeMapping : Bool
  maxConcurrency : Nat
  timeoutSeconds : Nat
  taskId : String
  world : World
  service : ParallelAssessmentService F
  phase : CallPhase
  evaluations : List Evaluation
  done : List (SingleVMResult F)
  results : List (SingleVMResult F)
  completed : Nat
  failed : Nat

inductive Event where
  | proceed
  | acquire (i : Nat)
  | evaluate (i : Nat)
  | expire (i : Nat)
  | elsewhere (world : World)

section Evaluating
variable {F : Type} (ar : Arithmetic F) (site : Site)

def evaluateSingle (vmId : String) (includeMapping : Bool) : V (SingleVMResult F) := do
  match ← getVm site vmId with
  | none =>
    return {
      vmId := vmId, vmName := "", status := .failed, durationMs := ar.lit 0
      errorMessage := some ("VM '" ++ vmId ++ "' not found in inventory") }
  | some vm =>
    let compatibility := evaluate ar site.lower vm
    let mapping ← mapIf ar site includeMapping vm
    let now := site.strftime (site.env.wall (← inWorld ask))
    return {
      vmId := vm.id, vmName := vm.name, status := .completed, durationMs := ar.lit 0
      compatibilityResult := some compatibility, mappingResult := mapping, evaluatedAt := now }

/- `round((time.perf_counter() - start) * 1000, 2)`. -/
def elapsedMs (start now : Nat) : F :=
  let clock (t : Nat) : F := ar.lit (t / 1000000000 : ℚ)
  ar.round (ar.mul (ar.sub (clock now) (clock start)) (ar.lit 1000)) 2

def timedOut (vmId : String) (timeoutSeconds : Nat) (note : String) : SingleVMResult F where
  vmId := vmId
  vmName := ""
  status := .timeout
  errorMessage := some ("Evaluation timed out after " ++ toString timeoutSeconds ++ "s" ++ note)
  durationMs := ar.lit (timeoutSeconds * 1000)

/- `except asyncio.TimeoutError` catches whatever an evaluation raises of that class. -/
def isTimeout (exc : Exc) : Bool := exc.type = "TimeoutError"

end Evaluating

section Session
variable {F : Type} (ar : Arithmetic F) (site : Site)

namespace Session
variable (s : Session F)

def desk : Desk := ⟨s.world, s.service.inventory, s.service.mappingEngine⟩

def put (desk : Desk) : Session F :=
  { s with
    world := desk.world
    service := { s.service with inventory := desk.inventory, mappingEngine := desk.mappingEngine } }

def progress : Option ParallelAssessmentProgress := s.service.getProgress s.taskId

/- The coroutines inside the semaphore. -/
def held : Nat := s.evaluations.countP (fun ev => ev.stage.holds)

def move (i : Nat) (ev : Evaluation) (stage : Stage) : Session F :=
  { s with evaluations := s.evaluations.set i { ev with stage := stage } }

/- The coroutine returns its result and leaves the semaphore. -/
def finish (i : Nat) (ev : Evaluation) (r : SingleVMResult F) : Session F :=
  { s.move i ev .finished with done := s.done ++ [r] }

def attempt (i : Nat) (ev : Evaluation) (start : Nat) : Session F :=
  match evaluateSingle ar site ev.vmId s.includeMapping s.desk with
  | .ok r desk => (s.put desk).finish i ev { r with durationMs := elapsedMs ar start desk.world.now }
  | .error exc desk =>
    if isTimeout exc then (s.put desk).finish i ev (timedOut ar ev.vmId s.timeoutSeconds "")
    else (s.put desk).move i ev (.retrying start desk.world.now exc)

/- A second failure is reported with what the first attempt raised. -/
def retry (i : Nat) (ev : Evaluation) (start retryStart : Nat) (exc : Exc) : Session F :=
  match evaluateSingle ar site ev.vmId s.includeMapping s.desk with
  | .ok r desk => (s.put desk).finish i ev { r with durationMs := elapsedMs ar retryStart desk.world.now }
  | .error again desk =>
    if isTimeout again then (s.put desk).finish i ev (timedOut ar ev.vmId s.timeoutSeconds " (retry)")
    else (s.put desk).finish i ev {
      vmId := ev.vmId, vmName := "", status := .failed, errorMessage := some exc.message
      durationMs := elapsedMs ar start desk.world.now }

/- A coroutine goes on, as long as the loop is waiting for them. -/
def coroutine (event : Event) (i : Nat) (ev : Evaluation) : Option (Session F) :=
  match event, ev.stage with
  | .acquire _, .waiting =>
    if s.held < s.maxConcurrency then some (s.move i ev (.attempting s.world.now)) else none
  | .evaluate _, .attempting start => some (s.attempt ar site i ev start)
  | .evaluate _, .retrying start retryStart exc => some (s.retry ar site i ev start retryStart exc)
  | .expire _, .attempting _ => some (s.finish i ev (timedOut ar ev.vmId s.timeoutSeconds ""))
  | .expire _, .retrying _ _ _ => some (s.finish i ev (timedOut ar ev.vmId s.timeoutSeconds " (retry)"))
  | _, _ => none

/- An assignment to fields of `self._tasks[task_id]`. -/
def record (write : ParallelAssessmentProgress → ParallelAssessmentProgress) : Session F :=
  match s.progress with
  | none => { s with phase := .raised (.foreign "KeyError" ("'" ++ s.taskId ++ "'")) }
  | some p => { s with service := { s.service with tasks := s.service.tasks.insert s.taskId (write p) } }

/- One round of the loop: its own variables, and then the record. -/
def take (single : SingleVMResult F) (rest : List (SingleVMResult F)) : Session F :=
  { s with
    done := rest
    results := s.results ++ [single]
    completed := if single.status = .completed then s.completed + 1 else s.completed
    failed := if single.status = .completed then s.failed else s.failed + 1 }

def collect (single : SingleVMResult F) (rest : List (SingleVMResult F)) : Session F :=
  let s := s.take single rest
  s.record (fun p =>
    { p with completed := s.completed, failed := s.failed, inProgress := s.vmIds.length - s.completed - s.failed })

def finalStatus : ProgressStatus := if s.failed = 0 then .completed else .completedWithErrors

/- After the loop. -/
def store (task : Option Nat) : Session F :=
  { s with
    phase := match task with | some task => .closing task | none => .returned
    service := { s.service with results := s.service.results.insert s.taskId s.results } }

def conclude (task : Option Nat) : Session F :=
  (s.store task).record (fun p =>
    { p with status := s.finalStatus, completed := s.completed, failed := s.failed, inProgress := 0 })

/- A call of the operation task service, which raises out of `assess_parallel`. -/
def await {α : Type} (m : M α) (next : α → CallPhase) : Session F :=
  match m s.world with
  | .ok a w => { s with world := w, phase := next a }
  | .error exc w => { s with world := w, phase := .raised exc }

def proceed : Option (Session F) :=
  match s.phase with
  | .creating =>
    some (s.await (createTask site.env "vmware_parallel_assessment" "assessment" (targetId s.vmIds)) .opening)
  | .opening task =>
    some (s.await (updateTask site.env task .running .none none) (fun _ => .collecting (some task)))
  | .collecting task =>
    match s.done with
    | single :: rest => some (s.collect single rest)
    | [] => if s.results.length = s.vmIds.length then some (s.conclude task) else none
  | .closing task =>
    let state : TaskState := if s.finalStatus = .completed then .succeeded else .failed
    some (s.await (updateTask site.env task state .none none) (fun _ => .returned))
  | .returned | .raised _ => none

end Session

/- `assess_parallel` until its first await. -/
def assessParallel (service : ParallelAssessmentService F) (world : World) (vmIds : List String)
    (includeMapping : Bool) (maxConcurrency timeoutSeconds : Nat) : Session F :=
  let taskId := site.env.uuid world.tick
  let progress : ParallelAssessmentProgress := ⟨taskId, vmIds.length, 0, 0, vmIds.length, .running⟩
  { vmIds, includeMapping, maxConcurrency, timeoutSeconds, taskId
    world := { world with tick := world.tick + 1 }
    service := { service with
      tasks := service.tasks.insert taskId progress, results := service.results.insert taskId [] }
    phase := if service.operationTask then .creating else .collecting none
    evaluations := vmIds.map (fun vmId => ⟨vmId, .waiting⟩)
    done := [], results := [], completed := 0, failed := 0 }

def Session.step (s : Session F) (event : Event) : Option (Session F) :=
  match event with
  | .proceed => s.proceed site
  | .elsewhere world => some { s with world := world }
  | .acquire i | .evaluate i | .expire i =>
    match s.phase, s.evaluations[i]? with
    | .collecting _, some ev => s.coroutine ar site event i ev
    | _, _ => none

end Session

end VMachine.VMware
