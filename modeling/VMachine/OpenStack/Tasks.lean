import VMachine.OpenStack.World

/-! `OperationTaskService`, and the frame that every tracked endpoint puts around its work:
a task is queued and set running, and what the work returns or raises decides what the task
is set to in the end. -/
namespace VMachine.OpenStack
open Py Effects

/- What a session raises when the database does not answer. -/
def databaseError : Exc := .foreign "OperationalError" "database is unavailable"

/- `update_task`, on the row. -/
def OperationTask.update (now : Nat) (state : TaskState) (targetId : Val) (errorMessage : Option String)
    (task : OperationTask) : OperationTask where
  operationType := task.operationType
  targetType := task.targetType
  targetId := match targetId with | .none => task.targetId | id => id
  state := state
  errorMessage := errorMessage
  finishedAt := match state with
    | .succeeded | .failed => some now
    | _ => task.finishedAt

section Service
variable (env : Env)

def createTask (operationType targetType : String) (targetId : Val) : M Nat := do
  let n ← ask
  if env.databaseUp n then
    let w ← get
    let task : OperationTask := ⟨operationType, targetType, targetId, .queued, none, none⟩
    set { w with tasks := w.tasks ++ [task] }
    return w.tasks.length
  else throw databaseError

def updateTask (taskId : Nat) (state : TaskState) (targetId : Val) (errorMessage : Option String) : M Unit := do
  let n ← ask
  if env.databaseUp n then
    let w ← get
    match w.tasks[taskId]? with
    | none => throw (.appException "Operation task not found" 404 "task_not_found")
    | some task =>
      set { w with tasks := w.tasks.set taskId (task.update (env.wall n) state targetId errorMessage) }
  else throw databaseError

/- The handlers differ in the target they name when the work fails. -/
def tracked {α : Type} (operationType targetType : String) (targetId failedTarget : Val)
    (work : Nat → M α) : M α := do
  let task ← createTask env operationType targetType targetId
  updateTask env task .running .none none
  tryCatch (work task) (fun exc => do
    updateTask env task .failed failedTarget (some exc.message)
    throw exc)

end Service

/- The world in which the work of a tracked endpoint starts. -/
def World.begun (w : World) (operationType targetType : String) (targetId : Val) : World :=
  { w with
    tick := w.tick + 2
    tasks := w.tasks ++ [⟨operationType, targetType, targetId, .running, none, none⟩] }

section Specs
variable {env : Env} {w : World} {α : Type}

theorem updateTask_wp (up : env.databaseUp w.tick = true) {taskId : Nat} {task : OperationTask}
    (there : w.tasks[taskId]? = some task) (state : TaskState) (targetId : Val) (errorMessage : Option String)
    {Q : Unit → World → Prop} {E : Exc → World → Prop} :
    wp (updateTask env taskId state targetId errorMessage) w Q E ↔
      Q () { w with
        tick := w.tick + 1
        tasks := w.tasks.set taskId (task.update (env.wall w.tick) state targetId errorMessage) } := by
  simp only [updateTask, ask, wp_bind, wp_get, wp_set, wp_pure, up, if_true, there]

theorem updateTask_up (up : env.databaseUp w.tick = true) {taskId : Nat} {task : OperationTask}
    (there : w.tasks[taskId]? = some task) (state : TaskState) (targetId : Val) (errorMessage : Option String) :
    updateTask env taskId state targetId errorMessage w = .ok () { w with
      tick := w.tick + 1
      tasks := w.tasks.set taskId (task.update (env.wall w.tick) state targetId errorMessage) } := by
  apply ok_of_wp
  rw [updateTask_wp up there]
  exact ⟨rfl, rfl⟩

theorem createTask_up (up : env.databaseUp w.tick = true) (operationType targetType : String) (targetId : Val) :
    createTask env operationType targetType targetId w = .ok w.tasks.length { w with
      tick := w.tick + 1
      tasks := w.tasks ++ [⟨operationType, targetType, targetId, .queued, none, none⟩] } := by
  apply ok_of_wp
  simp only [createTask, ask, wp_bind, wp_get, wp_set, wp_pure, up, if_true]
  trivial

/-- An update that the database does not answer is not made. -/
theorem updateTask_down (down : env.databaseUp w.tick = false) (taskId : Nat) (state : TaskState) (targetId : Val)
    (errorMessage : Option String) :
    updateTask env taskId state targetId errorMessage w = .error databaseError { w with tick := w.tick + 1 } := by
  apply error_of_wp
  simp only [updateTask, ask, wp_bind, wp_get, wp_set, wp_pure, down, Bool.false_eq_true, if_false, wp_throw]
  trivial

theorem createTask_down (down : env.databaseUp w.tick = false) (operationType targetType : String) (targetId : Val) :
    createTask env operationType targetType targetId w = .error databaseError { w with tick := w.tick + 1 } := by
  apply error_of_wp
  simp only [createTask, ask, wp_bind, wp_get, wp_set, wp_pure, down, Bool.false_eq_true, if_false, wp_throw]
  trivial

/-- A database that answers lets the work begin, and an exception mark the task failed. -/
theorem tracked_wp (up : ∀ n, env.databaseUp n = true) (operationType targetType : String)
    (targetId failedTarget : Val) (work : Nat → M α) {Q : α → World → Prop} {E : Exc → World → Prop} :
    wp (tracked env operationType targetType targetId failedTarget work) w Q E ↔
      wp (work w.tasks.length) (w.begun operationType targetType targetId) Q (fun exc t =>
        wp (updateTask env w.tasks.length .failed failedTarget (some exc.message)) t (fun _ u => E exc u) E) := by
  simp only [tracked, createTask, ask, wp_bind, wp_get, wp_set, wp_pure, wp_tryCatch, wp_throw, up, if_true]
  rw [updateTask_wp (up _) (List.getElem?_concat_length)]
  simp [World.begun, OperationTask.update]

theorem tracked_raises {operationType targetType : String} {targetId failedTarget : Val} {work : Nat → M α}
    (raises : ∀ task, Raises (work task)) :
    Raises (tracked env operationType targetType targetId failedTarget work) :=
  raises_then (fun task => raises_then (fun _ =>
    raises_tryCatch (raises task) (fun exc => raises_then (fun _ => raises_throw exc))))

end Specs

section Begun
variable {w : World} {operationType targetType : String}

theorem task_begun {targetId : Val} {t : World} (same : t.tasks = (w.begun operationType targetType targetId).tasks) :
    t.tasks[w.tasks.length]? = some ⟨operationType, targetType, targetId, .running, none, none⟩ := by
  rw [same]
  exact List.getElem?_concat_length

theorem update_tells {task : OperationTask} {n : Nat} {t : World} (there : t.tasks[n]? = some task) (now : Nat)
    (state : TaskState) (targetId : Val) (errorMessage : Option String) :
    ((t.tasks.set n (task.update now state targetId errorMessage))[n]?).map OperationTask.state = some state := by
  rw [List.getElem?_set_self (List.getElem?_eq_some_iff.mp there).1]
  rfl

end Begun

end VMachine.OpenStack
