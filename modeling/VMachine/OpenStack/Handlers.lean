import VMachine.Lib.Isolation
import VMachine.OpenStack.Tasks

/-! Tracked requests that are served at the same time. A handler gives way to the others at each
of its awaits, and each of these is a statement of `OperationTaskService` or the work itself. A
statement may be refused, and it may also be carried out and then raise, since the service reads
the row again after its commit. -/
namespace VMachine.OpenStack.Handlers
open Py Runs Isolation

/- What becomes of a statement: it is written and read again, written only, or not even that. -/
inductive Write where
  | done
  | unread
  | refused
  deriving Repr, DecidableEq

def Write.answer : Write → Option Exc
  | .done => none
  | _ => some databaseError

def taskNotFound : Exc := .appException "Operation task not found" 404 "task_not_found"

/- Where a handler is between two awaits. -/
inductive Stage where
  | arrived
  | queued
  | running
  | worked (targetId : Val)
  | settled
  | failing (exc : Exc)
  | returned
  | raised (exc : Exc)

/- An await of the handler with what comes of it. `work` is the service call, together with the
attribute that the handler reads off its result; `reply` is what follows the last update. -/
inductive Event where
  | create (write : Write)
  | start (now : Nat) (write : Write)
  | work (result : Except Exc Val)
  | succeed (now : Nat) (write : Write)
  | reply (fault : Option Exc)
  | fail (now : Nat) (write : Write)

/- What a handler names in the calls of the service. -/
structure Request where
  operationType : String
  targetType : String
  targetId : Val
  failedTarget : Val

def Request.row (request : Request) : OperationTask :=
  ⟨request.operationType, request.targetType, request.targetId, .queued, none, none⟩

/- What a statement does to the row of the handler. -/
inductive Statement where
  | nothing
  | insert (row : OperationTask)
  | update (f : OperationTask → OperationTask)

def Event.statement (request : Request) (stage : Stage) : Event → Statement × Write
  | .create write => (.insert request.row, write)
  | .start now write => (.update (OperationTask.update now .running .none none), write)
  | .work _ => (.nothing, .done)
  | .succeed now write =>
    match stage with
    | .worked targetId => (.update (OperationTask.update now .succeeded targetId none), write)
    | _ => (.nothing, .done)
  | .reply _ => (.nothing, .done)
  | .fail now write =>
    match stage with
    | .failing exc => (.update (OperationTask.update now .failed request.failedTarget (some exc.message)), write)
    | _ => (.nothing, .done)

/- The handler goes on with what the statement has answered: None, or an exception. -/
def Stage.after (answer : Option Exc) : Stage → Event → Option Stage
  | .arrived, .create _ => some (answer.elim .queued .raised)
  | .queued, .start _ _ => some (answer.elim .running .raised)
  | .running, .work (.ok targetId) => some (.worked targetId)
  | .running, .work (.error exc) => some (.failing exc)
  | .worked _, .succeed _ _ => some (answer.elim .settled .failing)
  | .settled, .reply fault => some (fault.elim .returned .failing)
  | .failing exc, .fail _ _ => some (.raised (answer.getD exc))
  | _, _ => none

section Whole
variable {ι : Type} [DecidableEq ι]

/- The table, and every handler with its local variable `task`. -/
structure System (ι : Type) where
  rows : List OperationTask
  task : ι → Option Nat
  stage : ι → Stage

def System.begin (rows : List OperationTask) : System ι := ⟨rows, fun _ => none, fun _ => .arrived⟩

/- INSERT, with the id of the row in the local variable of the handler. -/
def System.insert (s : System ι) (i : ι) (row : OperationTask) : System ι :=
  { s with rows := s.rows ++ [row], task := Function.update s.task i (some s.rows.length) }

def System.execute (s : System ι) (i : ι) : Statement × Write → System ι × Option Exc
  | (.nothing, _) => (s, none)
  | (.insert row, write) =>
    match write with
    | .refused => (s, write.answer)
    | _ => (s.insert i row, write.answer)
  | (.update f, write) =>
    match write with
    | .refused => (s, write.answer)
    | _ =>
      match (s.task i).bind (fun t => s.rows[t]?.map (fun row => (t, row))) with
      | none => (s, some taskNotFound)
      | some (t, row) => ({ s with rows := s.rows.set t (f row) }, write.answer)

def System.goto (s : System ι) (i : ι) (stage : Stage) : System ι :=
  { s with stage := Function.update s.stage i stage }

def System.step (requests : ι → Request) (s : System ι) : ι × Event → Option (System ι)
  | (i, e) =>
    let (written, answer) := s.execute i (e.statement (requests i) (s.stage i))
    ((s.stage i).after answer e).map (fun stage => written.goto i stage)

end Whole

/- A handler that is alone, with its row. -/
structure Solo where
  stage : Stage
  row : Option OperationTask

def Solo.begin : Solo := ⟨.arrived, none⟩

def Solo.execute (row : Option OperationTask) : Statement × Write → Option OperationTask × Option Exc
  | (.nothing, _) => (row, none)
  | (.insert new, write) =>
    match write with
    | .refused => (row, write.answer)
    | _ => (some new, write.answer)
  | (.update f, write) =>
    match write with
    | .refused => (row, write.answer)
    | _ =>
      match row with
      | none => (none, some taskNotFound)
      | some row => (some (f row), write.answer)

def Solo.step (request : Request) (h : Solo) (e : Event) : Option Solo :=
  let (row, answer) := Solo.execute h.row (e.statement request h.stage)
  (h.stage.after answer e).map (fun stage => ⟨stage, row⟩)

section Ownership
variable {ι : Type} [DecidableEq ι] {before : List OperationTask} {s : System ι} {i j : ι}

def System.row (s : System ι) (i : ι) : Option OperationTask := (s.task i).bind (fun t => s.rows[t]?)

def System.handler (s : System ι) (i : ι) : Solo := ⟨s.stage i, s.row i⟩

@[simp] theorem rows_insert (row : OperationTask) : (s.insert i row).rows = s.rows ++ [row] := rfl

@[simp] theorem task_insert_self (row : OperationTask) : (s.insert i row).task i = some s.rows.length :=
  Function.update_self i _ s.task

theorem task_insert_other (other : j ≠ i) (row : OperationTask) : (s.insert i row).task j = s.task j :=
  Function.update_of_ne other _ s.task

/- The rows that were there are as they were, and every other one belongs to one handler. -/
structure Owned (before : List OperationTask) (s : System ι) : Prop where
  longer : before.length ≤ s.rows.length
  kept : ∀ t < before.length, s.rows[t]? = before[t]?
  inside : ∀ i t, s.task i = some t → before.length ≤ t ∧ t < s.rows.length
  apart : ∀ i j t, s.task i = some t → s.task j = some t → i = j
  covered : ∀ t, before.length ≤ t → t < s.rows.length → ∃ i, s.task i = some t

omit [DecidableEq ι] in
theorem owned_begin (rows : List OperationTask) : Owned rows (System.begin rows : System ι) where
  longer := le_refl _
  kept _ _ := rfl
  inside _ _ taken := by contradiction
  apart _ _ _ taken := by contradiction
  covered t least most := by
    simp only [System.begin] at most
    omega

/-- What a statement can do to the whole. -/
theorem execute_cases (x : Statement × Write) :
    (s.execute i x).1 = s ∨
    (∃ row, x.1 = .insert row ∧ (s.execute i x).1 = s.insert i row) ∨
    (∃ (t : Nat) (row : OperationTask) (f : OperationTask → OperationTask), x.1 = .update f ∧ s.task i = some t ∧
      s.rows[t]? = some row ∧ (s.execute i x).1 = { s with rows := s.rows.set t (f row) }) := by
  obtain ⟨statement, write⟩ := x
  cases statement with
  | nothing => exact .inl rfl
  | insert row =>
    cases write with
    | refused => exact .inl rfl
    | done => exact .inr (.inl ⟨row, rfl, rfl⟩)
    | unread => exact .inr (.inl ⟨row, rfl, rfl⟩)
  | update f =>
    cases found : (s.task i).bind (fun t => s.rows[t]?.map (fun row => (t, row))) with
    | none => exact .inl (by cases write <;> simp [System.execute, found])
    | some hit =>
      obtain ⟨t, row⟩ := hit
      obtain ⟨u, mine, mapped⟩ := Option.bind_eq_some_iff.mp found
      obtain ⟨there, inside, same⟩ := Option.map_eq_some_iff.mp mapped
      cases same
      cases write with
      | refused => exact .inl rfl
      | done => exact .inr (.inr ⟨t, row, f, rfl, mine, inside, by simp [System.execute, found]⟩)
      | unread => exact .inr (.inr ⟨t, row, f, rfl, mine, inside, by simp [System.execute, found]⟩)

theorem execute_stage (x : Statement × Write) : (s.execute i x).1.stage = s.stage := by
  obtain same | ⟨row, _, same⟩ | ⟨t, row, f, _, _, _, same⟩ := execute_cases (s := s) (i := i) x
  · rw [same]
  · rw [same]
    rfl
  · rw [same]

/-- A handler that has no row yet gets the next one. -/
theorem Owned.insert (owned : Owned before s) (without : s.task i = none) (row : OperationTask) :
    Owned before (s.insert i row) where
  longer := by
    rw [rows_insert, List.length_append]
    exact Nat.le_add_right_of_le owned.longer
  kept t old := by
    rw [rows_insert, List.getElem?_append_left (Nat.lt_of_lt_of_le old owned.longer)]
    exact owned.kept t old
  inside j t mine := by
    rw [rows_insert, List.length_append, List.length_singleton]
    by_cases own : j = i
    · subst own
      rw [task_insert_self] at mine
      cases mine
      exact ⟨owned.longer, Nat.lt_succ_self _⟩
    · rw [task_insert_other own] at mine
      have was := owned.inside j t mine
      omega
  apart j k t first second := by
    by_cases own : j = i
    · subst own
      by_cases other : k = j
      · exact other.symm
      · rw [task_insert_self] at first
        rw [task_insert_other other] at second
        cases first
        have was := owned.inside k _ second
        omega
    · rw [task_insert_other own] at first
      by_cases other : k = i
      · subst other
        rw [task_insert_self] at second
        cases second
        have was := owned.inside j _ first
        omega
      · rw [task_insert_other other] at second
        exact owned.apart j k t first second
  covered t least most := by
    rw [rows_insert, List.length_append, List.length_singleton] at most
    by_cases last : t = s.rows.length
    · exact ⟨i, by rw [task_insert_self, last]⟩
    · obtain ⟨j, mine⟩ := owned.covered t least (by omega)
      refine ⟨j, ?_⟩
      have other : j ≠ i := by
        rintro rfl
        rw [without] at mine
        contradiction
      rw [task_insert_other other]
      exact mine

omit [DecidableEq ι] in
/-- A handler writes to a row that is its own, so to none of those that were there. -/
theorem Owned.set (owned : Owned before s) {t : Nat} (mine : s.task i = some t) (row : OperationTask) :
    Owned before { s with rows := s.rows.set t row } where
  longer := by
    rw [List.length_set]
    exact owned.longer
  kept u old := by
    have least := (owned.inside i t mine).1
    rw [List.getElem?_set_ne (by omega)]
    exact owned.kept u old
  inside j u own := by
    rw [List.length_set]
    exact owned.inside j u own
  apart := owned.apart
  covered u least most := by
    rw [List.length_set] at most
    exact owned.covered u least most

theorem execute_owned (owned : Owned before s) {x : Statement × Write}
    (once : ∀ row, x.1 = .insert row → s.task i = none) : Owned before (s.execute i x).1 := by
  obtain same | ⟨row, inserts, same⟩ | ⟨t, row, f, _, mine, _, same⟩ := execute_cases (s := s) (i := i) x
  · rw [same]
    exact owned
  · rw [same]
    exact owned.insert (once row inserts) row
  · rw [same]
    exact owned.set mine (f row)

/-- The statement of one handler does not reach the row of another. -/
theorem execute_row_other (owned : Owned before s) (x : Statement × Write) (other : j ≠ i) :
    (s.execute i x).1.row j = s.row j := by
  obtain same | ⟨row, _, same⟩ | ⟨t, row, f, _, mine, _, same⟩ := execute_cases (s := s) (i := i) x
  · rw [same]
  · rw [same, System.row, System.row, task_insert_other other]
    cases own : s.task j with
    | none => rfl
    | some u => exact List.getElem?_append_left (owned.inside j u own).2
  · rw [same, System.row, System.row]
    dsimp only
    cases own : s.task j with
    | none => rfl
    | some u =>
      have apart : t ≠ u := by
        rintro rfl
        exact other (owned.apart j i t own mine)
      exact List.getElem?_set_ne apart

/-- To the handler itself the statement does what it would do if the handler were alone. -/
theorem execute_row_own (x : Statement × Write) :
    Solo.execute (s.row i) x = ((s.execute i x).1.row i, (s.execute i x).2) := by
  obtain ⟨statement, write⟩ := x
  cases statement with
  | nothing => rfl
  | insert row =>
    cases write with
    | refused => rfl
    | done => simp [Solo.execute, System.execute, System.row]
    | unread => simp [Solo.execute, System.execute, System.row]
  | update f =>
    cases mine : s.task i with
    | none => cases write <;> simp [Solo.execute, System.execute, System.row, mine]
    | some t =>
      cases found : s.rows[t]? with
      | none => cases write <;> simp [Solo.execute, System.execute, System.row, mine, found]
      | some row =>
        have inside : t < s.rows.length := (List.getElem?_eq_some_iff.mp found).1
        cases write <;> simp_all [Solo.execute, System.execute, System.row]

end Ownership

section Steps
variable {ι : Type} [DecidableEq ι] {requests : ι → Request} {before : List OperationTask} {s t : System ι}

theorem step_iff {i : ι} {e : Event} : s.step requests (i, e) = some t ↔
    ∃ stage, (s.stage i).after (s.execute i (e.statement (requests i) (s.stage i))).2 e = some stage ∧
      t = (s.execute i (e.statement (requests i) (s.stage i))).1.goto i stage := by
  simp only [System.step, Option.map_eq_some_iff]
  constructor
  · rintro ⟨stage, goes, same⟩
    exact ⟨stage, goes, same.symm⟩
  · rintro ⟨stage, goes, same⟩
    exact ⟨stage, goes, same.symm⟩

/-- Only a request that has just come in is queued. -/
theorem inserts_at_arrival {request : Request} {stage next : Stage} {answer : Option Exc} {e : Event} {row : OperationTask}
    (inserts : (e.statement request stage).1 = .insert row) (goes : stage.after answer e = some next) :
    stage = .arrived ∧ next ≠ .arrived := by
  cases e with
  | create write =>
    cases stage with
    | arrived =>
      refine ⟨rfl, ?_⟩
      cases answer <;> cases goes <;> simp
    | _ => contradiction
  | succeed now write => cases stage <;> contradiction
  | fail now write => cases stage <;> contradiction
  | _ => contradiction

theorem elim_ne_arrived {answer : Option Exc} {good : Stage} {bad : Exc → Stage} (well : good ≠ .arrived)
    (badly : ∀ exc, bad exc ≠ .arrived) : answer.elim good bad ≠ .arrived := by
  cases answer with
  | none => exact well
  | some exc => exact badly exc

theorem never_arrives_again {stage next : Stage} {answer : Option Exc} {e : Event}
    (goes : stage.after answer e = some next) : next ≠ .arrived := by
  unfold Stage.after at goes
  split at goes
  all_goals first | contradiction | cases goes
  · exact elim_ne_arrived (by simp) (by simp)
  · exact elim_ne_arrived (by simp) (by simp)
  · simp
  · simp
  · exact elim_ne_arrived (by simp) (by simp)
  · exact elim_ne_arrived (by simp) (by simp)
  · simp

/- What every reachable state keeps. -/
structure Sound (before : List OperationTask) (s : System ι) : Prop extends Owned before s where
  fresh : ∀ i, s.stage i = .arrived → s.task i = none

omit [DecidableEq ι] in
theorem sound_begin (rows : List OperationTask) : Sound rows (System.begin rows : System ι) where
  toOwned := owned_begin rows
  fresh _ _ := rfl

theorem task_execute_other {i j : ι} (x : Statement × Write) (other : j ≠ i) :
    (s.execute i x).1.task j = s.task j := by
  obtain same | ⟨row, _, same⟩ | ⟨u, row, f, _, _, _, same⟩ := execute_cases (s := s) (i := i) x
  · rw [same]
  · rw [same, task_insert_other other]
  · rw [same]

theorem stage_goto_self {i : ι} (stage : Stage) : (s.goto i stage).stage i = stage := by
  simp [System.goto]

theorem stage_goto_other {i j : ι} (other : j ≠ i) (stage : Stage) : (s.goto i stage).stage j = s.stage j := by
  simp [System.goto, other]

theorem step_sound {e : ι × Event} (sound : Sound before s) (next : s.step requests e = some t) : Sound before t := by
  obtain ⟨i, e⟩ := e
  obtain ⟨stage, goes, rfl⟩ := step_iff.mp next
  have once (row : OperationTask) (inserts : (e.statement (requests i) (s.stage i)).1 = .insert row) : s.task i = none :=
    sound.fresh i (inserts_at_arrival inserts goes).1
  have owned := execute_owned sound.toOwned once
  refine ⟨⟨owned.longer, owned.kept, owned.inside, owned.apart, owned.covered⟩, ?_⟩
  intro j arrived
  by_cases own : j = i
  · subst own
    rw [stage_goto_self] at arrived
    exact absurd arrived (never_arrives_again goes)
  · rw [stage_goto_other own, execute_stage] at arrived
    exact (task_execute_other _ own).trans (sound.fresh j arrived)

/- What a handler sees of the whole is its stage and its row. -/
def view (requests : ι → Request) (before : List OperationTask) (i : ι) :
    View (System.step requests) Prod.fst (Sound before) i Solo where
  look s := s.handler i
  solo h e := h.step (requests i) e.2
  own := by
    rintro s ⟨_, e⟩ t _ rfl next
    obtain ⟨stage, goes, rfl⟩ := step_iff.mp next
    simp only [Solo.step, System.handler, execute_row_own, goes, stage_goto_self]
    rfl
  others := by
    rintro s ⟨j, e⟩ t sound other next
    obtain ⟨stage, goes, rfl⟩ := step_iff.mp next
    have row := execute_row_other sound.toOwned (e.statement (requests j) (s.stage j)) (Ne.symm other)
    simp only [System.handler, stage_goto_other (Ne.symm other), execute_stage]
    exact congrArg _ row

end Steps

/- The state that the event writes, unless it is refused. -/
def Event.written : Event → Option TaskState
  | .create write => if write = .refused then none else some .queued
  | .start _ write => if write = .refused then none else some .running
  | .succeed _ write => if write = .refused then none else some .succeeded
  | .fail _ write => if write = .refused then none else some .failed
  | _ => none

/- The statement is carried out, and the row read again. -/
def Event.done : Event → Bool
  | .create write | .start _ write | .succeed _ write | .fail _ write => decide (write = .done)
  | _ => true

def lastWritten (es : List Event) : Option TaskState := (es.filterMap Event.written).getLast?

/- `state in {"succeeded", "failed"}`. -/
def final : TaskState → Bool
  | .succeeded | .failed => true
  | _ => false

/- One state of a task comes after another. -/
def Advances : TaskState → TaskState → Prop
  | .queued, .running | .running, .succeeded | .running, .failed | .succeeded, .failed => True
  | _, _ => False

/- The success has been committed and not been read again, or what came behind it has failed. -/
def BrokenOff (es : List Event) : Prop := (∃ now, .succeed now .unread ∈ es) ∨ ∃ exc, .reply (some exc) ∈ es

/- What the row says, by the stage that the handler is in. -/
def Solo.Fits (request : Request) (h : Solo) : Prop :=
  match h.stage with
  | .arrived => h.row = none
  | .queued => h.row = some request.row
  | .running | .worked _ => ∃ row, h.row = some row ∧ row.state = .running
  | .failing _ => ∃ row, h.row = some row ∧ (row.state = .running ∨ row.state = .succeeded)
  | .settled | .returned => ∃ row, h.row = some row ∧ row.state = .succeeded ∧ row.errorMessage = none
  | .raised _ => True

section Alone
variable {request : Request} {h k : Solo} {e : Event}

theorem solo_iff : h.step request e = some k ↔
    h.stage.after (Solo.execute h.row (e.statement request h.stage)).2 e = some k.stage ∧
      k.row = (Solo.execute h.row (e.statement request h.stage)).1 := by
  simp only [Solo.step, Option.map_eq_some_iff]
  constructor
  · rintro ⟨stage, goes, rfl⟩
    exact ⟨goes, rfl⟩
  · rintro ⟨goes, same⟩
    exact ⟨k.stage, goes, by rw [← same]⟩

theorem execute_update (row : OperationTask) (f : OperationTask → OperationTask) (write : Write) :
    Solo.execute (some row) (.update f, write) = (some (if write = .refused then row else f row), write.answer) := by
  cases write <;> rfl

theorem execute_insert (held : Option OperationTask) (row : OperationTask) (write : Write) :
    Solo.execute held (.insert row, write) = (if write = .refused then held else some row, write.answer) := by
  cases write <;> rfl

/-- What a handler does when it waits for its first statement, and so on for the others. -/
theorem solo_cases (fits : h.Fits request) (next : h.step request e = some k) :
    (∃ write, e = .create write ∧ h.row = none ∧ k.stage = write.answer.elim .queued .raised ∧
      k.row = if write = .refused then none else some request.row) ∨
    (∃ now write, e = .start now write ∧ h.row = some request.row ∧ k.stage = write.answer.elim .running .raised ∧
      k.row = some (if write = .refused then request.row else request.row.update now .running .none none)) ∨
    (∃ result row, e = .work result ∧ h.row = some row ∧ row.state = .running ∧ k.row = some row ∧
      ((∃ id, k.stage = .worked id) ∨ ∃ exc, k.stage = .failing exc)) ∨
    (∃ now write row id, e = .succeed now write ∧ h.row = some row ∧ row.state = .running ∧
      k.stage = write.answer.elim .settled .failing ∧
      k.row = some (if write = .refused then row else row.update now .succeeded id none)) ∨
    (∃ fault row, e = .reply fault ∧ h.row = some row ∧ row.state = .succeeded ∧ row.errorMessage = none ∧
      k.row = some row ∧ k.stage = fault.elim .returned .failing) ∨
    (∃ now write row exc, e = .fail now write ∧ h.row = some row ∧ (row.state = .running ∨ row.state = .succeeded) ∧
      k.stage = .raised (write.answer.getD exc) ∧
      k.row = some (if write = .refused then row else row.update now .failed request.failedTarget (some exc.message))) := by
  obtain ⟨goes, written⟩ := solo_iff.mp next
  unfold Solo.Fits at fits
  unfold Stage.after at goes
  split at goes
  · rename_i write waits
    rw [waits] at fits
    simp only [Event.statement, execute_insert, fits] at goes written
    exact .inl ⟨write, rfl, fits, (Option.some.inj goes).symm, written⟩
  · rename_i now write waits
    rw [waits] at fits
    simp only [Event.statement, execute_update, fits] at goes written
    exact .inr (.inl ⟨now, write, rfl, fits, (Option.some.inj goes).symm, written⟩)
  · rename_i id waits
    rw [waits] at fits
    obtain ⟨row, there, running⟩ := fits
    simp only [Event.statement, Solo.execute, there] at written
    exact .inr (.inr (.inl ⟨_, row, rfl, there, running, written, .inl ⟨id, (Option.some.inj goes).symm⟩⟩))
  · rename_i exc waits
    rw [waits] at fits
    obtain ⟨row, there, running⟩ := fits
    simp only [Event.statement, Solo.execute, there] at written
    exact .inr (.inr (.inl ⟨_, row, rfl, there, running, written, .inr ⟨exc, (Option.some.inj goes).symm⟩⟩))
  · rename_i id now write waits
    rw [waits] at fits
    obtain ⟨row, there, running⟩ := fits
    simp only [waits, Event.statement, execute_update, there] at goes written
    exact .inr (.inr (.inr (.inl ⟨now, write, row, id, rfl, there, running, (Option.some.inj goes).symm, written⟩)))
  · rename_i fault waits
    rw [waits] at fits
    obtain ⟨row, there, succeeded, clean⟩ := fits
    simp only [Event.statement, Solo.execute, there] at written
    exact .inr (.inr (.inr (.inr (.inl ⟨fault, row, rfl, there, succeeded, clean, written, (Option.some.inj goes).symm⟩))))
  · rename_i exc now write waits
    rw [waits] at fits
    obtain ⟨row, there, unfailed⟩ := fits
    simp only [waits, Event.statement, execute_update, there] at goes written
    exact .inr (.inr (.inr (.inr (.inr ⟨now, write, row, exc, rfl, there, unfailed, (Option.some.inj goes).symm, written⟩))))
  · contradiction

theorem answer_none {write : Write} (done : write.answer = none) : write = .done := by
  cases write with
  | done => rfl
  | _ => contradiction

/- A stage that answers with success or with an exception. -/
theorem elim_cases (answer : Option Exc) (good : Stage) (bad : Exc → Stage) :
    (answer = none ∧ answer.elim good bad = good) ∨ ∃ exc, answer = some exc ∧ answer.elim good bad = bad exc := by
  cases answer with
  | none => exact .inl ⟨rfl, rfl⟩
  | some exc => exact .inr ⟨exc, rfl, rfl⟩

theorem solo_fits (fits : h.Fits request) (next : h.step request e = some k) : k.Fits request := by
  unfold Solo.Fits
  obtain ⟨write, _, _, stage, row⟩ | ⟨now, write, _, _, stage, row⟩ | ⟨result, old, _, _, running, row, stage⟩ |
    ⟨now, write, old, id, _, _, running, stage, row⟩ | ⟨fault, old, _, _, succeeded, clean, row, stage⟩ |
    ⟨now, write, old, exc, _, _, _, stage, row⟩ := solo_cases fits next
  · obtain ⟨done, same⟩ | ⟨exc, _, same⟩ := elim_cases write.answer .queued .raised
    · rw [stage, same, row, answer_none done]
      rfl
    · rw [stage, same]
      trivial
  · obtain ⟨done, same⟩ | ⟨exc, _, same⟩ := elim_cases write.answer .running .raised
    · rw [stage, same, row, answer_none done]
      exact ⟨_, rfl, rfl⟩
    · rw [stage, same]
      trivial
  · obtain ⟨id, same⟩ | ⟨exc, same⟩ := stage
    · rw [same]
      exact ⟨old, row, running⟩
    · rw [same]
      exact ⟨old, row, .inl running⟩
  · obtain ⟨done, same⟩ | ⟨exc, _, same⟩ := elim_cases write.answer .settled .failing
    · rw [stage, same, row, answer_none done]
      exact ⟨_, rfl, rfl, rfl⟩
    · rw [stage, same]
      refine ⟨_, row, ?_⟩
      split
      · exact .inl running
      · exact .inr rfl
  · obtain ⟨_, same⟩ | ⟨exc, _, same⟩ := elim_cases fault .returned .failing
    · rw [stage, same]
      exact ⟨old, row, succeeded, clean⟩
    · rw [stage, same]
      exact ⟨old, row, .inr succeeded⟩
  · rw [stage]
    trivial

/-- A statement that is not refused takes the row to the state that it names, and no other event
touches the row. -/
theorem solo_row (fits : h.Fits request) (next : h.step request e = some k) :
    (e.written = none ∧ k.row = h.row) ∨ ∃ row, e.written = some row.state ∧ k.row = some row ∧
      row.finishedAt.isSome = final row.state ∧ ∀ old, h.row = some old → Advances old.state row.state := by
  obtain ⟨write, rfl, there, _, row⟩ | ⟨now, write, rfl, there, _, row⟩ | ⟨result, old, rfl, there, running, row, _⟩ |
    ⟨now, write, old, id, rfl, there, running, _, row⟩ | ⟨fault, old, rfl, there, _, _, row, _⟩ |
    ⟨now, write, old, exc, rfl, there, before, _, row⟩ := solo_cases fits next
  · by_cases refused : write = .refused
    · exact .inl ⟨if_pos refused, by rw [row, if_pos refused, there]⟩
    · rw [if_neg refused] at row
      refine .inr ⟨_, ?_, row, rfl, ?_⟩
      · exact if_neg refused
      intro old held
      rw [there] at held
      contradiction
  · by_cases refused : write = .refused
    · exact .inl ⟨if_pos refused, by rw [row, if_pos refused, there]⟩
    · rw [if_neg refused] at row
      refine .inr ⟨_, ?_, row, rfl, ?_⟩
      · exact if_neg refused
      intro old held
      cases there.symm.trans held
      trivial
  · exact .inl ⟨rfl, row.trans there.symm⟩
  · by_cases refused : write = .refused
    · exact .inl ⟨if_pos refused, by rw [row, if_pos refused, there]⟩
    · rw [if_neg refused] at row
      refine .inr ⟨_, ?_, row, rfl, ?_⟩
      · exact if_neg refused
      intro other held
      cases there.symm.trans held
      rw [running]
      trivial
  · exact .inl ⟨rfl, row.trans there.symm⟩
  · by_cases refused : write = .refused
    · exact .inl ⟨if_pos refused, by rw [row, if_pos refused, there]⟩
    · rw [if_neg refused] at row
      refine .inr ⟨_, ?_, row, rfl, ?_⟩
      · exact if_neg refused
      intro other held
      cases there.symm.trans held
      obtain running | succeeded := before
      · rw [running]
        trivial
      · rw [succeeded]
        trivial

/- A handler that has raised has written down what. -/
def Solo.Told (h : Solo) : Prop :=
  ∀ exc, h.stage = .raised exc → ∃ row, h.row = some row ∧ row.state = .failed ∧ row.errorMessage = some exc.message

theorem solo_told (fits : h.Fits request) (done : e.done = true) (next : h.step request e = some k) : k.Told := by
  intro raisedExc raised
  obtain ⟨write, rfl, _, stage, row⟩ | ⟨now, write, rfl, _, stage, row⟩ | ⟨result, old, rfl, _, running, row, stage⟩ |
    ⟨now, write, old, id, rfl, _, running, stage, row⟩ | ⟨fault, old, rfl, _, _, _, row, stage⟩ |
    ⟨now, write, old, exc, rfl, _, _, stage, row⟩ := solo_cases fits next
  · cases of_decide_eq_true done
    cases raised.symm.trans stage
  · cases of_decide_eq_true done
    cases raised.symm.trans stage
  · obtain ⟨id, same⟩ | ⟨exc, same⟩ := stage <;> cases raised.symm.trans same
  · cases of_decide_eq_true done
    cases raised.symm.trans stage
  · obtain ⟨_, same⟩ | ⟨exc, _, same⟩ := elim_cases fault .returned .failing <;>
      cases (raised.symm.trans stage).trans same
  · cases of_decide_eq_true done
    cases raised.symm.trans stage
    exact ⟨_, row, rfl, rfl⟩

theorem failing_of_fail {answer : Option Exc} {stage next : Stage} {now : Nat} {write : Write}
    (goes : stage.after answer (.fail now write) = some next) : ∃ exc, stage = .failing exc := by
  cases stage with
  | failing exc => exact ⟨exc, rfl⟩
  | _ => contradiction

theorem fail_of_written (written : e.written = some .failed) : ∃ now write, e = .fail now write := by
  cases e with
  | fail now write => exact ⟨now, write, rfl⟩
  | create write | start now write | succeed now write => simp [Event.written] at written
  | work result | reply fault => contradiction

/- A handler with a success in its row fails only if it has broken off. -/
def Solo.Breaks (es : List Event) (h : Solo) : Prop :=
  ∀ exc row, h.stage = .failing exc → h.row = some row → row.state = .succeeded → BrokenOff es

theorem solo_breaks (fits : h.Fits request) (next : h.step request e = some k) (es : List Event) :
    k.Breaks (es ++ [e]) := by
  intro fault held failing there succeeded
  obtain ⟨write, _, _, stage, _⟩ | ⟨now, write, _, _, stage, _⟩ | ⟨result, old, _, _, running, row, _⟩ |
    ⟨now, write, old, id, rfl, _, running, stage, row⟩ | ⟨reply, old, rfl, _, _, _, _, stage⟩ |
    ⟨now, write, old, exc, _, _, _, stage, _⟩ := solo_cases fits next
  · obtain ⟨_, same⟩ | ⟨exc, _, same⟩ := elim_cases write.answer .queued .raised <;>
      cases (failing.symm.trans stage).trans same
  · obtain ⟨_, same⟩ | ⟨exc, _, same⟩ := elim_cases write.answer .running .raised <;>
      cases (failing.symm.trans stage).trans same
  · cases there.symm.trans row
    cases running.symm.trans succeeded
  · -- the success has been written, or the row would still be running, and something was raised
    cases write with
    | done => cases failing.symm.trans stage
    | refused =>
      cases there.symm.trans row
      cases running.symm.trans succeeded
    | unread => exact .inl ⟨now, by simp⟩
  · obtain ⟨_, same⟩ | ⟨exc, raised, same⟩ := elim_cases reply .returned .failing
    · cases (failing.symm.trans stage).trans same
    · exact .inr ⟨exc, by simp [raised]⟩
  · cases failing.symm.trans stage

/- What a handler that has run alone has come to. -/
structure Recorded (request : Request) (es : List Event) (h : Solo) : Prop where
  fits : h.Fits request
  breaks : h.Breaks es
  last : h.row.map OperationTask.state = lastWritten es
  finished : ∀ row, h.row = some row → row.finishedAt.isSome = final row.state
  told : (∀ e ∈ es, e.done = true) → h.Told

theorem lastWritten_concat (es : List Event) (e : Event) :
    lastWritten (es ++ [e]) = e.written.or (lastWritten es) := by
  unfold lastWritten
  cases written : e.written with
  | none => simp [List.filterMap_append, written]
  | some state => simp [List.filterMap_append, written]

theorem recorded_begin : Recorded request [] Solo.begin where
  fits := rfl
  breaks _ _ failing := by contradiction
  last := rfl
  finished _ held := by contradiction
  told _ _ raised := by contradiction

theorem recorded_step {es : List Event} (recorded : Recorded request es h) (next : h.step request e = some k) :
    Recorded request (es ++ [e]) k := by
  have told : (∀ f ∈ es ++ [e], f.done = true) → k.Told := fun all => solo_told recorded.fits (all e (by simp)) next
  obtain ⟨nothing, same⟩ | ⟨row, written, there, finished, _⟩ := solo_row recorded.fits next
  · refine ⟨solo_fits recorded.fits next, solo_breaks recorded.fits next es, ?_, ?_, told⟩
    · rw [lastWritten_concat, nothing, same]
      exact recorded.last
    · rw [same]
      exact recorded.finished
  · refine ⟨solo_fits recorded.fits next, solo_breaks recorded.fits next es, ?_, ?_, told⟩
    · rw [lastWritten_concat, written, there]
      rfl
    · intro other held
      cases there.symm.trans held
      exact finished

theorem alone_recorded {es : List Event} (run : exec (Solo.step request) Solo.begin es = some h) :
    Recorded request es h :=
  Runs.history (Solo.step request) (I := Recorded request) (fun _ _ _ _ recorded next => recorded_step recorded next)
    recorded_begin run

end Alone

section Together
variable {ι : Type} [DecidableEq ι] {requests : ι → Request} {before : List OperationTask} {s t : System ι}
  {events : List (ι × Event)}

/- The events of one handler. -/
def own (i : ι) (events : List (ι × Event)) : List Event := (ownEvents Prod.fst i events).map Prod.snd

theorem run_sound (run : exec (System.step requests) (.begin before) events = some s) : Sound before s :=
  Runs.invariant (System.step requests) (fun _ _ _ sound next => step_sound sound next) (sound_begin before) run

theorem exec_map {S E F : Type} {step : S → E → Option S} (f : F → E) (s : S) (es : List F) :
    exec step s (es.map f) = exec (fun s e => step s (f e)) s es := by
  induction es generalizing s with
  | nil => rfl
  | cons e es ih =>
    simp only [List.map_cons, exec]
    exact Option.bind_congr (fun t _ => ih t)

/-- Whatever the others do, a handler and its row are where they would be if it had been alone. -/
theorem run_alone (run : exec (System.step requests) (.begin before) events = some s) (i : ι) :
    exec (Solo.step (requests i)) .begin (own i events) = some (s.handler i) := by
  rw [own, exec_map]
  exact exec_view (view requests before i) (fun _ _ _ sound next => step_sound sound next) (sound_begin before) run

theorem run_recorded (run : exec (System.step requests) (.begin before) events = some s) (i : ι) :
    Recorded (requests i) (own i events) (s.handler i) :=
  alone_recorded (run_alone run i)

/-- In every interleaving of tracked handlers, with any statement refused or unread, the rows that
were there are untouched, every other row belongs to one handler, and each handler and its row are
where they would be if it had been alone. -/
theorem handlers_do_not_interfere (run : exec (System.step requests) (.begin before) events = some s) :
    (∀ t < before.length, s.rows[t]? = before[t]?) ∧
    (∀ t, before.length ≤ t → t < s.rows.length → ∃ i, s.task i = some t ∧ ∀ j, s.task j = some t → j = i) ∧
    ∀ i, exec (Solo.step (requests i)) .begin (own i events) = some (s.handler i) := by
  have sound := run_sound run
  refine ⟨sound.kept, ?_, run_alone run⟩
  intro t least most
  obtain ⟨i, mine⟩ := sound.covered t least most
  exact ⟨i, mine, fun j other => sound.apart j i t other mine⟩

/-- In every interleaving a task is in the state that its handler was the last to write, it has a
time of its end exactly if that state is final, and a handler that has returned has written that
it succeeded. A handler that raises says so in its task if none of its statements fails. -/
theorem task_is_last_write (run : exec (System.step requests) (.begin before) events = some s) (i : ι) :
    (s.row i).map OperationTask.state = lastWritten (own i events) ∧
    (∀ row, s.row i = some row → row.finishedAt.isSome = final row.state) ∧
    (s.stage i = .returned → ∃ row, s.row i = some row ∧ row.state = .succeeded ∧ row.errorMessage = none) ∧
    ((∀ e ∈ own i events, e.done = true) → ∀ exc, s.stage i = .raised exc →
      ∃ row, s.row i = some row ∧ row.state = .failed ∧ row.errorMessage = some exc.message) := by
  have recorded := run_recorded run i
  refine ⟨recorded.last, recorded.finished, ?_, recorded.told⟩
  intro returned
  have fits := recorded.fits
  have stage : (s.handler i).stage = .returned := returned
  rw [Solo.Fits, stage] at fits
  exact fits

/- Two requests, of `create_server` and of `delete_volume`, one of which succeeds in a row that cannot
be read again. -/
def createServer (name : String) : Request := ⟨"create_server", "server", .str name, .none⟩

def deleteVolume (volumeId : String) : Request := ⟨"delete_volume", "volume", .str volumeId, .str volumeId⟩

def twoRequests : Bool → Request
  | true => createServer "web"
  | false => deleteVolume "vol-1"

def overlapping : List (Bool × Event) :=
  [(true, .create .done), (false, .create .done), (true, .start 1 .done), (false, .start 2 .done),
    (true, .work (.ok (.str "srv-1"))), (false, .work (.error taskNotFound)), (true, .succeed 3 .unread)]

def closing : List (Bool × Event) := overlapping ++ [(false, .fail 4 .done), (true, .fail 5 .done)]

theorem overlapping_runs (es : List (Bool × Event)) (runs : (exec (System.step twoRequests) (.begin []) es).isSome = true) :
    ∃ s, exec (System.step twoRequests) (.begin []) es = some s := Option.isSome_iff_exists.mp runs

theorem two_handlers_apart : ∃ s, exec (System.step twoRequests) (.begin []) closing = some s ∧
    exec (Solo.step (createServer "web")) .begin (own true closing) = some (s.handler true) := by
  obtain ⟨s, run⟩ := overlapping_runs closing (by decide +kernel)
  exact ⟨s, run, (handlers_do_not_interfere run).2.2 true⟩

theorem unread_success_says_failed : ∃ s, exec (System.step twoRequests) (.begin []) closing = some s ∧
    (s.row true).map OperationTask.state = some .failed := by
  obtain ⟨s, run⟩ := overlapping_runs closing (by decide +kernel)
  have last : lastWritten (own true closing) = some .failed := by decide +kernel
  exact ⟨s, run, (task_is_last_write run true).1.trans last⟩

/-- A row that a handler has keeps its place. -/
theorem step_task_kept {e : ι × Event} (sound : Sound before s) (next : s.step requests e = some t) {i : ι} {u : Nat}
    (mine : s.task i = some u) : t.task i = some u := by
  obtain ⟨j, e⟩ := e
  obtain ⟨stage, goes, rfl⟩ := step_iff.mp next
  obtain same | ⟨row, inserts, same⟩ | ⟨v, row, f, _, _, _, same⟩ :=
    execute_cases (s := s) (i := j) (e.statement (requests j) (s.stage j))
  · rw [System.goto, same]
    exact mine
  · by_cases own : i = j
    · subst own
      have none := sound.fresh i (inserts_at_arrival inserts goes).1
      rw [none] at mine
      contradiction
    · rw [System.goto, same]
      exact (task_insert_other own row).trans mine
  · rw [System.goto, same]
    exact mine

theorem failed_of_advances {state : TaskState} (forward : Advances .succeeded state) : state = .failed := by
  cases state with
  | failed => rfl
  | _ => exact forward.elim

/-- In every interleaving a task stays as it is or goes forward, from queued to running and from
there to its end; only a success can still become a failure, by its own handler and after it has
broken off behind the success. -/
theorem tasks_only_advance (run : exec (System.step requests) (.begin before) events = some s) {e : ι × Event}
    (next : s.step requests e = some t) {u : Nat} {row : OperationTask} (there : s.rows[u]? = some row) :
    ∃ new, t.rows[u]? = some new ∧ (new = row ∨ Advances row.state new.state ∧
      (row.state = .succeeded → new.state = .failed ∧
        ∃ i now write, e = (i, .fail now write) ∧ s.task i = some u ∧ BrokenOff (own i events))) := by
  have sound := run_sound run
  have after := step_sound sound next
  by_cases old : u < before.length
  · exact ⟨row, (after.kept u old).trans ((sound.kept u old).symm.trans there), .inl rfl⟩
  · obtain ⟨i, mine⟩ := sound.covered u (by omega) (List.getElem?_eq_some_iff.mp there).1
    have still := step_task_kept sound next mine
    have held : s.row i = some row := by
      rw [System.row, mine]
      exact there
    have seen : t.row i = t.rows[u]? := by
      rw [System.row, still]
      rfl
    by_cases own : e.1 = i
    · have alone := (view requests before i).own s e t sound own next
      have recorded := run_recorded run i
      obtain ⟨_, same⟩ | ⟨new, wrote, written, _, forward⟩ := solo_row recorded.fits alone
      · exact ⟨row, seen.symm.trans (same.trans held), .inl rfl⟩
      · refine ⟨new, seen.symm.trans written, .inr ⟨forward row held, fun succeeded => ?_⟩⟩
        have failed := failed_of_advances (succeeded ▸ forward row held)
        obtain ⟨j, event⟩ := e
        cases own
        obtain ⟨now, write, rfl⟩ := fail_of_written (wrote.trans (congrArg some failed))
        obtain ⟨stage, goes, _⟩ := step_iff.mp next
        obtain ⟨exc, failing⟩ := failing_of_fail goes
        exact ⟨failed, j, now, write, rfl, mine, recorded.breaks exc row failing held succeeded⟩
    · have same := congrArg Solo.row ((view requests before i).others s e t sound own next)
      exact ⟨row, seen.symm.trans (same.trans held), .inl rfl⟩

/-- The task of the first request, which says that it has succeeded, and its last step. -/
theorem success_becomes_failure : ∃ s t row new, exec (System.step twoRequests) (.begin []) overlapping = some s ∧
    s.rows[0]? = some row ∧ row.state = .succeeded ∧ s.step twoRequests (true, .fail 5 .done) = some t ∧
    t.rows[0]? = some new ∧ (new = row ∨ new.state = .failed ∧ BrokenOff (own true overlapping)) := by
  obtain ⟨s, run⟩ := overlapping_runs overlapping (by decide +kernel)
  have seen : (exec (System.step twoRequests) (.begin []) overlapping).any (fun s =>
      (s.rows[0]?).any (fun row => decide (row.state = .succeeded)) &&
        (s.step twoRequests (true, .fail 5 .done)).isSome) = true := by decide +kernel
  rw [run] at seen
  obtain ⟨holds, goes⟩ := Bool.and_eq_true_iff.mp seen
  obtain ⟨row, there, succeeded⟩ := (Option.any_eq_true _ _).mp holds
  obtain ⟨t, next⟩ := Option.isSome_iff_exists.mp goes
  obtain ⟨new, after, forward⟩ := tasks_only_advance run next there
  refine ⟨s, t, row, new, run, there, of_decide_eq_true succeeded, next, after, forward.imp id ?_⟩
  rintro ⟨_, breaks⟩
  obtain ⟨failed, i, now, write, same, _, broken⟩ := breaks (of_decide_eq_true succeeded)
  cases same
  exact ⟨failed, broken⟩

end Together

end VMachine.OpenStack.Handlers
