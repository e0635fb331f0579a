import VMachine.VMware.Parallel

/-! The books of a parallel assessment. Every step of a call keeps them, so the record adds
up at any time and the results of a call that has returned are those of its ids. The call
does not get stuck before that. -/
namespace VMachine.VMware
open Py Effects OpenStack

/- How much a coroutine, and the call itself, has left to do. -/
def Evaluation.work (ev : Evaluation) : Nat :=
  match ev.stage with
  | .waiting => 4
  | .attempting _ => 3
  | .retrying _ _ _ => 2
  | .finished => 0

def CallPhase.work : CallPhase → Nat
  | .creating => 4
  | .opening _ => 3
  | .collecting _ => 2
  | .closing _ => 1
  | .returned | .raised _ => 0

/- What a step does to the books: it leaves them alone, lets a coroutine go on or finish,
takes a result, or closes them. -/
inductive Booking {F : Type} (s : Session F) : Session F → Prop
  | ran (world : World) (phase : CallPhase) (kept : phase.concluded = true → s.phase.concluded = true) :
      Booking s { s with world := world, phase := phase }
  | moved (i : Nat) (ev : Evaluation) (stage : Stage) (desk : Desk) (here : s.evaluations[i]? = some ev)
      (before : ev.stage.unfinished = true) (after : stage.unfinished = true)
      (ongoing : s.phase.concluded = false) : Booking s ((s.put desk).move i ev stage)
  | finished (i : Nat) (ev : Evaluation) (r : SingleVMResult F) (desk : Desk) (here : s.evaluations[i]? = some ev)
      (before : ev.stage.unfinished = true) (own : r.vmId = ev.vmId) (ongoing : s.phase.concluded = false) :
      Booking s ((s.put desk).finish i ev r)
  | collected (single : SingleVMResult F) (rest : List (SingleVMResult F)) (ready : s.done = single :: rest)
      (ongoing : s.phase.concluded = false) : Booking s (s.collect single rest)
  | concluded (task : Option Nat) (taken : s.done = []) (all : s.results.length = s.vmIds.length)
      (ongoing : s.phase.concluded = false) : Booking s (s.conclude task)

section Inversion
variable {F : Type} {ar : Arithmetic F} {site : Site} {s t : Session F} {i : Nat} {ev : Evaluation}

theorem getVm_own (vmId : String) (desk : Desk) : wp (getVm site vmId) desk
    (fun found _ => ∀ vm, found = some vm → vm.id = vmId) (fun _ _ => True) := by
  refine wp_then (fun _ _ => trivial) ?_
  intro items desk vm found
  simpa using List.find?_some found

/-- A result carries the id that was asked for. -/
theorem evaluateSingle_own (vmId : String) (includeMapping : Bool) (desk : Desk) :
    wp (evaluateSingle ar site vmId includeMapping) desk (fun r _ => r.vmId = vmId) (fun _ _ => True) := by
  rw [evaluateSingle, wp_bind]
  refine wp_mono (getVm_own vmId desk) ?_ (fun _ _ _ => trivial)
  intro found desk own
  cases found with
  | none => rfl
  | some vm =>
    refine wp_then (fun _ _ => trivial) ?_
    intro mapping desk
    refine wp_then (fun _ _ => trivial) ?_
    intro n desk
    exact own vm rfl

theorem attempt_cases (i : Nat) (ev : Evaluation) (start : Nat) :
    (∃ retryStart exc desk, s.attempt ar site i ev start = (s.put desk).move i ev (.retrying start retryStart exc)) ∨
      ∃ r desk, s.attempt ar site i ev start = (s.put desk).finish i ev r ∧ r.vmId = ev.vmId := by
  have own := @evaluateSingle_own F ar site ev.vmId s.includeMapping s.desk
  simp only [Session.attempt]
  cases ran : evaluateSingle ar site ev.vmId s.includeMapping s.desk with
  | ok r desk =>
    have same := wp_of_ok own ran
    exact .inr ⟨_, desk, rfl, same⟩
  | error exc desk =>
    simp only
    split
    · exact .inr ⟨_, desk, rfl, rfl⟩
    · exact .inl ⟨_, exc, desk, rfl⟩

theorem retry_finishes (i : Nat) (ev : Evaluation) (start retryStart : Nat) (exc : Exc) :
    ∃ r desk, s.retry ar site i ev start retryStart exc = (s.put desk).finish i ev r ∧ r.vmId = ev.vmId := by
  have own := @evaluateSingle_own F ar site ev.vmId s.includeMapping s.desk
  simp only [Session.retry]
  cases ran : evaluateSingle ar site ev.vmId s.includeMapping s.desk with
  | ok r desk =>
    have same := wp_of_ok own ran
    exact ⟨_, desk, rfl, same⟩
  | error again desk =>
    simp only
    split
    · exact ⟨_, desk, rfl, rfl⟩
    · exact ⟨_, desk, rfl, rfl⟩

/-- A coroutine comes nearer to its end, or returns a result for its id. -/
theorem coroutine_cases {event : Event} (next : s.coroutine ar site event i ev = some t) :
    ev.stage.unfinished = true ∧
      ((∃ stage desk, t = (s.put desk).move i ev stage ∧ stage.unfinished = true ∧
          (⟨ev.vmId, stage⟩ : Evaluation).work < ev.work) ∨
        ∃ r desk, t = (s.put desk).finish i ev r ∧ r.vmId = ev.vmId ∧ 1 < ev.work) := by
  unfold Session.coroutine at next
  split at next
  · rename_i stage
    split at next
    · cases next
      exact ⟨by rw [stage]; rfl, .inl ⟨_, s.desk, rfl, rfl, by simp [Evaluation.work, stage]⟩⟩
    · contradiction
  · rename_i start stage
    cases next
    refine ⟨by rw [stage]; rfl, ?_⟩
    obtain ⟨retryStart, exc, desk, moved⟩ | ⟨r, desk, finished, own⟩ := @attempt_cases F ar site s i ev start
    · exact .inl ⟨_, desk, moved, rfl, by simp [Evaluation.work, stage]⟩
    · exact .inr ⟨r, desk, finished, own, by simp [Evaluation.work, stage]⟩
  · rename_i start retryStart exc stage
    cases next
    obtain ⟨r, desk, finished, own⟩ := @retry_finishes F ar site s i ev start retryStart exc
    exact ⟨by rw [stage]; rfl, .inr ⟨r, desk, finished, own, by simp [Evaluation.work, stage]⟩⟩
  · rename_i stage
    cases next
    exact ⟨by rw [stage]; rfl, .inr ⟨_, s.desk, rfl, rfl, by simp [Evaluation.work, stage]⟩⟩
  · rename_i stage
    cases next
    exact ⟨by rw [stage]; rfl, .inr ⟨_, s.desk, rfl, rfl, by simp [Evaluation.work, stage]⟩⟩
  · contradiction

/-- The call itself waits for the operation task service, takes a result or closes the record. -/
theorem proceed_cases (next : s.proceed site = some t) :
    (∃ (α : Type) (m : M α) (after : α → CallPhase), t = s.await m after ∧ 0 < s.phase.work ∧
      ∀ a, (after a).work < s.phase.work ∧ ((after a).concluded = true → s.phase.concluded = true)) ∨
    ∃ task, s.phase = .collecting task ∧
      ((∃ single rest, s.done = single :: rest ∧ t = s.collect single rest) ∨
        (s.done = [] ∧ s.results.length = s.vmIds.length ∧ t = s.conclude task)) := by
  unfold Session.proceed at next
  split at next
  · rename_i phase
    cases next
    exact .inl ⟨_, _, _, rfl, by simp [phase, CallPhase.work],
      fun _ => ⟨by simp [phase, CallPhase.work], fun concluded => absurd concluded Bool.false_ne_true⟩⟩
  · rename_i phase
    cases next
    exact .inl ⟨_, _, _, rfl, by simp [phase, CallPhase.work],
      fun _ => ⟨by simp [phase, CallPhase.work], fun concluded => absurd concluded Bool.false_ne_true⟩⟩
  · rename_i task phase
    refine .inr ⟨task, phase, ?_⟩
    split at next
    · rename_i single rest ready
      cases next
      exact .inl ⟨single, rest, ready, rfl⟩
    · rename_i taken
      split at next
      · rename_i all
        cases next
        exact .inr ⟨taken, all, rfl⟩
      · contradiction
  · rename_i phase
    cases next
    exact .inl ⟨_, _, _, rfl, by simp [phase, CallPhase.work],
      fun _ => ⟨by simp [phase, CallPhase.work], fun _ => by rw [phase]; rfl⟩⟩
  · contradiction
  · contradiction

/-- A step of the session is one of the call, of the rest of the system or of a coroutine. -/
theorem step_cases {event : Event} (next : s.step ar site event = some t) :
    (event = .proceed ∧ s.proceed site = some t) ∨
    (∃ world, event = .elsewhere world ∧ t = { s with world := world }) ∨
    ∃ i ev task, (event = .acquire i ∨ event = .evaluate i ∨ event = .expire i) ∧
      s.phase = .collecting task ∧ s.evaluations[i]? = some ev ∧ s.coroutine ar site event i ev = some t := by
  unfold Session.step at next
  split at next
  · exact .inl ⟨rfl, next⟩
  · rename_i world
    cases next
    exact .inr (.inl ⟨world, rfl, rfl⟩)
  all_goals
    rename_i i
    split at next
    · rename_i task ev phase here
      exact .inr (.inr ⟨i, ev, task, by simp, phase, here, next⟩)
    · contradiction

theorem coroutine_booking {event : Event} (here : s.evaluations[i]? = some ev)
    (ongoing : s.phase.concluded = false) (next : s.coroutine ar site event i ev = some t) : Booking s t := by
  obtain ⟨before, moved | finished⟩ := coroutine_cases next
  · obtain ⟨stage, desk, rfl, after, _⟩ := moved
    exact .moved i ev stage desk here before after ongoing
  · obtain ⟨r, desk, rfl, own, _⟩ := finished
    exact .finished i ev r desk here before own ongoing

theorem await_booking {α : Type} (m : M α) (next : α → CallPhase)
    (kept : ∀ a, (next a).concluded = true → s.phase.concluded = true) : Booking s (s.await m next) := by
  unfold Session.await
  split
  · exact .ran _ _ (kept _)
  · exact .ran _ _ (fun concluded => absurd concluded Bool.false_ne_true)

theorem proceed_booking (next : s.proceed site = some t) : Booking s t := by
  obtain ⟨α, m, after, rfl, _, fits⟩ | ⟨task, phase, taken⟩ := proceed_cases next
  · exact await_booking m after (fun a => (fits a).2)
  · have ongoing : s.phase.concluded = false := by rw [phase]; rfl
    obtain ⟨single, rest, ready, rfl⟩ | ⟨none, all, rfl⟩ := taken
    · exact .collected single rest ready ongoing
    · exact .concluded task none all ongoing

theorem step_booking {event : Event} (next : s.step ar site event = some t) : Booking s t := by
  obtain ⟨_, next⟩ | ⟨world, _, rfl⟩ | ⟨i, ev, task, _, phase, here, next⟩ := step_cases next
  · exact proceed_booking next
  · exact .ran world s.phase id
  · exact coroutine_booking here (by rw [phase]; rfl) next

end Inversion

/- The coroutines that have not returned. -/
def Session.pending {F : Type} (s : Session F) : List Evaluation :=
  s.evaluations.filter Evaluation.unfinished

def SingleVMResult.isCompleted {F : Type} (r : SingleVMResult F) : Bool := decide (r.status = .completed)

/- The books of a session. Every id is in a result or pending, the counters count the results
that have been taken, and the record shows the counters. -/
structure Accounted {F : Type} (s : Session F) : Prop where
  conserved : ((s.results ++ s.done).map SingleVMResult.vmId ++ s.pending.map Evaluation.vmId).Perm s.vmIds
  completed : s.completed = s.results.countP SingleVMResult.isCompleted
  failed : s.failed = s.results.countP (fun r => !r.isCompleted)
  recorded : ∃ status, s.progress = some ⟨s.taskId, s.vmIds.length, s.completed, s.failed,
    s.vmIds.length - s.completed - s.failed, status⟩ ∧ (s.phase.concluded = true → status = s.finalStatus)
  stored : s.phase.concluded = true →
    s.results.length = s.vmIds.length ∧ s.service.getResults s.taskId = some s.results

section Accounting
variable {F : Type} {ar : Arithmetic F} {site : Site} {s t : Session F}

theorem accounted_start (service : ParallelAssessmentService F) (world : World) (vmIds : List String)
    (includeMapping : Bool) (maxConcurrency timeoutSeconds : Nat) :
    Accounted (assessParallel site service world vmIds includeMapping maxConcurrency timeoutSeconds) where
  conserved := by
    have all : vmIds.map (fun vmId => (⟨vmId, .waiting⟩ : Evaluation).vmId) = vmIds := List.map_id vmIds
    have pending : ((vmIds.map (fun vmId => (⟨vmId, .waiting⟩ : Evaluation))).filter
        Evaluation.unfinished).map Evaluation.vmId = vmIds := by
      rw [List.filter_eq_self.mpr (by simp [Evaluation.unfinished, Stage.unfinished]), List.map_map]
      exact all
    exact List.Perm.of_eq pending
  completed := rfl
  failed := rfl
  recorded := by
    refine ⟨.running, ?_, ?_⟩
    · simp [assessParallel, Session.progress, ParallelAssessmentService.getProgress]
    · cases present : service.operationTask <;> simp [assessParallel, present, CallPhase.concluded]
  stored := by
    cases present : service.operationTask <;> simp [assessParallel, present, CallPhase.concluded]

theorem Accounted.balanced (books : Accounted s) : s.completed + s.failed = s.results.length := by
  rw [books.completed, books.failed]
  have split := List.length_eq_countP_add_countP SingleVMResult.isCompleted (l := s.results)
  simpa using split.symm

theorem Accounted.ran (books : Accounted s) (world : World) {phase : CallPhase}
    (kept : phase.concluded = true → s.phase.concluded = true) :
    Accounted { s with world := world, phase := phase } where
  conserved := books.conserved
  completed := books.completed
  failed := books.failed
  recorded := by
    obtain ⟨status, shown, final⟩ := books.recorded
    exact ⟨status, shown, fun concluded => final (kept concluded)⟩
  stored concluded := books.stored (kept concluded)

theorem Accounted.moved (books : Accounted s) {i : Nat} {ev : Evaluation} {stage : Stage} (desk : Desk)
    (here : s.evaluations[i]? = some ev) (same : stage.unfinished = ev.stage.unfinished) :
    Accounted ((s.put desk).move i ev stage) where
  conserved := by
    have pending := Parties.map_filter_set_same (⟨ev.vmId, stage⟩ : Evaluation) Evaluation.unfinished
      Evaluation.vmId here same rfl
    exact (List.Perm.of_eq (congrArg _ pending)).trans books.conserved
  completed := books.completed
  failed := books.failed
  recorded := books.recorded
  stored := books.stored

theorem Accounted.finished (books : Accounted s) {i : Nat} {ev : Evaluation} {r : SingleVMResult F} (desk : Desk)
    (here : s.evaluations[i]? = some ev) (before : ev.stage.unfinished = true) (own : r.vmId = ev.vmId) :
    Accounted ((s.put desk).finish i ev r) where
  conserved := by
    have left := Parties.filter_set_perm (⟨ev.vmId, .finished⟩ : Evaluation) Evaluation.unfinished here before rfl
    have ids := left.map Evaluation.vmId
    have split : (((s.put desk).finish i ev r).results ++ ((s.put desk).finish i ev r).done).map SingleVMResult.vmId =
        (s.results ++ s.done).map SingleVMResult.vmId ++ [ev.vmId] := by
      simp [Session.finish, Session.move, Session.put, own]
    rw [split, List.append_assoc]
    exact (List.Perm.append_left _ ids).trans books.conserved
  completed := books.completed
  failed := books.failed
  recorded := books.recorded
  stored := books.stored

/- The session with another record of its task. -/
def Session.showing (s : Session F) (p : ParallelAssessmentProgress) : Session F :=
  { s with service := { s.service with tasks := s.service.tasks.insert s.taskId p } }

theorem record_eq {p : ParallelAssessmentProgress} (shown : s.progress = some p)
    (write : ParallelAssessmentProgress → ParallelAssessmentProgress) : s.record write = s.showing (write p) := by
  simp only [Session.record, shown]
  rfl

theorem progress_showing (s : Session F) (p : ParallelAssessmentProgress) : (s.showing p).progress = some p :=
  AList.lookup_insert s.service.tasks

theorem Accounted.collected (books : Accounted s) {single : SingleVMResult F} {rest : List (SingleVMResult F)}
    (ready : s.done = single :: rest) (ongoing : s.phase.concluded = false) : Accounted (s.collect single rest) := by
  obtain ⟨status, shown, _⟩ := books.recorded
  have before : (s.take single rest).progress = some _ := shown
  rw [Session.collect, record_eq before]
  constructor
  case conserved =>
    have taken : s.results ++ s.done = s.results ++ [single] ++ rest := by simp [ready]
    have conserved := books.conserved
    rw [taken] at conserved
    exact conserved
  case completed =>
    simp only [Session.showing, Session.take, List.countP_append, List.countP_singleton, books.completed]
    by_cases completed : single.status = .completed
    · simp [SingleVMResult.isCompleted, completed]
    · simp [SingleVMResult.isCompleted, completed]
  case failed =>
    simp only [Session.showing, Session.take, List.countP_append, List.countP_singleton, books.failed]
    by_cases completed : single.status = .completed
    · simp [SingleVMResult.isCompleted, completed]
    · simp [SingleVMResult.isCompleted, completed]
  case recorded =>
    refine ⟨status, ?_, ?_⟩
    · rw [progress_showing]
      rfl
    · intro concluded
      rw [show s.phase.concluded = true from concluded] at ongoing
      contradiction
  case stored =>
    intro concluded
    rw [show s.phase.concluded = true from concluded] at ongoing
    contradiction

theorem Accounted.concluded (books : Accounted s) (task : Option Nat)
    (all : s.results.length = s.vmIds.length) : Accounted (s.conclude task) := by
  obtain ⟨status, shown, _⟩ := books.recorded
  have nothing : (s.vmIds.length : Int) - s.completed - s.failed = 0 := by
    have balanced := books.balanced
    omega
  have before : (s.store task).progress = some _ := shown
  rw [Session.conclude, record_eq before]
  constructor
  case conserved => exact books.conserved
  case completed => exact books.completed
  case failed => exact books.failed
  case recorded =>
    refine ⟨s.finalStatus, ?_, fun _ => rfl⟩
    rw [progress_showing]
    simp only [Session.showing, Session.store, nothing]
  case stored =>
    intro _
    exact ⟨all, AList.lookup_insert s.service.results⟩

theorem Accounted.step (books : Accounted s) {event : Event} (next : s.step ar site event = some t) :
    Accounted t := by
  cases step_booking next with
  | ran world phase kept => exact books.ran world kept
  | moved i ev stage desk here before after ongoing => exact books.moved desk here (after.trans before.symm)
  | finished i ev r desk here before own ongoing => exact books.finished desk here before own
  | collected single rest ready ongoing => exact books.collected ready ongoing
  | concluded task taken all ongoing => exact books.concluded task all

/-- A list that is part of another one of the same length is all of it. -/
theorem perm_of_length {α : Type} {xs ys zs : List α} (parts : (xs ++ ys).Perm zs) (all : xs.length = zs.length) :
    xs.Perm zs := by
  have lengths := parts.length_eq
  rw [List.length_append] at lengths
  have empty : ys = [] := List.eq_nil_of_length_eq_zero (by omega)
  rwa [empty, List.append_nil] at parts

theorem Accounted.returned (books : Accounted s) (ended : s.phase = .returned) :
    ∃ p results, s.progress = some p ∧ s.service.getResults s.taskId = some results ∧ p.inProgress = 0 ∧
      (p.status = .completed ↔ p.failed = 0) ∧ (results.map SingleVMResult.vmId).Perm s.vmIds ∧
      p.completed = results.countP SingleVMResult.isCompleted := by
  have concluded : s.phase.concluded = true := by rw [ended]; rfl
  obtain ⟨status, shown, final⟩ := books.recorded
  obtain ⟨all, stored⟩ := books.stored concluded
  refine ⟨_, s.results, shown, stored, ?_, ?_, ?_, ?_⟩
  · have balanced := books.balanced
    simp only
    omega
  · simp only [final concluded, Session.finalStatus]
    by_cases none : s.failed = 0
    · simp [none]
    · simp [none]
  · have conserved := books.conserved
    rw [List.map_append, List.append_assoc] at conserved
    exact perm_of_length conserved (by simpa using all)
  · simp only [books.completed]

/- The arguments of the call and its task. -/
def Session.request (s : Session F) : List String × Bool × Nat × Nat × String :=
  (s.vmIds, s.includeMapping, s.maxConcurrency, s.timeoutSeconds, s.taskId)

theorem record_request (s : Session F) (write : ParallelAssessmentProgress → ParallelAssessmentProgress) :
    (s.record write).request = s.request := by
  unfold Session.record
  split <;> rfl

theorem Booking.request (booking : Booking s t) : t.request = s.request := by
  cases booking with
  | ran world phase kept => rfl
  | moved i ev stage desk here before after ongoing => rfl
  | finished i ev r desk here before own ongoing => rfl
  | collected single rest ready ongoing => exact record_request _ _
  | concluded task taken all ongoing => exact record_request _ _

/-- A state that the call reaches keeps its books, for the ids it was called with. -/
theorem run_accounted {service : ParallelAssessmentService F} {world : World} {vmIds : List String}
    {includeMapping : Bool} {maxConcurrency timeoutSeconds : Nat} {events : List Event}
    (run : Runs.exec (Session.step ar site)
      (assessParallel site service world vmIds includeMapping maxConcurrency timeoutSeconds) events = some s) :
    Accounted s ∧ s.vmIds = vmIds ∧ s.includeMapping = includeMapping ∧ s.maxConcurrency = maxConcurrency := by
  let start := assessParallel site service world vmIds includeMapping maxConcurrency timeoutSeconds
  have kept : Accounted s ∧ s.request = start.request := by
    refine Runs.invariant (Session.step ar site) (I := fun s => Accounted s ∧ s.request = start.request) ?_
      ⟨accounted_start service world vmIds includeMapping maxConcurrency timeoutSeconds, rfl⟩ run
    rintro s event t ⟨books, same⟩ next
    exact ⟨books.step next, (step_booking next).request.trans same⟩
  have ids := congrArg Prod.fst kept.2
  have mapped := congrArg (fun request => request.2.1) kept.2
  have limit := congrArg (fun request => request.2.2.1) kept.2
  exact ⟨kept.1, ids, mapped, limit⟩

/-- However the evaluations end and in whatever order, the record of the task adds up in every
state of the call, and a call that returns has one result for each id it was given. -/
theorem parallel_assessment_accounts {service : ParallelAssessmentService F} {world : World}
    {vmIds : List String} {includeMapping : Bool} {maxConcurrency timeoutSeconds : Nat} {events : List Event}
    (run : Runs.exec (Session.step ar site)
      (assessParallel site service world vmIds includeMapping maxConcurrency timeoutSeconds) events = some s) :
    (∃ p, s.progress = some p ∧ p.totalVms = vmIds.length ∧ p.completed + p.failed + p.inProgress = p.totalVms) ∧
    (s.phase = .returned → ∃ p results, s.progress = some p ∧ s.service.getResults s.taskId = some results ∧
      p.inProgress = 0 ∧ (p.status = .completed ↔ p.failed = 0) ∧
      (results.map SingleVMResult.vmId).Perm vmIds ∧ p.completed = results.countP SingleVMResult.isCompleted) := by
  obtain ⟨books, ids, _, _⟩ := run_accounted run
  constructor
  · obtain ⟨status, shown, _⟩ := books.recorded
    refine ⟨_, shown, by rw [ids], ?_⟩
    simp only
    omega
  · intro ended
    have final := books.returned ended
    rwa [ids] at final

end Accounting

/- One VM in vCenter, one flavor and one network in OpenStack. -/
def webMachine : VirtualMachine :=
  { machineWith (diskOf 41943040) with moId := .value "vm-1", name := .value "web01" }

def siteFlavors : Reply where
  value := .list [.dict [("id", .str "f-1"), ("name", .str "m1.small"), ("vcpus", .int 1), ("ram", .int 2048),
    ("disk", .int 40)]]

def siteNetworks : Reply where
  value := .list [.dict [("id", .str "n-1"), ("name", .str "provider")]]

def smallSite : Site where
  env := {
    ready := true, listLimit := 1000, connect := fun _ => none
    sdk := fun _ request =>
      if request.operation = "flavors" then { result := .ok siteFlavors } else { result := .ok siteNetworks }
    wall := id, lag := fun _ => 0, redisUp := fun _ => true, databaseUp := fun _ => true
    uuid := fun n => "uuid-" ++ toString n }
  vcenter := fun _ => .ok [webMachine]
  lower := id
  strftime := toString
  isoformat := toString

/- A VM that is there, one that is not, and the first one again, whose evaluation expires. They
complete in the order 1, 2, 0, and only one at a time is evaluated. -/
def expiringRun : List Event :=
  [.proceed, .proceed, .acquire 1, .evaluate 1, .acquire 2, .expire 2, .proceed, .acquire 0, .evaluate 0, .proceed,
    .proceed, .proceed, .proceed]

def expiringCall : Session ℚ :=
  assessParallel smallSite getParallelAssessmentService .initial ["vm-1", "vm-9", "vm-1"] true 1 300

theorem expiring_call_accounts :
    ∃ s p results, Runs.exec (Session.step .rational smallSite) expiringCall expiringRun = some s ∧
      s.progress = some p ∧ s.service.getResults s.taskId = some results ∧ p.inProgress = 0 ∧
      (p.status = .completed ↔ p.failed = 0) ∧
      (results.map SingleVMResult.vmId).Perm ["vm-1", "vm-9", "vm-1"] := by
  have ends : (Runs.exec (Session.step .rational smallSite) expiringCall expiringRun).map Session.phase =
      some .returned := by decide +kernel
  obtain ⟨s, run, ended⟩ := Option.map_eq_some_iff.mp ends
  obtain ⟨p, results, shown, stored, none, status, ids, _⟩ := (parallel_assessment_accounts run).2 ended
  exact ⟨s, p, results, run, shown, stored, none, status, ids⟩

section Liveness
variable {F : Type} {ar : Arithmetic F} {site : Site} {s t : Session F} {i : Nat} {ev : Evaluation}

def CallPhase.ended : CallPhase → Bool
  | .returned | .raised _ => true
  | _ => false

/-- A coroutine that is past the semaphore can always go on. -/
theorem holding_enabled {task : Option Nat} (phase : s.phase = .collecting task)
    (here : s.evaluations[i]? = some ev) (holds : ev.stage.holds = true) :
    (s.step ar site (.evaluate i)).isSome = true := by
  cases stage : ev.stage with
  | waiting => simp [stage, Stage.holds] at holds
  | finished => simp [stage, Stage.holds] at holds
  | attempting start => simp [Session.step, phase, here, Session.coroutine, stage]
  | retrying start retryStart exc => simp [Session.step, phase, here, Session.coroutine, stage]

theorem held_enabled {task : Option Nat} (phase : s.phase = .collecting task) (some_held : 0 < s.held) :
    ∃ i, (s.step ar site (.evaluate i)).isSome = true := by
  obtain ⟨ev, member, holds⟩ := List.countP_pos_iff.mp some_held
  obtain ⟨i, here⟩ := List.mem_iff_getElem?.mp member
  exact ⟨i, holding_enabled phase here holds⟩

theorem pending_enabled {task : Option Nat} (phase : s.phase = .collecting task)
    (open_gate : 1 ≤ s.maxConcurrency) (waits : s.pending ≠ []) :
    ∃ i, (s.step ar site (.evaluate i)).isSome = true ∨ (s.step ar site (.acquire i)).isSome = true := by
  obtain ⟨ev, rest, first⟩ := List.exists_cons_of_ne_nil waits
  have member : ev ∈ s.evaluations ∧ ev.unfinished = true := by
    apply List.mem_filter.mp
    have listed : ev ∈ s.pending := by simp [first]
    exact listed
  obtain ⟨i, here⟩ := List.mem_iff_getElem?.mp member.1
  by_cases holds : ev.stage.holds = true
  · exact ⟨i, .inl (holding_enabled phase here holds)⟩
  · by_cases room : s.held < s.maxConcurrency
    · have waiting : ev.stage = .waiting := by
        have unfinished := member.2
        cases stage : ev.stage with
        | waiting => rfl
        | finished => simp [Evaluation.unfinished, stage, Stage.unfinished] at unfinished
        | attempting start => simp [stage, Stage.holds] at holds
        | retrying start retryStart exc => simp [stage, Stage.holds] at holds
      refine ⟨i, .inr ?_⟩
      simp [Session.step, phase, here, Session.coroutine, waiting, room]
    · obtain ⟨j, enabled⟩ := @held_enabled F ar site s task phase (by omega)
      exact ⟨j, .inl enabled⟩

/-- Until the call has ended, the loop or one of the coroutines can go on. -/
theorem Accounted.enabled (books : Accounted s) (open_gate : 1 ≤ s.maxConcurrency)
    (ongoing : s.phase.ended = false) :
    ∃ event, (∀ world, event ≠ .elsewhere world) ∧ (s.step ar site event).isSome = true := by
  cases phase : s.phase with
  | creating => exact ⟨.proceed, nofun, by simp [Session.step, Session.proceed, phase]⟩
  | opening task => exact ⟨.proceed, nofun, by simp [Session.step, Session.proceed, phase]⟩
  | closing task => exact ⟨.proceed, nofun, by simp [Session.step, Session.proceed, phase]⟩
  | returned => simp [phase, CallPhase.ended] at ongoing
  | raised exc => simp [phase, CallPhase.ended] at ongoing
  | collecting task =>
    cases ready : s.done with
    | cons single rest => exact ⟨.proceed, nofun, by simp [Session.step, Session.proceed, phase, ready]⟩
    | nil =>
      by_cases all : s.results.length = s.vmIds.length
      · exact ⟨.proceed, nofun, by simp [Session.step, Session.proceed, phase, ready, all]⟩
      · have waits : s.pending ≠ [] := by
          intro none
          have lengths := books.conserved.length_eq
          simp only [ready, none, List.append_nil, List.map_nil, List.length_map] at lengths
          exact all lengths
        obtain ⟨i, enabled | enabled⟩ := @pending_enabled F ar site s task phase open_gate waits
        · exact ⟨.evaluate i, nofun, enabled⟩
        · exact ⟨.acquire i, nofun, enabled⟩

/- How much the whole session has left to do. -/
def Session.work (s : Session F) : Nat :=
  s.phase.work + s.done.length + (s.evaluations.map Evaluation.work).sum

theorem work_set {evaluations : List Evaluation} (here : evaluations[i]? = some ev) (after : Evaluation) :
    ((evaluations.set i after).map Evaluation.work).sum + ev.work =
      (evaluations.map Evaluation.work).sum + after.work := by
  induction evaluations generalizing i with
  | nil => contradiction
  | cons first rest ih =>
    cases i with
    | zero =>
      cases here
      simp only [List.set_cons_zero, List.map_cons, List.sum_cons]
      omega
    | succ i =>
      have tail := ih (i := i) here
      simp only [List.set_cons_succ, List.map_cons, List.sum_cons]
      omega

theorem move_work (here : s.evaluations[i]? = some ev) (desk : Desk) {stage : Stage}
    (less : (⟨ev.vmId, stage⟩ : Evaluation).work < ev.work) : ((s.put desk).move i ev stage).work < s.work := by
  have moved := work_set here ⟨ev.vmId, stage⟩
  simp only [Session.work, Session.move, Session.put]
  omega

theorem finish_work (here : s.evaluations[i]? = some ev) (desk : Desk) (r : SingleVMResult F)
    (much : 1 < ev.work) : ((s.put desk).finish i ev r).work < s.work := by
  have moved := work_set here ⟨ev.vmId, .finished⟩
  have none : (⟨ev.vmId, .finished⟩ : Evaluation).work = 0 := rfl
  simp only [Session.work, Session.finish, Session.move, Session.put, List.length_append, List.length_singleton]
  omega

theorem coroutine_work {event : Event} (here : s.evaluations[i]? = some ev)
    (next : s.coroutine ar site event i ev = some t) : t.work < s.work := by
  obtain ⟨_, ⟨stage, desk, rfl, _, less⟩ | ⟨r, desk, rfl, _, much⟩⟩ := coroutine_cases next
  · exact move_work here desk less
  · exact finish_work here desk r much

theorem record_work (s : Session F) (write : ParallelAssessmentProgress → ParallelAssessmentProgress) :
    (s.record write).work ≤ s.work := by
  unfold Session.record
  split
  · simp [Session.work, CallPhase.work]
  · exact Nat.le_refl _

theorem await_work {α : Type} (m : M α) {next : α → CallPhase} (ongoing : 0 < s.phase.work)
    (less : ∀ a, (next a).work < s.phase.work) : (s.await m next).work < s.work := by
  unfold Session.await
  split
  · rename_i a w ran
    have phase := less a
    simp only [Session.work]
    omega
  · simp only [Session.work]
    have nothing (exc : Exc) : (CallPhase.raised exc).work = 0 := rfl
    rw [nothing]
    omega

theorem proceed_work (next : s.proceed site = some t) : t.work < s.work := by
  obtain ⟨α, m, after, rfl, ongoing, fits⟩ | ⟨task, phase, taken⟩ := proceed_cases next
  · exact await_work m ongoing (fun a => (fits a).1)
  · obtain ⟨single, rest, ready, rfl⟩ | ⟨_, _, rfl⟩ := taken
    · have taken : (s.take single rest).work < s.work := by
        simp only [Session.work, Session.take, ready, List.length_cons]
        omega
      exact Nat.lt_of_le_of_lt (record_work _ _) taken
    · have stored : (s.store task).work < s.work := by
        cases task <;> simp [Session.work, Session.store, phase, CallPhase.work]
      exact Nat.lt_of_le_of_lt (record_work _ _) stored

theorem step_work {event : Event} (own : ∀ world, event ≠ .elsewhere world)
    (next : s.step ar site event = some t) : t.work < s.work := by
  obtain ⟨_, next⟩ | ⟨world, elsewhere, _⟩ | ⟨i, ev, task, _, _, here, next⟩ := step_cases next
  · exact proceed_work next
  · exact absurd elsewhere (own world)
  · exact coroutine_work here next

/-- From every state it reaches, the call can go on until it returns or an operation-task call
raises: the semaphore blocks no coroutine for good. -/
theorem parallel_assessment_ends {service : ParallelAssessmentService F} {world : World}
    {vmIds : List String} {includeMapping : Bool} {maxConcurrency timeoutSeconds : Nat} {events : List Event}
    (open_gate : 1 ≤ maxConcurrency)
    (run : Runs.exec (Session.step ar site)
      (assessParallel site service world vmIds includeMapping maxConcurrency timeoutSeconds) events = some s) :
    ∃ more t, Runs.exec (Session.step ar site) s more = some t ∧ t.phase.ended = true := by
  induction left : s.work using Nat.strong_induction_on generalizing s events with
  | _ work ih =>
  by_cases ended : s.phase.ended = true
  · exact ⟨[], s, rfl, ended⟩
  · obtain ⟨books, _, _, limit⟩ := run_accounted run
    obtain ⟨event, own, enabled⟩ := @Accounted.enabled F ar site s books (by omega) (by simpa using ended)
    obtain ⟨t, next⟩ := Option.isSome_iff_exists.mp enabled
    have less := step_work own next
    have longer : Runs.exec (Session.step ar site)
        (assessParallel site service world vmIds includeMapping maxConcurrency timeoutSeconds)
        (events ++ [event]) = some t := by
      refine (Runs.exec_append _).mpr ⟨s, run, ?_⟩
      exact (Runs.exec_cons _).mpr ⟨t, next, rfl⟩
    obtain ⟨more, u, rest, done⟩ := ih t.work (by omega) longer rfl
    exact ⟨event :: more, u, (Runs.exec_cons _).mpr ⟨t, next, rest⟩, done⟩

end Liveness

/-- The only slot is taken and two coroutines wait for it. -/
theorem crowded_call_ends : ∃ s more t,
    Runs.exec (Session.step .rational smallSite) expiringCall [.proceed, .proceed, .acquire 1] = some s ∧
      Runs.exec (Session.step .rational smallSite) s more = some t ∧ t.phase.ended = true := by
  have reached : (Runs.exec (Session.step .rational smallSite) expiringCall [.proceed, .proceed, .acquire 1]).isSome = true := by
    decide +kernel
  obtain ⟨s, run⟩ := Option.isSome_iff_exists.mp reached
  obtain ⟨more, t, rest, ended⟩ := parallel_assessment_ends (by decide) run
  exact ⟨s, more, t, run, rest, ended⟩

end VMachine.VMware
