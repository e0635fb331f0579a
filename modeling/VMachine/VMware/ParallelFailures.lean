import VMachine.VMware.ParallelAccounts

/-! What a parallel assessment makes of failures: of an evaluation that raises or is given up, and
of an exception that ends the call itself. -/
namespace VMachine.VMware
open Py Effects OpenStack

/- How an evaluation under `asyncio.wait_for` ends. It returns a result, which never is a timeout,
it raises an exception of its own, or it is given up after `timeout_seconds`. -/
inductive Attempt (F : Type) where
  | returned (r : SingleVMResult F) (evaluated : r.status ≠ .timeout)
  | raised (exc : Exc)
  | expired

/- What the caller sees of it: an expiry is an exception like any other. -/
def Attempt.outcome {F : Type} : Attempt F → Except Exc (SingleVMResult F)
  | .returned r _ => .ok r
  | .raised exc => .error exc
  | .expired => .error (.timeoutError "")

section Attempts
variable {F : Type} (ar : Arithmetic F)

/- `_evaluate_one` inside the semaphore: its result, and the attempts it has awaited. The clock is
read before, between and after the two attempts. -/
def evaluateOne (vmId : String) (timeoutSeconds start middle last : Nat) (first second : Attempt F) :
    SingleVMResult F × List (Attempt F) :=
  match first.outcome with
  | .ok r => ({ r with durationMs := elapsedMs ar start middle }, [first])
  | .error exc =>
    if isTimeout exc then (timedOut ar vmId timeoutSeconds "", [first])
    else
      match second.outcome with
      | .ok r => ({ r with durationMs := elapsedMs ar middle last }, [first, second])
      | .error again =>
        if isTimeout again then (timedOut ar vmId timeoutSeconds " (retry)", [first, second])
        else
          ({ vmId := vmId, vmName := "", status := .failed, errorMessage := some exc.message
             durationMs := elapsedMs ar start last }, [first, second])

/- A timeout is reported only where an attempt that was made has expired; an exception of the first
attempt leads to exactly one more; and what the second one returns is the result. -/
structure OnlyExpiryTimesOut (first second : Attempt F) (ended : SingleVMResult F × List (Attempt F)) : Prop where
  expiry : ended.1.status = .timeout → .expired ∈ ended.2
  retried : ∀ exc, first = .raised exc → ended.2 = [first, second]
  reported : ∀ exc r evaluated, first = .raised exc → second = .returned r evaluated →
    ∃ duration, ended.1 = { r with durationMs := duration }

section Outcomes
variable {ar} (vmId : String) (timeoutSeconds start middle last : Nat) {first second : Attempt F} {r : SingleVMResult F}
  {exc again : Exc}

theorem isTimeout_expired : isTimeout (.timeoutError "") = true := by simp [isTimeout, Exc.type]

theorem evaluateOne_returned (returned : first.outcome = .ok r) :
    evaluateOne ar vmId timeoutSeconds start middle last first second =
      ({ r with durationMs := elapsedMs ar start middle }, [first]) := by
  simp only [evaluateOne, returned]

theorem evaluateOne_timeout (raised : first.outcome = .error exc) (timeout : isTimeout exc = true) :
    evaluateOne ar vmId timeoutSeconds start middle last first second =
      (timedOut ar vmId timeoutSeconds "", [first]) := by
  simp only [evaluateOne, raised, timeout, if_true]

section Retry
variable (raised : first.outcome = .error exc) (other : isTimeout exc = false)
include raised other

theorem evaluateOne_retry_returned (returned : second.outcome = .ok r) :
    evaluateOne ar vmId timeoutSeconds start middle last first second =
      ({ r with durationMs := elapsedMs ar middle last }, [first, second]) := by
  simp only [evaluateOne, raised, other, Bool.false_eq_true, if_false, returned]

theorem evaluateOne_retry_timeout (failed : second.outcome = .error again) (timeout : isTimeout again = true) :
    evaluateOne ar vmId timeoutSeconds start middle last first second =
      (timedOut ar vmId timeoutSeconds " (retry)", [first, second]) := by
  simp only [evaluateOne, raised, other, Bool.false_eq_true, if_false, failed, timeout, if_true]

theorem evaluateOne_retry_failed (failed : second.outcome = .error again) (again_other : isTimeout again = false) :
    evaluateOne ar vmId timeoutSeconds start middle last first second =
      ({ vmId := vmId, vmName := "", status := .failed, errorMessage := some exc.message
         durationMs := elapsedMs ar start last }, [first, second]) := by
  simp only [evaluateOne, raised, other, Bool.false_eq_true, if_false, failed, again_other]

end Retry

end Outcomes

/-- After an exception that is no timeout, everything hangs on the second attempt. -/
theorem retry_times_out_iff (vmId : String) (timeoutSeconds start middle last : Nat) {exc : Exc}
    (other : isTimeout exc = false) (second : Attempt F) :
    OnlyExpiryTimesOut (.raised exc) second (evaluateOne ar vmId timeoutSeconds start middle last (.raised exc) second) ↔
      ∀ again, second = .raised again → isTimeout again = false := by
  cases second with
  | returned r evaluated =>
    have ended := @evaluateOne_retry_returned F ar vmId timeoutSeconds start middle last (.raised exc)
      (.returned r evaluated) r exc rfl other rfl
    rw [ended]
    refine iff_of_true ⟨fun shown => absurd shown evaluated, fun _ _ => rfl, ?_⟩ (fun _ same => nomatch same)
    rintro _ _ _ _ same
    cases same
    exact ⟨_, rfl⟩
  | expired =>
    rw [evaluateOne_retry_timeout vmId timeoutSeconds start middle last rfl other rfl isTimeout_expired]
    exact iff_of_true ⟨fun _ => by simp, fun _ _ => rfl, fun _ _ _ _ same => nomatch same⟩ (fun _ same => nomatch same)
  | raised again =>
    by_cases timeout : isTimeout again = true
    · rw [evaluateOne_retry_timeout vmId timeoutSeconds start middle last rfl other rfl timeout]
      refine iff_of_false (fun genuine => ?_) (fun none => ?_)
      · have expired := genuine.expiry rfl
        simp at expired
      · rw [none again rfl] at timeout
        contradiction
    · have fails : isTimeout again = false := by simpa using timeout
      rw [evaluateOne_retry_failed vmId timeoutSeconds start middle last rfl other rfl fails]
      refine iff_of_true ⟨fun shown => (nomatch shown), fun _ _ => rfl, fun _ _ _ _ same => nomatch same⟩ ?_
      rintro _ same
      cases same
      exact fails

theorem evaluateOne_times_out_iff (vmId : String) (timeoutSeconds start middle last : Nat) (first second : Attempt F) :
    OnlyExpiryTimesOut first second (evaluateOne ar vmId timeoutSeconds start middle last first second) ↔
      ∀ exc, first = .raised exc → isTimeout exc = false ∧ ∀ again, second = .raised again → isTimeout again = false := by
  cases first with
  | returned r evaluated =>
    rw [evaluateOne_returned vmId timeoutSeconds start middle last rfl]
    refine iff_of_true ⟨fun timeout => absurd timeout evaluated, ?_, ?_⟩ ?_
    · exact fun _ same => nomatch same
    · exact fun _ _ _ same => nomatch same
    · exact fun _ same => nomatch same
  | expired =>
    rw [evaluateOne_timeout vmId timeoutSeconds start middle last rfl isTimeout_expired]
    refine iff_of_true ⟨fun _ => List.mem_singleton_self _, ?_, ?_⟩ ?_
    · exact fun _ same => nomatch same
    · exact fun _ _ _ same => nomatch same
    · exact fun _ same => nomatch same
  | raised exc =>
    by_cases timeout : isTimeout exc = true
    · -- The exception is taken for an expiry, and there is no second attempt.
      rw [evaluateOne_timeout vmId timeoutSeconds start middle last rfl timeout]
      refine iff_of_false (fun genuine => ?_) (fun none => ?_)
      · have both := genuine.retried exc rfl
        simp at both
      · rw [(none exc rfl).1] at timeout
        contradiction
    · have other : isTimeout exc = false := by simpa using timeout
      rw [retry_times_out_iff ar vmId timeoutSeconds start middle last other]
      constructor
      · rintro fine _ same
        cases same
        exact ⟨other, fine⟩
      · intro fine
        exact (fine exc rfl).2

end Attempts

section Coroutines
variable {F : Type} {ar : Arithmetic F} {site : Site} {s t : Session F} {i : Nat} {ev : Evaluation} {event : Event}

theorem evaluateSingle_evaluated (vmId : String) (includeMapping : Bool) (desk : Desk) :
    wp (evaluateSingle ar site vmId includeMapping) desk (fun r _ => r.status ≠ .timeout) (fun _ _ => True) := by
  refine wp_then (fun _ _ => trivial) ?_
  intro found desk
  cases found with
  | none =>
    intro same
    contradiction
  | some vm =>
    refine wp_then (fun _ _ => trivial) ?_
    intro mapping desk
    refine wp_then (fun _ _ => trivial) ?_
    intro n desk same
    contradiction

/- How the attempt ends that an event lets go on, and where it leaves the desk. -/
inductive Session.Ends (ar : Arithmetic F) (site : Site) (s : Session F) (ev : Evaluation) :
    Event → Attempt F → Desk → Prop
  | returned {i : Nat} {r : SingleVMResult F} {desk : Desk} (evaluated : r.status ≠ .timeout)
      (ran : evaluateSingle ar site ev.vmId s.includeMapping s.desk = .ok r desk) :
      Ends ar site s ev (.evaluate i) (.returned r evaluated) desk
  | raised {i : Nat} {exc : Exc} {desk : Desk}
      (ran : evaluateSingle ar site ev.vmId s.includeMapping s.desk = .error exc desk) :
      Ends ar site s ev (.evaluate i) (.raised exc) desk
  | expired {i : Nat} : Ends ar site s ev (.expire i) .expired s.desk

/-- A coroutine in its first attempt returns what `_evaluate_one` does after that attempt alone, or
goes on to the second one. -/
theorem attempt_ends {start : Nat} (stage : ev.stage = .attempting start)
    (next : s.coroutine ar site event i ev = some t) :
    ∃ first desk, s.Ends ar site ev event first desk ∧
      ((∃ exc, first = .raised exc ∧ isTimeout exc = false ∧
          t = (s.put desk).move i ev (.retrying start desk.world.now exc)) ∨
        ∀ last second, (evaluateOne ar ev.vmId s.timeoutSeconds start desk.world.now last first second).2 = [first] ∧
          t = (s.put desk).finish i ev
            (evaluateOne ar ev.vmId s.timeoutSeconds start desk.world.now last first second).1) := by
  cases event with
  | proceed => simp [Session.coroutine] at next
  | elsewhere world => simp [Session.coroutine] at next
  | acquire j => simp [Session.coroutine, stage] at next
  | expire j =>
    simp only [Session.coroutine, stage, Option.some.injEq] at next
    refine ⟨.expired, s.desk, .expired, .inr (fun last second => ?_)⟩
    rw [evaluateOne_timeout ev.vmId s.timeoutSeconds start s.desk.world.now last rfl isTimeout_expired]
    exact ⟨rfl, next.symm⟩
  | evaluate j =>
    simp only [Session.coroutine, stage, Option.some.injEq, Session.attempt] at next
    cases ran : evaluateSingle ar site ev.vmId s.includeMapping s.desk with
    | ok r desk =>
      rw [ran] at next
      have evaluated := wp_of_ok (evaluateSingle_evaluated ev.vmId s.includeMapping s.desk) ran
      refine ⟨.returned r evaluated, desk, .returned evaluated ran, .inr (fun last second => ?_)⟩
      have ended := @evaluateOne_returned F ar ev.vmId s.timeoutSeconds start desk.world.now last
        (.returned r evaluated) second r rfl
      rw [ended]
      exact ⟨rfl, next.symm⟩
    | error exc desk =>
      simp only [ran] at next
      refine ⟨.raised exc, desk, .raised ran, ?_⟩
      split at next
      · rename_i timeout
        refine .inr (fun last second => ?_)
        rw [evaluateOne_timeout ev.vmId s.timeoutSeconds start desk.world.now last rfl timeout]
        exact ⟨rfl, next.symm⟩
      · rename_i other
        exact .inl ⟨exc, rfl, by simpa using other, next.symm⟩

/-- A coroutine in its second attempt returns what `_evaluate_one` does after both. -/
theorem retry_ends {start middle : Nat} {exc : Exc} (stage : ev.stage = .retrying start middle exc)
    (other : isTimeout exc = false) (next : s.coroutine ar site event i ev = some t) :
    ∃ second desk, s.Ends ar site ev event second desk ∧
      t = (s.put desk).finish i ev
        (evaluateOne ar ev.vmId s.timeoutSeconds start middle desk.world.now (.raised exc) second).1 := by
  cases event with
  | proceed => simp [Session.coroutine] at next
  | elsewhere world => simp [Session.coroutine] at next
  | acquire j => simp [Session.coroutine, stage] at next
  | expire j =>
    simp only [Session.coroutine, stage, Option.some.injEq] at next
    refine ⟨.expired, s.desk, .expired, ?_⟩
    rw [evaluateOne_retry_timeout ev.vmId s.timeoutSeconds start middle s.desk.world.now rfl other rfl isTimeout_expired]
    exact next.symm
  | evaluate j =>
    simp only [Session.coroutine, stage, Option.some.injEq, Session.retry] at next
    cases ran : evaluateSingle ar site ev.vmId s.includeMapping s.desk with
    | ok r desk =>
      rw [ran] at next
      have evaluated := wp_of_ok (evaluateSingle_evaluated ev.vmId s.includeMapping s.desk) ran
      refine ⟨.returned r evaluated, desk, .returned evaluated ran, ?_⟩
      have ended := @evaluateOne_retry_returned F ar ev.vmId s.timeoutSeconds start middle desk.world.now (.raised exc)
        (.returned r evaluated) r exc rfl other rfl
      rw [ended]
      exact next.symm
    | error again desk =>
      simp only [ran] at next
      refine ⟨.raised again, desk, .raised ran, ?_⟩
      split at next
      · rename_i timeout
        rw [evaluateOne_retry_timeout ev.vmId s.timeoutSeconds start middle desk.world.now rfl other rfl timeout]
        exact next.symm
      · rename_i fails
        rw [evaluateOne_retry_failed ev.vmId s.timeoutSeconds start middle desk.world.now rfl other rfl (by simpa using fails)]
        exact next.symm

/- Every result of the session is one of `_evaluate_one`, and what is being retried did not raise a
timeout before. -/
structure Evaluated (ar : Arithmetic F) (s : Session F) : Prop where
  owned : ∀ ev ∈ s.evaluations, ev.vmId ∈ s.vmIds
  retrying : ∀ ev ∈ s.evaluations, ∀ start middle exc, ev.stage = .retrying start middle exc → isTimeout exc = false
  results : ∀ r ∈ s.results ++ s.done, ∃ vmId ∈ s.vmIds, ∃ start middle last first second,
    r = (evaluateOne ar vmId s.timeoutSeconds start middle last first second).1

theorem evaluated_start (service : ParallelAssessmentService F) (world : World) (vmIds : List String)
    (includeMapping : Bool) (maxConcurrency timeoutSeconds : Nat) :
    Evaluated ar (assessParallel site service world vmIds includeMapping maxConcurrency timeoutSeconds) where
  owned := by simp [assessParallel]
  retrying := by simp [assessParallel]
  results := by simp [assessParallel]

theorem Evaluated.moved (ok : Evaluated ar s) (here : s.evaluations[i]? = some ev) (desk : Desk) {stage : Stage}
    (fresh : ∀ start middle exc, stage = .retrying start middle exc → isTimeout exc = false) :
    Evaluated ar ((s.put desk).move i ev stage) where
  owned := by
    intro other member
    obtain old | rfl := List.mem_or_eq_of_mem_set member
    · exact ok.owned other old
    · exact ok.owned ev (List.mem_of_getElem? here)
  retrying := by
    intro other member
    obtain old | rfl := List.mem_or_eq_of_mem_set member
    · exact ok.retrying other old
    · exact fresh
  results := ok.results

theorem Evaluated.finished (ok : Evaluated ar s) (here : s.evaluations[i]? = some ev) (desk : Desk)
    (start middle last : Nat) (first second : Attempt F) :
    Evaluated ar ((s.put desk).finish i ev
      (evaluateOne ar ev.vmId s.timeoutSeconds start middle last first second).1) := by
  have moved : Evaluated ar ((s.put desk).move i ev .finished) := ok.moved here desk nofun
  refine ⟨moved.owned, moved.retrying, ?_⟩
  intro r member
  rw [Session.finish, ← List.append_assoc] at member
  obtain old | new := List.mem_append.mp member
  · exact ok.results r old
  · rw [List.mem_singleton.mp new]
    exact ⟨ev.vmId, ok.owned ev (List.mem_of_getElem? here), start, middle, last, first, second, rfl⟩

theorem Evaluated.coroutine (ok : Evaluated ar s) (here : s.evaluations[i]? = some ev)
    (next : s.coroutine ar site event i ev = some t) : Evaluated ar t := by
  have member := List.mem_of_getElem? here
  cases stage : ev.stage with
  | waiting =>
    cases event with
    | acquire j =>
      simp only [Session.coroutine, stage] at next
      split at next
      · cases next
        refine ok.moved here s.desk ?_
        rintro _ _ _ same
        contradiction
      · contradiction
    | _ => simp [Session.coroutine, stage] at next
  | attempting start =>
    obtain ⟨first, desk, _, ⟨exc, _, other, rfl⟩ | ended⟩ := attempt_ends stage next
    · refine ok.moved here desk ?_
      rintro _ _ _ same
      cases same
      exact other
    · rw [(ended 0 first).2]
      exact ok.finished here desk start desk.world.now 0 first first
  | retrying start middle exc =>
    obtain ⟨second, desk, _, rfl⟩ := retry_ends stage (ok.retrying ev member start middle exc stage) next
    exact ok.finished here desk start middle desk.world.now (.raised exc) second
  | finished =>
    cases event with
    | _ => simp [Session.coroutine, stage] at next

theorem Evaluated.recorded (ok : Evaluated ar s) (write : ParallelAssessmentProgress → ParallelAssessmentProgress) :
    Evaluated ar (s.record write) := by
  unfold Session.record
  split
  · exact ⟨ok.owned, ok.retrying, ok.results⟩
  · exact ⟨ok.owned, ok.retrying, ok.results⟩

theorem Evaluated.step (ok : Evaluated ar s) (next : s.step ar site event = some t) : Evaluated ar t := by
  obtain ⟨_, next⟩ | ⟨world, _, rfl⟩ | ⟨i, ev, task, _, _, here, next⟩ := step_cases next
  · obtain ⟨α, m, after, rfl, _, _⟩ | ⟨task, _, ⟨single, rest, ready, rfl⟩ | ⟨_, _, rfl⟩⟩ := proceed_cases next
    · unfold Session.await
      split
      · exact ⟨ok.owned, ok.retrying, ok.results⟩
      · exact ⟨ok.owned, ok.retrying, ok.results⟩
    · have taken : Evaluated ar (s.take single rest) := by
        refine ⟨ok.owned, ok.retrying, fun r member => ok.results r ?_⟩
        rw [ready]
        simpa [Session.take] using member
      exact taken.recorded _
    · have stored : Evaluated ar (s.store task) := ⟨ok.owned, ok.retrying, ok.results⟩
      exact stored.recorded _
  · exact ⟨ok.owned, ok.retrying, ok.results⟩
  · exact ok.coroutine here next

/-- Every result of a parallel assessment is what `_evaluate_one` makes of two attempts. -/
theorem run_evaluated {service : ParallelAssessmentService F} {world : World} {vmIds : List String}
    {includeMapping : Bool} {maxConcurrency timeoutSeconds : Nat} {events : List Event}
    (run : Runs.exec (Session.step ar site)
      (assessParallel site service world vmIds includeMapping maxConcurrency timeoutSeconds) events = some s) :
    Evaluated ar s :=
  Runs.invariant (Session.step ar site) (fun _ _ _ ok next => ok.step next)
    (evaluated_start service world vmIds includeMapping maxConcurrency timeoutSeconds) run

/-- Only expiry counts as a timeout, and every exception of the first attempt is retried once,
exactly if no attempt that is made raises a `TimeoutError` of its own. And in every run of a parallel
assessment every result is what `_evaluate_one` makes of two attempts for a VM that was asked for. -/
theorem only_expiry_times_out_iff (ar : Arithmetic F) (site : Site) :
    (∀ (vmId : String) (timeoutSeconds start middle last : Nat) (first second : Attempt F),
      OnlyExpiryTimesOut first second (evaluateOne ar vmId timeoutSeconds start middle last first second) ↔
        ∀ exc, first = .raised exc → isTimeout exc = false ∧ ∀ again, second = .raised again → isTimeout again = false) ∧
    ∀ (service : ParallelAssessmentService F) (world : World) (vmIds : List String) (includeMapping : Bool)
      (maxConcurrency timeoutSeconds : Nat) (events : List Event) (s : Session F), Runs.exec (Session.step ar site)
        (assessParallel site service world vmIds includeMapping maxConcurrency timeoutSeconds) events = some s →
      ∀ r ∈ s.results ++ s.done, ∃ vmId ∈ s.vmIds, ∃ start middle last first second,
        r = (evaluateOne ar vmId s.timeoutSeconds start middle last first second).1 := by
  refine ⟨evaluateOne_times_out_iff ar, ?_⟩
  intro service world vmIds includeMapping maxConcurrency timeoutSeconds events s run
  exact (run_evaluated run).results

end Coroutines

def smallCall (site : Site) : Session ℚ := assessParallel site getParallelAssessmentService .initial ["vm-1"] true 10 300

/- One evaluation, which expires. The last step closes the task. -/
def shortRun : List Event := [.proceed, .proceed, .acquire 0, .expire 0, .proceed, .proceed, .proceed]

/-- The result of an evaluation that has expired. -/
theorem expired_evaluation : ∃ s : Session ℚ,
    Runs.exec (Session.step .rational smallSite) (smallCall smallSite) (shortRun.take 4) = some s ∧
    ∃ r ∈ s.results ++ s.done, r.status = .timeout ∧ ∃ vmId ∈ s.vmIds, ∃ start middle last first second,
      r = (evaluateOne .rational vmId s.timeoutSeconds start middle last first second).1 := by
  have ends : (Runs.exec (Session.step .rational smallSite) (smallCall smallSite) (shortRun.take 4)).any (fun s =>
      (s.results ++ s.done).any (fun r => decide (r.status = .timeout))) = true := by decide +kernel
  obtain ⟨s, run, seen⟩ := (Option.any_eq_true _ _).mp ends
  obtain ⟨r, member, timeout⟩ := List.any_eq_true.mp seen
  have made := (only_expiry_times_out_iff .rational smallSite).2 _ _ _ _ _ _ _ s run r member
  exact ⟨s, run, r, member, of_decide_eq_true timeout, made⟩

/- The property asked of every pair of outcomes. -/
def AlwaysOnlyExpiry : Prop :=
  ∀ (vmId : String) (timeoutSeconds start middle last : Nat) (first second : Attempt ℚ),
    OnlyExpiryTimesOut first second (evaluateOne .rational vmId timeoutSeconds start middle last first second)

/- The vCenter client times out once; the second attempt would have succeeded. -/
def completedResult : SingleVMResult ℚ := ⟨"vm-1", "web01", .completed, none, none, none, 0, ""⟩

theorem vcenter_timeout_not_retried : ¬ AlwaysOnlyExpiry := by
  intro claim
  have genuine := claim "vm-1" 300 0 0 0 (.raised (.timeoutError "timed out")) (.returned completedResult (by decide))
  have retried := genuine.retried _ rfl
  rw [evaluateOne_timeout "vm-1" 300 0 0 0 rfl (by simp [isTimeout, Exc.type])] at retried
  simp at retried

/- If the call has raised, its record is not left running. -/
def NotLeftRunning {F : Type} (s : Session F) : Prop :=
  ∀ exc, s.phase = .raised exc → ∃ p, s.progress = some p ∧ p.status ≠ .running

/- The calls of the operation task service before the evaluations do not raise, where the step
makes one of them. -/
def OpensTask {F : Type} (site : Site) (s : Session F) (event : Event) : Prop :=
  event = .proceed →
    match s.phase with
    | .creating => ∃ task w,
        createTask site.env "vmware_parallel_assessment" "assessment" (targetId s.vmIds) s.world = .ok task w
    | .opening task => ∃ u w, updateTask site.env task .running .none none s.world = .ok u w
    | _ => True

section Leaving
variable {F : Type} {ar : Arithmetic F} {site : Site} {s t : Session F}

theorem NotLeftRunning.of_phase (phase : CallPhase) (here : s.phase = phase) (fine : ∀ exc, phase ≠ .raised exc) :
    NotLeftRunning s := fun exc raised => absurd (here.symm.trans raised) (fine exc)

/- While the evaluations have not begun, the record is running. -/
structure Begun (s : Session F) : Prop where
  books : Accounted s
  running : (s.phase = .creating ∨ ∃ task, s.phase = .opening task) → ∃ p, s.progress = some p ∧ p.status = .running

theorem begun_start (service : ParallelAssessmentService F) (world : World) (vmIds : List String)
    (includeMapping : Bool) (maxConcurrency timeoutSeconds : Nat) :
    Begun (assessParallel site service world vmIds includeMapping maxConcurrency timeoutSeconds) where
  books := accounted_start service world vmIds includeMapping maxConcurrency timeoutSeconds
  running := by
    intro _
    refine ⟨⟨site.env.uuid world.tick, vmIds.length, 0, 0, vmIds.length, .running⟩, ?_, rfl⟩
    simp [assessParallel, Session.progress, ParallelAssessmentService.getProgress]

theorem await_cases {α : Type} (s : Session F) (m : M α) (next : α → CallPhase) :
    (∃ a w, m s.world = .ok a w ∧ s.await m next = { s with world := w, phase := next a }) ∨
      ∃ exc w, m s.world = .error exc w ∧ s.await m next = { s with world := w, phase := .raised exc } := by
  unfold Session.await
  cases ran : m s.world with
  | ok a w => exact .inl ⟨a, w, rfl, rfl⟩
  | error exc w => exact .inr ⟨exc, w, rfl, rfl⟩

/-- A call that is made while the record is running leaves it so if it raises. -/
theorem opening_left_iff {α : Type} {m : M α} {next : α → CallPhase} (fine : ∀ a exc, next a ≠ .raised exc)
    (running : ∃ p, s.progress = some p ∧ p.status = .running) :
    NotLeftRunning (s.await m next) ↔ ∃ a w, m s.world = .ok a w := by
  obtain ⟨a, w, ran, after⟩ | ⟨exc, w, ran, after⟩ := await_cases s m next
  · rw [after]
    exact iff_of_true (.of_phase (next a) rfl (fine a)) ⟨a, w, ran⟩
  · obtain ⟨p, shown, still⟩ := running
    rw [after, ran]
    refine iff_of_false (fun left => ?_) (fun ⟨_, _, other⟩ => nomatch other)
    obtain ⟨q, same, ended⟩ := left exc rfl
    cases shown.symm.trans same
    exact ended still

theorem proceed_left_iff (begun : Begun s) (next : s.proceed site = some t) :
    NotLeftRunning t ↔ NotLeftRunning s ∧ OpensTask site s .proceed := by
  obtain ⟨status, shown, final⟩ := begun.books.recorded
  unfold Session.proceed at next
  split at next
  · rename_i phase
    cases next
    rw [opening_left_iff (fun _ _ => by simp) (begun.running (.inl phase))]
    have before : NotLeftRunning s := .of_phase _ phase (by simp)
    simp [OpensTask, phase, before]
  · rename_i task phase
    cases next
    rw [opening_left_iff (fun _ _ => by simp) (begun.running (.inr ⟨task, phase⟩))]
    have before : NotLeftRunning s := .of_phase _ phase (by simp)
    simp [OpensTask, phase, before]
  · rename_i task phase
    have before : NotLeftRunning s := .of_phase _ phase (by simp)
    have opened : OpensTask site s .proceed := by simp [OpensTask, phase]
    split at next
    · rename_i single rest _
      cases next
      have during : (s.take single rest).progress = some _ := shown
      rw [Session.collect, record_eq during]
      exact iff_of_true (.of_phase (.collecting task) phase (by simp)) ⟨before, opened⟩
    · split at next
      · cases next
        have during : (s.store task).progress = some _ := shown
        rw [Session.conclude, record_eq during]
        refine iff_of_true ?_ ⟨before, opened⟩
        cases task with
        | none => exact .of_phase .returned rfl (by simp)
        | some task => exact .of_phase (.closing task) rfl (by simp)
      · contradiction
  · rename_i task phase
    cases next
    have before : NotLeftRunning s := .of_phase _ phase (by simp)
    have opened : OpensTask site s .proceed := by simp [OpensTask, phase]
    refine iff_of_true ?_ ⟨before, opened⟩
    have ended : status = s.finalStatus := final (by rw [phase]; rfl)
    obtain ⟨a, w, ran, after⟩ | ⟨exc, w, ran, after⟩ := await_cases s _ (fun _ => CallPhase.returned)
    · rw [after]
      exact .of_phase .returned rfl (by simp)
    · rw [after]
      intro _ _
      refine ⟨_, shown, ?_⟩
      simp only [ended, Session.finalStatus]
      split <;> simp
  · contradiction
  · contradiction

theorem coroutine_phase {i : Nat} {ev : Evaluation} {event : Event} (next : s.coroutine ar site event i ev = some t) :
    t.phase = s.phase := by
  obtain ⟨_, ⟨stage, desk, rfl, _⟩ | ⟨r, desk, rfl, _⟩⟩ := coroutine_cases next
  · rfl
  · rfl

theorem step_left_iff {event : Event} (begun : Begun s) (next : s.step ar site event = some t) :
    NotLeftRunning t ↔ NotLeftRunning s ∧ OpensTask site s event := by
  obtain ⟨rfl, next⟩ | ⟨world, rfl, rfl⟩ | ⟨i, ev, task, event_cases, phase, _, next⟩ := step_cases next
  · exact proceed_left_iff begun next
  · have opened : OpensTask site s (.elsewhere world) := fun other => nomatch other
    exact ⟨fun left => ⟨left, opened⟩, fun both => both.1⟩
  · have after : NotLeftRunning t := .of_phase _ ((coroutine_phase next).trans phase) (by simp)
    have before : NotLeftRunning s := .of_phase _ phase (by simp)
    have opened : OpensTask site s event := by
      intro proceeding
      rcases event_cases with rfl | rfl | rfl <;> contradiction
    exact iff_of_true after ⟨before, opened⟩

/- Only the creation of the task is before its opening. -/
theorem creating_of_work {before after : CallPhase} (early : after = .creating ∨ ∃ task, after = .opening task)
    (less : after.work < before.work) : before = .creating := by
  have more : 3 < before.work := by
    rcases early with rfl | ⟨task, rfl⟩
    · exact Nat.lt_trans (by decide : 3 < CallPhase.work .creating) less
    · exact less
  cases before with
  | creating => rfl
  | _ => simp [CallPhase.work] at more

theorem Begun.proceed (begun : Begun s) (goes : s.proceed site = some t)
    (early : t.phase = .creating ∨ ∃ task, t.phase = .opening task) : ∃ p, t.progress = some p ∧ p.status = .running := by
  obtain ⟨status, shown, _⟩ := begun.books.recorded
  obtain ⟨α, m, after, rfl, _, fits⟩ | ⟨task, phase, ⟨single, rest, _, rfl⟩ | ⟨_, _, rfl⟩⟩ := proceed_cases goes
  · obtain ⟨a, w, _, same⟩ | ⟨exc, w, _, same⟩ := await_cases s m after
    · rw [same] at early ⊢
      exact begun.running (.inl (creating_of_work early (fits a).1))
    · rw [same] at early
      simp at early
  · have during : (s.take single rest).progress = some _ := shown
    rw [Session.collect, record_eq during] at early
    simp [Session.showing, Session.take, phase] at early
  · have during : (s.store task).progress = some _ := shown
    rw [Session.conclude, record_eq during] at early
    cases task <;> simp [Session.showing, Session.store] at early

theorem Begun.step {event : Event} (begun : Begun s) (next : s.step ar site event = some t) : Begun t := by
  refine ⟨begun.books.step next, ?_⟩
  obtain ⟨_, goes⟩ | ⟨world, _, rfl⟩ | ⟨i, ev, task, _, phase, _, goes⟩ := step_cases next
  · exact begun.proceed goes
  · exact begun.running
  · intro early
    rw [coroutine_phase goes, phase] at early
    simp at early

/-- A call that has raised has left its record running exactly if it was the creation of the task
or its first update that raised. -/
theorem not_left_running_iff {service : ParallelAssessmentService F} {world : World} {vmIds : List String}
    {includeMapping : Bool} {maxConcurrency timeoutSeconds : Nat} {events : List Event}
    (run : Runs.exec (Session.step ar site)
      (assessParallel site service world vmIds includeMapping maxConcurrency timeoutSeconds) events = some s) :
    NotLeftRunning s ↔ Runs.Along (Session.step ar site) (OpensTask site)
      (assessParallel site service world vmIds includeMapping maxConcurrency timeoutSeconds) events := by
  have start : NotLeftRunning
      (assessParallel site service world vmIds includeMapping maxConcurrency timeoutSeconds) := by
    cases present : service.operationTask with
    | true => exact .of_phase .creating (by simp [assessParallel, present]) (by simp)
    | false => exact .of_phase (.collecting none) (by simp [assessParallel, present]) (by simp)
  have along := Runs.iff_along (Session.step ar site) (fun _ _ _ begun next => begun.step next)
    (fun _ _ _ begun next => step_left_iff begun next)
    (begun_start service world vmIds includeMapping maxConcurrency timeoutSeconds) run
  rw [along]
  exact ⟨fun both => both.2, fun opened => ⟨start, opened⟩⟩

end Leaving

/- The database goes down after so many questions. -/
def failingSite (after : Nat) : Site :=
  { smallSite with env := { smallSite.env with databaseUp := fun n => decide (n < after) } }

theorem closing_failure_not_left_running : ∃ s exc,
    Runs.exec (Session.step .rational (failingSite 3)) (smallCall (failingSite 3)) shortRun = some s ∧
    s.phase = .raised exc ∧ NotLeftRunning s ∧
    Runs.Along (Session.step .rational (failingSite 3)) (OpensTask (failingSite 3)) (smallCall (failingSite 3)) shortRun := by
  have ends : (Runs.exec (Session.step .rational (failingSite 3)) (smallCall (failingSite 3)) shortRun).map
      (fun s => (s.phase, s.progress)) =
      some (.raised databaseError, some ⟨"uuid-0", 1, 0, 1, 0, .completedWithErrors⟩) := by decide +kernel
  obtain ⟨s, run, shown⟩ := Option.map_eq_some_iff.mp ends
  obtain ⟨raised, record⟩ := Prod.mk.inj shown
  have left : NotLeftRunning s := fun _ _ => ⟨_, record, by decide⟩
  exact ⟨s, databaseError, run, raised, left, (not_left_running_iff run).mp left⟩

/- The database is down from the start. -/
theorem creation_failure_left_running : ¬ ∀ (service : ParallelAssessmentService ℚ) (world : World)
    (vmIds : List String) (includeMapping : Bool) (maxConcurrency timeoutSeconds : Nat) (events : List Event)
    (s : Session ℚ), Runs.exec (Session.step .rational (failingSite 0))
      (assessParallel (failingSite 0) service world vmIds includeMapping maxConcurrency timeoutSeconds) events = some s →
    NotLeftRunning s := by
  intro claim
  have ends : (Runs.exec (Session.step .rational (failingSite 0)) (smallCall (failingSite 0)) [.proceed]).map
      (fun s => (s.phase, s.progress)) =
      some (.raised databaseError, some ⟨"uuid-0", 1, 0, 0, 1, .running⟩) := by decide +kernel
  obtain ⟨s, run, shown⟩ := Option.map_eq_some_iff.mp ends
  obtain ⟨raised, record⟩ := Prod.mk.inj shown
  obtain ⟨p, same, ended⟩ := claim _ _ _ _ _ _ _ s run databaseError raised
  cases record.symm.trans same
  exact ended rfl

end VMachine.VMware
