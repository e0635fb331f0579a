import VMachine.VMware.ParallelAccounts

/-! The two endpoints of the parallel assessment, in a process that serves any number of
requests at a time. Every request gets its services from the dependencies, so the one that
asks for a task is given another service than the one that ran it. -/
namespace VMachine.VMware
open Py Effects OpenStack

/- What a client is answered, with the request it is an answer to. -/
inductive Answer where
  | posted (progress : ParallelAssessmentProgress)
  | rejected (fields : List String)
  | broken (exc : Exc)
  | found (taskId : String) (progress : ParallelAssessmentProgress)
  | httpException (taskId : String) (statusCode : Nat) (detail : String)
  deriving Repr, DecidableEq

/- A worker process: the calls of `assess_parallel`, each with its own service, and the
answers given so far. -/
structure Process (F : Type) where
  world : World
  calls : List (Session F)
  answers : List Answer

inductive Request where
  | post (vmIds : List String) (includeMapping : Bool) (maxConcurrency timeoutSeconds : Nat)
  | work (i : Nat) (event : Event)
  | get (taskId : String)
  | elsewhere (world : World)

/- `Query(ge=.., le=..)`: the parameters that are out of bounds. -/
def outOfBounds (maxConcurrency timeoutSeconds : Nat) : List String :=
  (if 1 ≤ maxConcurrency ∧ maxConcurrency ≤ 50 then [] else ["max_concurrency"]) ++
    (if 10 ≤ timeoutSeconds ∧ timeoutSeconds ≤ 3600 then [] else ["timeout_seconds"])

section Serving
variable {F : Type} (ar : Arithmetic F) (site : Site)

namespace Process
variable (p : Process F)

def answer (a : Answer) : Process F := { p with answers := p.answers ++ [a] }

/- `assess_vms_parallel`, until its first await. -/
def assessVmsParallel (vmIds : List String) (includeMapping : Bool) (maxConcurrency timeoutSeconds : Nat) :
    Process F :=
  if (outOfBounds maxConcurrency timeoutSeconds).isEmpty then
    let call := assessParallel site getParallelAssessmentService p.world vmIds includeMapping maxConcurrency
      timeoutSeconds
    { p with calls := p.calls ++ [call], world := call.world }
  else p.answer (.rejected (outOfBounds maxConcurrency timeoutSeconds))

/- What `assess_parallel` returns or raises, at the step that ends it. -/
def closing (before after : Session F) : List Answer :=
  match before.phase.ended, after.phase with
  | false, .returned => after.progress.toList.map Answer.posted
  | false, .raised exc => [.broken exc]
  | _, _ => []

def work (i : Nat) (event : Event) : Option (Process F) := do
  let before ← p.calls[i]?
  let after ← ({ before with world := p.world }).step ar site event
  return { world := after.world, calls := p.calls.set i after, answers := p.answers ++ closing before after }

/- `get_parallel_progress`. -/
def getParallelProgress (taskId : String) : Process F :=
  let service : ParallelAssessmentService F := getParallelAssessmentService
  match service.getProgress taskId with
  | some progress => p.answer (.found taskId progress)
  | none => p.answer (.httpException taskId 404 ("Parallel task '" ++ taskId ++ "' not found"))

def step (request : Request) : Option (Process F) :=
  match request with
  | .post vmIds includeMapping maxConcurrency timeoutSeconds =>
    some (p.assessVmsParallel site vmIds includeMapping maxConcurrency timeoutSeconds)
  | .work i event => p.work ar site i event
  | .get taskId => some (p.getParallelProgress taskId)
  | .elsewhere world => some { p with world := world }

end Process

end Serving

/- The answer to a later request for a task that has been handed out is its record. -/
def Answer.resolves (given : Answer) : Answer → Prop
  | .found taskId progress => ∀ handed, given = .posted handed → handed.taskId = taskId → progress = handed
  | .httpException taskId _ _ => ∀ handed, given = .posted handed → handed.taskId ≠ taskId
  | _ => True

def Resolvable (answers : List Answer) : Prop :=
  answers.Pairwise Answer.resolves

/- The task that a POST has handed out. -/
def Answer.handedOut : Answer → Option String
  | .posted progress => some progress.taskId
  | _ => none

/- The request does not ask for a task that has been handed out. -/
def Unasked {F : Type} (p : Process F) : Request → Prop
  | .get taskId => ∀ given ∈ p.answers, given.handedOut ≠ some taskId
  | _ => True

instance {F : Type} (p : Process F) : (request : Request) → Decidable (Unasked p request)
  | .get taskId => inferInstanceAs (Decidable (∀ given ∈ p.answers, given.handedOut ≠ some taskId))
  | .post _ _ _ _ => .isTrue trivial
  | .work _ _ => .isTrue trivial
  | .elsewhere _ => .isTrue trivial

section Lookup
variable {F : Type} {ar : Arithmetic F} {site : Site} {p q : Process F}

theorem getParallelProgress_answer (taskId : String) : p.getParallelProgress taskId =
    p.answer (.httpException taskId 404 ("Parallel task '" ++ taskId ++ "' not found")) := rfl

/-- Answers that are not answers to such a request change nothing. -/
theorem resolvable_append {answers more : List Answer} (indifferent : ∀ a ∈ more, ∀ given : Answer, given.resolves a) :
    Resolvable (answers ++ more) ↔ Resolvable answers := by
  simp only [Resolvable, List.pairwise_append]
  constructor
  · intro all
    exact all.1
  · intro resolvable
    refine ⟨resolvable, ?_, fun given _ a member => indifferent a member given⟩
    exact List.pairwise_of_forall_mem_list (fun given _ a member => indifferent a member given)

theorem closing_indifferent {before after : Session F} {a : Answer} (member : a ∈ Process.closing before after)
    (given : Answer) : given.resolves a := by
  unfold Process.closing at member
  split at member
  · obtain ⟨progress, _, rfl⟩ := List.mem_map.mp member
    trivial
  · cases List.mem_singleton.mp member
    trivial
  · contradiction

theorem handedOut_posted {given : Answer} {taskId : String} (same : given.handedOut = some taskId) :
    ∃ handed, given = .posted handed ∧ handed.taskId = taskId := by
  cases given with
  | posted handed => exact ⟨handed, rfl, Option.some.inj same⟩
  | _ => contradiction

/-- One request keeps every task resolvable exactly when it asks for none that was handed out. -/
theorem step_resolvable_iff {request : Request} (next : p.step ar site request = some q) :
    Resolvable q.answers ↔ Resolvable p.answers ∧ Unasked p request := by
  cases request with
  | post vmIds includeMapping maxConcurrency timeoutSeconds =>
    cases next
    simp only [Unasked, and_true]
    unfold Process.assessVmsParallel
    split
    · exact Iff.rfl
    · refine resolvable_append (fun a member given => ?_)
      cases List.mem_singleton.mp member
      trivial
  | work i event =>
    simp only [Process.step, Process.work, Option.bind_eq_bind, Option.bind_eq_some_iff, Option.pure_def,
      Option.some.injEq] at next
    obtain ⟨before, _, after, _, rfl⟩ := next
    simp only [Unasked, and_true]
    exact resolvable_append (fun a member given => closing_indifferent member given)
  | get taskId =>
    cases next
    rw [getParallelProgress_answer]
    simp only [Process.answer, Resolvable, List.pairwise_append, List.pairwise_singleton, List.mem_singleton,
      forall_eq, true_and, Unasked, Answer.resolves]
    constructor
    · rintro ⟨resolvable, unasked⟩
      refine ⟨resolvable, fun given member same => ?_⟩
      obtain ⟨handed, rfl, own⟩ := handedOut_posted same
      exact unasked _ member handed rfl own
    · rintro ⟨resolvable, unasked⟩
      refine ⟨resolvable, fun given member handed same own => ?_⟩
      subst same
      exact unasked _ member (congrArg some own)
  | elsewhere world =>
    cases next
    simp only [Unasked, and_true]

/-- A process keeps the tasks it hands out resolvable exactly as long as nobody asks for one. -/
theorem tasks_resolvable_iff {world : World} {requests : List Request}
    (run : Runs.exec (Process.step ar site) ⟨world, [], []⟩ requests = some p) :
    Resolvable p.answers ↔ Runs.Along (Process.step ar site) Unasked ⟨world, [], []⟩ requests := by
  rw [Runs.iff_along (Process.step ar site) (I := fun _ => True) (G := fun p => Resolvable p.answers)
    (fun _ _ _ _ _ => trivial) (fun p request q _ next => step_resolvable_iff next) trivial run]
  simp [Resolvable]

end Lookup

/- A POST for one VM that runs to its end, followed by a GET. -/
def postThenGet (taskId : String) : List Request :=
  [.post ["vm-1"] true 10 300, .work 0 .proceed, .work 0 .proceed, .work 0 (.acquire 0), .work 0 (.evaluate 0),
    .work 0 .proceed, .work 0 .proceed, .work 0 .proceed, .get taskId]

theorem task_of_nobody_is_unasked : ∃ p : Process ℚ,
    Runs.exec (Process.step .rational smallSite) ⟨.initial, [], []⟩ (postThenGet "uuid-9") = some p ∧
    Resolvable p.answers := by
  have ends : (Runs.exec (Process.step .rational smallSite) ⟨.initial, [], []⟩ (postThenGet "uuid-9")).isSome =
      true := by decide +kernel
  obtain ⟨p, run⟩ := Option.isSome_iff_exists.mp ends
  have unasked : Runs.Along (Process.step .rational smallSite) Unasked ⟨.initial, [], []⟩
      (postThenGet "uuid-9") := by decide +kernel
  exact ⟨p, run, (tasks_resolvable_iff run).mpr unasked⟩

theorem task_lost_after_post : ¬ ∀ (world : World) (requests : List Request) (p : Process ℚ),
    Runs.exec (Process.step .rational smallSite) ⟨world, [], []⟩ requests = some p → Resolvable p.answers := by
  intro claim
  have ends : (Runs.exec (Process.step .rational smallSite) ⟨.initial, [], []⟩ (postThenGet "uuid-0")).map
      Process.answers = some [.posted ⟨"uuid-0", 1, 1, 0, 0, .completed⟩,
        .httpException "uuid-0" 404 "Parallel task 'uuid-0' not found"] := by decide +kernel
  obtain ⟨p, run, answers⟩ := Option.map_eq_some_iff.mp ends
  have resolvable := claim _ _ p run
  rw [answers, Resolvable, List.pairwise_cons] at resolvable
  have missed := resolvable.1 _ (List.mem_singleton.mpr rfl)
  exact missed _ rfl rfl

end VMachine.VMware
