import Mathlib.Data.List.Nodup
import Mathlib.Logic.Function.Basic
import VMachine.Lib.Runs

/-! `call_with_timeout`, for any number of coroutines. Each call hands its function to the default
executor of the loop, whose threads take the functions in the order in which they were handed over,
and waits for it with a limit. When the limit is over the future is cancelled: a function that no
thread has taken is dropped, and one that has been taken goes on and keeps its thread. -/
namespace VMachine.OpenStack.Threads
open Runs

/- Where the coroutine is that has made the call. -/
inductive Caller where
  | absent
  | waiting
  | returned
  | raised
  | timedOut
  deriving Repr, DecidableEq

/- `submit` is `run_in_executor`, `take` a thread that gets the next function, `finish` the end of a
function, and `expire` the end of the limit. -/
inductive Event (ι : Type) where
  | submit (i : ι)
  | take
  | finish (i : ι) (ok : Bool)
  | expire (i : ι)

/- `begun` are the calls that have reached the SDK, in their order; `busy` those that occupy a thread. -/
structure Executor (ι : Type) where
  queue : List ι
  busy : List ι
  begun : List ι
  caller : ι → Caller

variable {ι : Type}

def Executor.initial : Executor ι := ⟨[], [], [], fun _ => .absent⟩

variable [DecidableEq ι]

/- What the coroutine is told of the end of its function, if it still waits. -/
def Caller.told (caller : Caller) (ok : Bool) : Caller :=
  match caller with
  | .waiting => if ok then .returned else .raised
  | other => other

def Executor.step (workers : Nat) (s : Executor ι) : Event ι → Option (Executor ι)
  | .submit i =>
    match s.caller i with
    | .absent => some { s with queue := s.queue ++ [i], caller := Function.update s.caller i .waiting }
    | _ => none
  | .take =>
    match s.queue with
    | i :: queue =>
      if s.busy.length < workers then some { s with queue := queue, busy := s.busy ++ [i], begun := s.begun ++ [i] }
      else none
    | [] => none
  | .finish i ok =>
    if i ∈ s.busy then
      some { s with busy := s.busy.erase i, caller := Function.update s.caller i ((s.caller i).told ok) }
    else none
  | .expire i =>
    match s.caller i with
    | .waiting => some { s with queue := s.queue.erase i, caller := Function.update s.caller i .timedOut }
    | _ => none

variable {workers : Nat} {s t : Executor ι} {es : List (Event ι)}

/-- Everything that a step can do. -/
theorem step_cases {e : Event ι} (next : s.step workers e = some t) :
    (∃ i, e = .submit i ∧ s.caller i = .absent ∧
      t = { s with queue := s.queue ++ [i], caller := Function.update s.caller i .waiting }) ∨
    (∃ i queue, e = .take ∧ s.queue = i :: queue ∧ s.busy.length < workers ∧
      t = { s with queue := queue, busy := s.busy ++ [i], begun := s.begun ++ [i] }) ∨
    (∃ i ok, e = .finish i ok ∧ i ∈ s.busy ∧
      t = { s with busy := s.busy.erase i, caller := Function.update s.caller i ((s.caller i).told ok) }) ∨
    ∃ i, e = .expire i ∧ s.caller i = .waiting ∧
      t = { s with queue := s.queue.erase i, caller := Function.update s.caller i .timedOut } := by
  cases e with
  | submit i =>
    simp only [Executor.step] at next
    split at next
    · rename_i absent
      exact .inl ⟨i, rfl, absent, (Option.some.inj next).symm⟩
    · contradiction
  | take =>
    simp only [Executor.step] at next
    split at next
    · rename_i i queue waiting
      obtain ⟨free, rfl⟩ : s.busy.length < workers ∧ _ = t := by simpa using next
      exact .inr (.inl ⟨i, queue, rfl, waiting, free, rfl⟩)
    · contradiction
  | finish i ok =>
    obtain ⟨occupied, rfl⟩ : i ∈ s.busy ∧ _ = t := by simpa [Executor.step] using next
    exact .inr (.inr (.inl ⟨i, ok, rfl, occupied, rfl⟩))
  | expire i =>
    simp only [Executor.step] at next
    split at next
    · rename_i waiting
      exact .inr (.inr (.inr ⟨i, rfl, waiting, (Option.some.inj next).symm⟩))
    · contradiction

/- The calls in the order in which they were handed over. -/
def submitted (es : List (Event ι)) : List ι :=
  es.filterMap (fun e => match e with | .submit i => some i | _ => none)

/- What holds whatever the threads do. -/
structure Sound (workers : Nat) (es : List (Event ι)) (s : Executor ι) : Prop where
  bounded : s.busy.length ≤ workers
  ordered : (s.begun ++ s.queue).Sublist (submitted es)
  once : (submitted es).Nodup
  known : ∀ i, i ∈ submitted es ↔ s.caller i ≠ .absent
  queued : ∀ i ∈ s.queue, s.caller i = .waiting
  occupied : ∀ i ∈ s.busy, i ∈ s.begun
  single : s.busy.Nodup
  waits : ∀ i, s.caller i = .waiting → i ∈ s.queue ∨ i ∈ s.busy
  answered : ∀ i, s.caller i = .returned ∨ s.caller i = .raised → i ∈ s.begun ∧ i ∉ s.busy

omit [DecidableEq ι] in
theorem sound_initial : Sound workers [] (.initial : Executor ι) where
  bounded := Nat.zero_le _
  ordered := List.Sublist.refl _
  once := List.nodup_nil
  known := by simp [submitted, Executor.initial]
  queued := by simp [Executor.initial]
  occupied := by simp [Executor.initial]
  single := List.nodup_nil
  waits := by simp [Executor.initial]
  answered := by simp [Executor.initial]

omit [DecidableEq ι] in
theorem Sound.apart (sound : Sound workers es s) : (s.begun ++ s.queue).Nodup := sound.once.sublist sound.ordered

omit [DecidableEq ι] in
theorem submitted_other {e : Event ι} (other : ∀ i, e ≠ .submit i) : submitted (es ++ [e]) = submitted es := by
  cases e with
  | submit i => exact absurd rfl (other i)
  | take => simp [submitted]
  | finish i ok => simp [submitted]
  | expire i => simp [submitted]

omit [DecidableEq ι] in
theorem submitted_submit (i : ι) : submitted (es ++ [.submit i]) = submitted es ++ [i] := by simp [submitted]

theorem step_sound {e : Event ι} (sound : Sound workers es s) (next : s.step workers e = some t) :
    Sound workers (es ++ [e]) t := by
  have apart := sound.apart
  obtain ⟨i, rfl, absent, rfl⟩ | ⟨i, queue, rfl, first, free, rfl⟩ | ⟨i, ok, rfl, occupied, rfl⟩ | ⟨i, rfl, waiting, rfl⟩ :=
    step_cases next
  · -- a new call, of which nobody has heard
    have fresh : i ∉ submitted es := fun old => (sound.known i).mp old absent
    have other {j : ι} (old : s.caller j ≠ .absent) : Function.update s.caller i .waiting j = s.caller j := by
      apply Function.update_of_ne
      rintro rfl
      exact old absent
    constructor <;> try dsimp only
    · exact sound.bounded
    · rw [submitted_submit, ← List.append_assoc]
      exact sound.ordered.append (List.Sublist.refl [i])
    · rw [submitted_submit]
      exact sound.once.append (List.nodup_singleton i) (List.disjoint_singleton.mpr fresh)
    · intro j
      rw [submitted_submit, List.mem_append, List.mem_singleton, sound.known j]
      by_cases own : j = i
      · subst own
        simp
      · simp [own]
    · intro j member
      rcases List.mem_append.mp member with old | new
      · have was := sound.queued j old
        exact (other (by simp [was])).trans was
      · cases List.mem_singleton.mp new
        exact Function.update_self ..
    · exact sound.occupied
    · exact sound.single
    · intro j waits
      by_cases own : j = i
      · subst own
        exact .inl (List.mem_append_right _ (List.mem_singleton_self j))
      · rw [Function.update_of_ne own] at waits
        exact (sound.waits j waits).imp (List.mem_append_left _) id
    · intro j ended
      have apart : j ≠ i := by
        rintro rfl
        simp at ended
      rw [Function.update_of_ne apart] at ended
      exact sound.answered j ended
  · -- a thread takes the first call of the queue
    rw [first] at apart
    have member : i ∈ s.queue := by simp [first]
    have fresh : i ∉ s.busy := by
      intro busy
      exact (List.disjoint_of_nodup_append apart) (sound.occupied i busy) List.mem_cons_self
    constructor <;> try dsimp only
    · simp only [List.length_append, List.length_singleton]
      omega
    · rw [submitted_other (by simp), List.append_assoc, List.singleton_append, ← first]
      exact sound.ordered
    · rw [submitted_other (by simp)]
      exact sound.once
    · rw [submitted_other (by simp)]
      exact sound.known
    · intro j later
      exact sound.queued j (first ▸ List.mem_cons_of_mem i later)
    · intro j busy
      rcases List.mem_append.mp busy with old | new
      · exact List.mem_append_left _ (sound.occupied j old)
      · exact List.mem_append_right _ new
    · exact sound.single.append (List.nodup_singleton i) (List.disjoint_singleton.mpr fresh)
    · intro j waits
      rcases sound.waits j waits with queued | busy
      · rw [first] at queued
        rcases List.mem_cons.mp queued with rfl | later
        · exact .inr (List.mem_append_right _ (List.mem_singleton_self j))
        · exact .inl later
      · exact .inr (List.mem_append_left _ busy)
    · intro j ended
      obtain ⟨begun, finished⟩ := sound.answered j ended
      refine ⟨List.mem_append_left _ begun, ?_⟩
      intro busy
      rcases List.mem_append.mp busy with old | new
      · exact finished old
      · obtain rfl := List.mem_singleton.mp new
        have was := sound.queued j member
        simp [was] at ended
  · -- a function is over, and its coroutine is told if it still waits
    have unqueued : i ∉ s.queue := fun queued => (List.disjoint_of_nodup_append apart) (sound.occupied i occupied) queued
    constructor <;> try dsimp only
    · exact Nat.le_trans List.length_erase_le sound.bounded
    · rw [submitted_other (by simp)]
      exact sound.ordered
    · rw [submitted_other (by simp)]
      exact sound.once
    · intro j
      rw [submitted_other (by simp), sound.known j]
      by_cases own : j = i
      · subst own
        rw [Function.update_self]
        cases here : s.caller j <;> cases ok <;> simp [Caller.told]
      · rw [Function.update_of_ne own]
    · intro j queued
      have own : j ≠ i := by
        rintro rfl
        exact unqueued queued
      rw [Function.update_of_ne own]
      exact sound.queued j queued
    · intro j busy
      exact sound.occupied j (List.mem_of_mem_erase busy)
    · exact sound.single.erase i
    · intro j waits
      have own : j ≠ i := by
        rintro rfl
        rw [Function.update_self] at waits
        cases here : s.caller j <;> cases ok <;> simp [here, Caller.told] at waits
      rw [Function.update_of_ne own] at waits
      exact (sound.waits j waits).imp id (fun busy => (List.mem_erase_of_ne own).mpr busy)
    · intro j ended
      by_cases own : j = i
      · subst own
        exact ⟨sound.occupied j occupied, fun busy => (sound.single.mem_erase_iff.mp busy).1 rfl⟩
      · rw [Function.update_of_ne own] at ended
        obtain ⟨begun, finished⟩ := sound.answered j ended
        exact ⟨begun, fun busy => finished (List.mem_of_mem_erase busy)⟩
  · -- the limit is over: a call that is still queued is dropped, one that is under way goes on
    constructor <;> try dsimp only
    · exact sound.bounded
    · rw [submitted_other (by simp)]
      exact ((List.Sublist.refl s.begun).append List.erase_sublist).trans sound.ordered
    · rw [submitted_other (by simp)]
      exact sound.once
    · intro j
      rw [submitted_other (by simp), sound.known j]
      by_cases own : j = i
      · subst own
        simp [waiting]
      · rw [Function.update_of_ne own]
    · intro j queued
      have distinct := (List.nodup_append.mp apart).2.1
      obtain ⟨own, old⟩ := distinct.mem_erase_iff.mp queued
      rw [Function.update_of_ne own]
      exact sound.queued j old
    · exact sound.occupied
    · exact sound.single
    · intro j waits
      have own : j ≠ i := by
        rintro rfl
        simp at waits
      rw [Function.update_of_ne own] at waits
      exact (sound.waits j waits).imp (fun queued => (List.mem_erase_of_ne own).mpr queued) id
    · intro j ended
      have own : j ≠ i := by
        rintro rfl
        simp at ended
      rw [Function.update_of_ne own] at ended
      exact sound.answered j ended

theorem run_sound (run : exec (Executor.step workers) .initial es = some s) : Sound workers es s :=
  Runs.history _ (I := fun es s => Sound workers es s) (fun _ _ _ _ sound next => step_sound sound next) sound_initial run

/- The threads are all taken by calls that do not come to an end. -/
structure Starved (workers : Nat) (s : Executor ι) (u : Executor ι) : Prop where
  full : workers ≤ u.busy.length
  busy : u.busy = s.busy
  begun : u.begun = s.begun
  unanswered : ∀ j, j ∉ s.begun → u.caller j ≠ .returned ∧ u.caller j ≠ .raised

theorem step_starved {e : Event ι} {u v : Executor ι} (starved : Starved workers s u)
    (hung : ∀ i ∈ s.busy, ∀ ok, e ≠ .finish i ok) (next : u.step workers e = some v) : Starved workers s v := by
  obtain ⟨j, rfl, absent, rfl⟩ | ⟨j, queue, rfl, first, free, rfl⟩ | ⟨j, ok, rfl, occupied, rfl⟩ | ⟨j, rfl, waiting, rfl⟩ :=
    step_cases next
  · refine ⟨starved.full, starved.busy, starved.begun, fun i fresh => ?_⟩
    by_cases own : i = j
    · subst own
      simp
    · simpa [own] using starved.unanswered i fresh
  · exact absurd free (Nat.not_lt.mpr starved.full)
  · exact absurd rfl (hung j (starved.busy ▸ occupied) ok)
  · refine ⟨starved.full, starved.busy, starved.begun, fun i fresh => ?_⟩
    by_cases own : i = j
    · subst own
      simp
    · simpa [own] using starved.unanswered i fresh

/-- Once every thread is taken by a call that does not come to an end, no further call is made, though
their own coroutines may long have timed out: nobody who has not been served yet gets an answer. -/
theorem hung_calls_starve {fs : List (Event ι)} (run : exec (Executor.step workers) .initial es = some s)
    (full : s.busy.length = workers) (hung : ∀ i ∈ s.busy, ∀ ok, .finish i ok ∉ fs)
    (onwards : exec (Executor.step workers) s fs = some t) :
    t.begun = s.begun ∧ ∀ j, j ∉ s.begun → t.caller j = .absent ∨ t.caller j = .waiting ∨ t.caller j = .timedOut := by
  have sound := run_sound run
  have initial : Starved workers s s := by
    refine ⟨Nat.le_of_eq full.symm, rfl, rfl, fun j fresh => ⟨fun ended => ?_, fun ended => ?_⟩⟩
    · exact fresh (sound.answered j (.inl ended)).1
    · exact fresh (sound.answered j (.inr ended)).1
  have along : Along (Executor.step workers) (fun _ e => ∀ i ∈ s.busy, ∀ ok, e ≠ .finish i ok) s fs :=
    along_of_forall _ (fun e member i busy ok same => hung i busy ok (same ▸ member))
  have final : Starved workers s t :=
    Runs.invariant_along _ (fun _ _ _ starved hung next => step_starved starved hung next) initial along onwards
  refine ⟨final.begun, fun j fresh => ?_⟩
  obtain ⟨unreturned, unraised⟩ := final.unanswered j fresh
  cases here : t.caller j with
  | absent => exact .inl rfl
  | waiting => exact .inr (.inl rfl)
  | returned => exact absurd here unreturned
  | raised => exact absurd here unraised
  | timedOut => exact .inr (.inr rfl)

/- One thread: the first call hangs, and the second one waits behind it. -/
def hanging : List (Event Nat) := [.submit 0, .take, .submit 1, .expire 0, .expire 1]

theorem third_of_three_starves : ∃ s t : Executor Nat, exec (Executor.step 1) .initial hanging = some s ∧
    exec (Executor.step 1) s [.submit 2, .expire 2] = some t ∧ t.begun = [0] := by
  refine ⟨_, _, rfl, rfl, ?_⟩
  exact (@hung_calls_starve Nat _ 1 _ _ hanging [.submit 2, .expire 2] rfl rfl (by simp) rfl).1

end VMachine.OpenStack.Threads
