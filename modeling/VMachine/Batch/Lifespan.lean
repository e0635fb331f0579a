import Mathlib.Algebra.Order.Group.Multiset
import VMachine.Batch.Conservation

/-! The shutdown half of `lifespan`. It puts the audit sentinel, drains the audit queue
itself, puts the metric sentinel, cancels both workers and awaits them. Putting on an
unbounded queue does not yield, so the only point in between at which another task can
run is the flush of what the drain took; a cancelled worker then receives the
cancellation at the await it is suspended in. Its `wait_for` is that of Python 3.12 and later,
which raises the cancellation; before, it might return an entry that `get` had just taken. -/
namespace VMachine.Lifespan
open Batch

section Cancellation
variable {κ α : Type} {w : Worker κ α} {s t : Batch.State α} {e : Batch.Event κ}

/- Every copy of an entry that exists anywhere, with multiplicity. -/
def held (s : Batch.State α) : Multiset (Item α) :=
  (s.persisted : Multiset (Item α)) + (s.batch : Multiset (Item α)) + (s.waiting : Multiset (Item α))

theorem held_eq_contents (s : Batch.State α) :
    held s = ((s.persisted ++ s.batch ++ s.waiting : List (Item α)) : Multiset (Item α)) := by
  simp only [held, Multiset.coe_add]

theorem leave_held (p : Point) (s : Batch.State α) : held (leave p s) ≤ held s := by
  have dropped : held (leave p s) + (s.batch : Multiset (Item α)) = held s := by
    simp only [held, leave, State.waiting, Multiset.coe_nil, add_zero]
    exact add_right_comm _ _ _
  exact dropped ▸ Multiset.le_add_right _ _

theorem flushTo_held (p : Point) (s : Batch.State α) : held (flushTo p s) = held s := by
  simp only [held, flushTo, State.waiting, ← Multiset.coe_add, Multiset.coe_nil, add_zero]

/-- No step makes a second copy of an entry, whatever else (`extra`) is held elsewhere. -/
theorem step_held (h : step w s e = some t) (extra : Multiset (Item α))
    (bounded : held s + extra ≤ (s.enqueued : Multiset (Item α))) :
    held t + extra ≤ (t.enqueued : Multiset (Item α)) := by
  by_cases keeps : Keeps s e
  · obtain ⟨xs, grown, refined⟩ := step_refines keeps h
    have contents := Fifo.step_contents refined
    have total : held t = held s + (xs : Multiset (Item α)) := by
      simp only [held_eq_contents]
      simp only [Fifo.Pipe.contents, State.pipe, ← List.append_assoc] at contents
      rw [contents, Multiset.coe_add]
    rw [total, grown, ← Multiset.coe_add, add_right_comm]
    exact add_le_add_left bounded _
  · have fewer : held t ≤ held s ∧ t.enqueued = s.enqueued := by
      cases e with
      | flushRaised error =>
        obtain ⟨_, ⟨hp, he, _⟩ | ⟨_, rfl⟩⟩ := step_flushRaised h
        · exact absurd ⟨hp, he⟩ keeps
        · exact ⟨leave_held _ s, rfl⟩
      | cancelled landed =>
        rcases step_cancelled h with ⟨_, rfl⟩ | ⟨_, rfl⟩
        · exact ⟨leave_held _ s, rfl⟩
        · cases landed
          · exact ⟨leave_held _ s, rfl⟩
          · exact ⟨le_of_eq (flushTo_held _ s), rfl⟩
      | call | sentinel | get | timeout | flushed => exact absurd trivial keeps
    rw [fewer.2]
    exact le_trans (add_le_add_left fewer.1 _) bounded

/- The entry is in the table, or in a batch whose flush is under way. -/
def Landing (x : Item α) (s : Batch.State α) : Prop :=
  x ∈ s.persisted ∨ (x ∈ s.batch ∧ s.point.flushing = true)

theorem step_landing {x : Item α} (landing : Landing x s) (ok : e.flushesOk = true)
    (h : step w s e = some t) : Landing x t := by
  have elsewhere : s.point = .polling → x ∈ s.persisted := by
    intro polling
    rcases landing with stored | ⟨_, flushing⟩
    · exact stored
    · rw [polling] at flushing
      contradiction
  have both : x ∈ s.persisted ++ s.batch := by
    rcases landing with stored | ⟨pending, _⟩
    · exact List.mem_append_left _ stored
    · exact List.mem_append_right _ pending
  cases e with
  | call k =>
    cases Option.some.inj h
    rcases put_cases w s k with same | ⟨y, _, eq⟩
    · rw [same]; exact landing
    · rw [eq]; exact landing
  | sentinel =>
    cases Option.some.inj h
    exact landing
  | get =>
    obtain ⟨polling, ⟨q, _, rfl⟩ | ⟨y, q, _, rfl⟩⟩ := step_get h
    · left
      unfold afterLoop
      split <;> exact elsewhere polling
    · left
      unfold appendEntry
      split <;> exact elsewhere polling
  | timeout =>
    obtain ⟨polling, rfl⟩ := step_timeout h
    left
    unfold onTimeout
    split <;> exact elsewhere polling
  | flushed => rcases step_flushed h with ⟨_, rfl⟩ | ⟨_, rfl⟩ <;> exact .inl both
  | flushRaised error => cases ok
  | cancelled landed =>
    cases (show landed = true from ok)
    rcases step_cancelled h with ⟨polling, rfl⟩ | ⟨_, rfl⟩
    · exact .inl (elsewhere polling)
    · exact .inl both

end Cancellation

/- Where the lifespan coroutine is once the server stops serving. -/
inductive Phase where
  | serving
  | draining (remaining : List (Item AuditEntry))
  | awaiting
  | failed
  deriving Repr

def Phase.remaining : Phase → List (Item AuditEntry)
  | .draining remaining => remaining
  | _ => []

structure App where
  audit : Batch.State AuditEntry
  metric : Batch.State Reading
  phase : Phase
  deriving Repr

def App.initial : App := ⟨.initial, .initial, .serving⟩

inductive Action where
  | audit (e : Batch.Event AuditCall)
  | metric (e : Batch.Event Reading)
  | shutdown
  | drained (ok : Bool)
  deriving Repr

/- Producers may put at any time. The workers run until they are cancelled, and then each
of them receives exactly the cancellation. -/
def Phase.enables {κ : Type} : Phase → Batch.Event κ → Bool
  | _, .call _ => true
  | _, .sentinel => false
  | .awaiting, .cancelled _ => true
  | _, .cancelled _ => false
  | .serving, _ | .draining _, _ => true
  | .awaiting, _ | .failed, _ => false

/- The loop of `drain_audit_queue`: get_nowait until the queue is empty. -/
def drainLoop {β : Type} : List (Option β) → List β → List β
  | [], remaining => remaining
  | none :: q, remaining => drainLoop q remaining
  | some x :: q, remaining => drainLoop q (remaining ++ [x])

/- `enqueue_metric_shutdown` and the two calls of cancel(). -/
def cancelWorkers (s : App) : App := { s with metric := putSentinel s.metric, phase := .awaiting }

/- `enqueue_shutdown_signal` and `drain_audit_queue` up to its first await, if any. -/
def beginShutdown (s : App) : App :=
  let audit := putSentinel s.audit
  let remaining := drainLoop audit.queue []
  let drained := { s with audit := { audit with queue := [] } }
  if remaining.isEmpty then cancelWorkers drained else { drained with phase := .draining remaining }

def endDrain (remaining : List (Item AuditEntry)) (s : App) : App :=
  cancelWorkers { s with audit := { s.audit with persisted := s.audit.persisted ++ remaining } }

def advance (s : App) : Action → Option App
  | .audit e =>
    if s.phase.enables e then (step auditFlushWorker s.audit e).map (fun a => { s with audit := a })
    else none
  | .metric e =>
    if s.phase.enables e then (step metricFlushWorker s.metric e).map (fun m => { s with metric := m })
    else none
  | .shutdown =>
    match s.phase with
    | .serving => some (beginShutdown s)
    | _ => none
  | .drained ok =>
    match s.phase with
    | .draining remaining => some (if ok then endDrain remaining s else { s with phase := .failed })
    | _ => none

section Advance
variable {s t : App} {a : Action}

theorem drainLoop_eq {β : Type} (q : List (Option β)) (remaining : List β) :
    drainLoop q remaining = remaining ++ q.filterMap id := by
  induction q generalizing remaining with
  | nil => simp [drainLoop]
  | cons x q ih =>
    cases x with
    | none => simp [drainLoop, ih]
    | some x => simp [drainLoop, ih]

theorem advance_audit {e : Batch.Event AuditCall} (h : advance s (.audit e) = some t) :
    s.phase.enables e = true ∧
      ∃ x, step auditFlushWorker s.audit e = some x ∧ t = { s with audit := x } := by
  simp only [advance] at h
  split at h
  · rename_i enabled
    obtain ⟨x, hx, rfl⟩ := Option.map_eq_some_iff.mp h
    exact ⟨enabled, x, hx, rfl⟩
  · contradiction

theorem advance_metric {e : Batch.Event Reading} (h : advance s (.metric e) = some t) :
    s.phase.enables e = true ∧
      ∃ x, step metricFlushWorker s.metric e = some x ∧ t = { s with metric := x } := by
  simp only [advance] at h
  split at h
  · rename_i enabled
    obtain ⟨x, hx, rfl⟩ := Option.map_eq_some_iff.mp h
    exact ⟨enabled, x, hx, rfl⟩
  · contradiction

theorem advance_shutdown (h : advance s .shutdown = some t) :
    s.phase = .serving ∧ t = beginShutdown s := by
  simp only [advance] at h
  split at h
  · rename_i serving
    exact ⟨serving, (Option.some.inj h).symm⟩
  · contradiction

theorem advance_drained {ok : Bool} (h : advance s (.drained ok) = some t) :
    ∃ remaining, s.phase = .draining remaining ∧
      t = if ok then endDrain remaining s else { s with phase := .failed } := by
  simp only [advance] at h
  split at h
  · rename_i remaining draining
    exact ⟨remaining, draining, (Option.some.inj h).symm⟩
  · contradiction

theorem drain_takes_queue (s : App) : drainLoop (putSentinel s.audit).queue [] = s.audit.waiting := by
  simp [drainLoop_eq, putSentinel, State.waiting, List.filterMap_append]

theorem beginShutdown_idle (empty : s.audit.waiting = []) :
    beginShutdown s = ⟨{ s.audit with queue := [] }, putSentinel s.metric, .awaiting⟩ := by
  simp only [beginShutdown, drain_takes_queue, empty]
  rfl

theorem beginShutdown_busy (busy : s.audit.waiting ≠ []) :
    beginShutdown s = ⟨{ s.audit with queue := [] }, s.metric, .draining s.audit.waiting⟩ := by
  have nonempty : s.audit.waiting.isEmpty = false := by simpa using busy
  simp only [beginShutdown, drain_takes_queue, nonempty]
  rfl

/-- The drain takes the whole queue, sentinel included, and leaves the worker's batch. -/
theorem beginShutdown_facts (s : App) :
    (beginShutdown s).audit = { s.audit with queue := [] } ∧
      (beginShutdown s).phase.remaining = s.audit.waiting ∧
      (beginShutdown s).phase ≠ .serving ∧
      ((beginShutdown s).metric = s.metric ∨ (beginShutdown s).metric = putSentinel s.metric) := by
  by_cases empty : s.audit.waiting = []
  · rw [beginShutdown_idle empty]
    exact ⟨rfl, empty.symm, by simp, .inr rfl⟩
  · rw [beginShutdown_busy empty]
    exact ⟨rfl, rfl, by simp, .inl rfl⟩

theorem serving_step {κ α : Type} {w : Worker κ α} {s t : Batch.State α} {e : Batch.Event κ}
    (ok : Looping s ∧ Accounted s) (enabled : Phase.serving.enables e = true)
    (flushes : e.flushesOk = true) (h : step w s e = some t) : Looping t ∧ Accounted t := by
  have working : e.working = true ∧ Keeps s e := by
    cases e with
    | sentinel | cancelled => cases enabled
    | flushRaised => cases flushes
    | call | get | timeout | flushed => exact ⟨rfl, trivial⟩
  exact ⟨step_looping ok.1 working.1 working.2 h, step_accounted ok.2 working.2 h⟩

end Advance

/- Every flush of audit entries succeeds, the one of the drain included. -/
def Action.auditOk : Action → Bool
  | .audit e => e.flushesOk
  | .drained ok => ok
  | _ => true

def Action.metricOk : Action → Bool
  | .metric e => e.flushesOk
  | _ => true

section Serving
variable {s t : App} {es : List Action}

theorem drained_not_serving {ok : Bool} (h : advance s (.drained ok) = some t) :
    t.phase ≠ .serving := by
  obtain ⟨remaining, _, rfl⟩ := advance_drained h
  cases ok <;> simp [endDrain, cancelWorkers]

theorem audit_serving (run : Runs.exec advance .initial es = some s)
    (ok : ∀ a ∈ es, a.auditOk = true) (serving : s.phase = .serving) :
    Looping s.audit ∧ Accounted s.audit := by
  refine Runs.invariant_along (I := fun s => s.phase = .serving → Looping s.audit ∧ Accounted s.audit)
    advance ?_ ?_ (Runs.along_of_forall advance ok) run serving
  · intro s a t ih flushes h serving
    cases a with
    | audit e =>
      obtain ⟨enabled, x, hx, rfl⟩ := advance_audit h
      have before : s.phase = .serving := serving
      rw [before] at enabled
      exact serving_step (ih before) enabled flushes hx
    | metric e =>
      obtain ⟨_, x, _, rfl⟩ := advance_metric h
      exact ih serving
    | shutdown =>
      obtain ⟨_, rfl⟩ := advance_shutdown h
      exact absurd serving (beginShutdown_facts s).2.2.1
    | drained ok => exact absurd serving (drained_not_serving h)
  · exact fun _ => ⟨⟨rfl, by simp [App.initial, State.initial]⟩, rfl⟩

theorem metric_serving (run : Runs.exec advance .initial es = some s)
    (ok : ∀ a ∈ es, a.metricOk = true) (serving : s.phase = .serving) :
    Looping s.metric ∧ Accounted s.metric := by
  refine Runs.invariant_along (I := fun s => s.phase = .serving → Looping s.metric ∧ Accounted s.metric)
    advance ?_ ?_ (Runs.along_of_forall advance ok) run serving
  · intro s a t ih flushes h serving
    cases a with
    | audit e =>
      obtain ⟨_, x, _, rfl⟩ := advance_audit h
      exact ih serving
    | metric e =>
      obtain ⟨enabled, x, hx, rfl⟩ := advance_metric h
      have before : s.phase = .serving := serving
      rw [before] at enabled
      exact serving_step (ih before) enabled flushes hx
    | shutdown =>
      obtain ⟨_, rfl⟩ := advance_shutdown h
      exact absurd serving (beginShutdown_facts s).2.2.1
    | drained ok => exact absurd serving (drained_not_serving h)
  · exact fun _ => ⟨⟨rfl, by simp [App.initial, State.initial]⟩, rfl⟩

/- No entry exists twice, in any phase and whatever fails. -/
structure Single (s : App) : Prop where
  auditSerials : Serials s.audit
  metricSerials : Serials s.metric
  audit : held s.audit + (s.phase.remaining : Multiset (Item AuditEntry)) ≤
    (s.audit.enqueued : Multiset (Item AuditEntry))
  metric : held s.metric ≤ (s.metric.enqueued : Multiset (Item Reading))

theorem putSentinel_held {α : Type} (s : Batch.State α) : held (putSentinel s) = held s := by
  simp [held, putSentinel, State.waiting, List.filterMap_append]

theorem endDrain_held (s : App) (remaining : List (Item AuditEntry)) :
    held (endDrain remaining s).audit =
      held s.audit + (remaining : Multiset (Item AuditEntry)) := by
  simp only [endDrain, cancelWorkers, held, State.waiting, ← Multiset.coe_add]
  rw [add_right_comm (s.audit.persisted : Multiset (Item AuditEntry)), add_right_comm]

theorem advance_single {a : Action} (ok : Single s) (h : advance s a = some t) : Single t := by
  cases a with
  | audit e =>
    obtain ⟨_, x, hx, rfl⟩ := advance_audit h
    exact ⟨step_serials ok.auditSerials hx, ok.metricSerials, step_held hx _ ok.audit, ok.metric⟩
  | metric e =>
    obtain ⟨_, x, hx, rfl⟩ := advance_metric h
    have bounded := step_held hx 0 (by simpa using ok.metric)
    exact ⟨ok.auditSerials, step_serials ok.metricSerials hx, ok.audit, by simpa using bounded⟩
  | shutdown =>
    obtain ⟨serving, rfl⟩ := advance_shutdown h
    obtain ⟨audit, remaining, _, metric⟩ := beginShutdown_facts s
    have moved : held (beginShutdown s).audit + ((beginShutdown s).phase.remaining : Multiset _) =
        held s.audit := by
      rw [audit, remaining]
      simp [held, State.waiting]
    have auditBound := ok.audit
    simp only [serving, Phase.remaining, Multiset.coe_nil, add_zero] at auditBound
    refine ⟨by rw [audit]; exact ok.auditSerials, ?_, by rw [moved, audit]; exact auditBound, ?_⟩
    · rcases metric with same | put
      · rw [same]; exact ok.metricSerials
      · rw [put]; exact ok.metricSerials
    · rcases metric with same | put
      · rw [same]; exact ok.metric
      · rw [put, putSentinel_held]; exact ok.metric
  | drained success =>
    obtain ⟨remaining, draining, rfl⟩ := advance_drained h
    have auditBound := ok.audit
    simp only [draining, Phase.remaining] at auditBound
    cases success with
    | true =>
      refine ⟨ok.auditSerials, ok.metricSerials, ?_, ?_⟩
      · rw [if_pos rfl, endDrain_held]
        simpa [endDrain, cancelWorkers, Phase.remaining] using auditBound
      · exact le_of_eq_of_le (putSentinel_held s.metric) ok.metric
    | false =>
      refine ⟨ok.auditSerials, ok.metricSerials, ?_, ok.metric⟩
      simpa [Phase.remaining] using le_trans (Multiset.le_add_right _ _) auditBound

theorem run_single (run : Runs.exec advance .initial es = some s) : Single s := by
  have initial : Single .initial :=
    ⟨rfl, rfl, by simp [App.initial, State.initial, held, State.waiting, Phase.remaining],
      by simp [App.initial, State.initial, held, State.waiting]⟩
  exact Runs.invariant advance (fun _ _ _ ok h => advance_single ok h) initial run

end Serving

/- The table holds each of these entries exactly once. -/
def EachOnce {α : Type} (xs table : List (Item α)) : Prop := (∀ x ∈ xs, x ∈ table) ∧ table.Nodup

section Completion
variable {s t : App} {es fs : List Action}

theorem persisted_nodup {α : Type} {s : Batch.State α} (serials : Serials s) (extra : Multiset (Item α))
    (bounded : held s + extra ≤ (s.enqueued : Multiset (Item α))) : s.persisted.Nodup := by
  have stored : (s.persisted : Multiset (Item α)) ≤ held s := by
    rw [held, add_assoc]
    exact Multiset.le_add_right _ _
  have total := le_trans stored (le_trans (Multiset.le_add_right _ extra) bounded)
  exact Multiset.coe_nodup.mp (Multiset.nodup_of_le total (Multiset.coe_nodup.mpr (enqueued_nodup serials)))

/- An entry of the audit trail that will be in the table once the shutdown is over. -/
def AuditLanding (x : Item AuditEntry) (s : App) : Prop :=
  s.phase ≠ .serving ∧ (Landing x s.audit ∨ x ∈ s.phase.remaining)

theorem advance_auditLanding {a : Action} {x : Item AuditEntry} (landing : AuditLanding x s)
    (ok : a.auditOk = true) (h : advance s a = some t) : AuditLanding x t := by
  cases a with
  | audit e =>
    obtain ⟨_, y, hy, rfl⟩ := advance_audit h
    exact ⟨landing.1, landing.2.imp_left (fun l => step_landing l ok hy)⟩
  | metric e =>
    obtain ⟨_, y, _, rfl⟩ := advance_metric h
    exact landing
  | shutdown => exact absurd (advance_shutdown h).1 landing.1
  | drained success =>
    cases (show success = true from ok)
    obtain ⟨remaining, draining, rfl⟩ := advance_drained h
    refine ⟨by simp [endDrain, cancelWorkers], .inl ?_⟩
    rcases landing.2 with (stored | pending) | drained
    · exact .inl (List.mem_append_left _ stored)
    · exact .inr pending
    · rw [draining] at drained
      exact .inl (List.mem_append_right _ drained)

/-- A reading that will be in the table once the shutdown is over. -/
theorem advance_metricLanding {a : Action} {x : Item Reading} (landing : Landing x s.metric)
    (ok : a.metricOk = true) (h : advance s a = some t) : Landing x t.metric := by
  cases a with
  | audit e =>
    obtain ⟨_, y, _, rfl⟩ := advance_audit h
    exact landing
  | metric e =>
    obtain ⟨_, y, hy, rfl⟩ := advance_metric h
    exact step_landing landing ok hy
  | shutdown =>
    obtain ⟨_, rfl⟩ := advance_shutdown h
    rcases (beginShutdown_facts s).2.2.2 with same | put
    · rw [same]; exact landing
    · rw [put]; exact landing
  | drained success =>
    obtain ⟨remaining, _, rfl⟩ := advance_drained h
    cases success <;> exact landing

theorem landing_ended {α : Type} {x : Item α} {s : Batch.State α} (landing : Landing x s)
    (ended : s.point.ended = true) : x ∈ s.persisted := by
  rcases landing with stored | ⟨_, flushing⟩
  · exact stored
  · cases point : s.point <;> simp_all [Point.flushing, Point.ended]

/- The shutdown in which the workers get no turn before they are cancelled. -/
def stopped (s : App) : App where
  audit := { s.audit with queue := [], persisted := s.audit.persisted ++ s.audit.waiting }
  metric := putSentinel s.metric
  phase := .awaiting

theorem stopped_reached (serving : s.phase = .serving) :
    ∃ fs, (∀ a ∈ fs, a = .drained true) ∧ Runs.exec advance s (.shutdown :: fs) = some (stopped s) := by
  have first : advance s .shutdown = some (beginShutdown s) := by simp only [advance, serving]
  by_cases empty : s.audit.waiting = []
  · refine ⟨[], by simp, (Runs.exec_cons advance).mpr ⟨_, first, ?_⟩⟩
    simp [beginShutdown_idle empty, stopped, empty]
  · refine ⟨[.drained true], by simp, (Runs.exec_cons advance).mpr ⟨_, first, ?_⟩⟩
    rw [beginShutdown_busy empty]
    rfl

theorem stopped_then {a : Action} (serving : s.phase = .serving) (last : advance (stopped s) a = some t) :
    ∃ fs, (∀ b ∈ fs, b = .drained true ∨ b = a) ∧
      Runs.exec advance s (.shutdown :: fs) = some t := by
  obtain ⟨fs, drains, reached⟩ := stopped_reached serving
  refine ⟨fs ++ [a], ?_, ?_⟩
  · intro b hb
    rcases List.mem_append.mp hb with hb | hb
    · exact .inl (drains b hb)
    · exact .inr (List.mem_singleton.mp hb)
  · have rest : Runs.exec advance (stopped s) [a] = some t := by simp [Runs.exec, last]
    have whole : Runs.exec advance s ((.shutdown :: fs) ++ [a]) = some t := by
      apply (Runs.exec_append advance).mpr
      exact ⟨stopped s, reached, rest⟩
    exact whole

theorem elsewhere {α : Type} {s : Batch.State α} (serials : Serials s) (accounted : Accounted s)
    (x : Item α) :
    (x ∈ s.batch → x ∉ s.persisted ∧ x ∉ s.waiting) ∧
      (x ∈ s.waiting → x ∉ s.persisted ∧ x ∉ s.batch) := by
  have nodup := enqueued_nodup serials
  rw [← show s.persisted ++ s.batch ++ s.waiting = s.enqueued from accounted] at nodup
  obtain ⟨front, _, apart⟩ := List.nodup_append.mp nodup
  obtain ⟨_, _, inner⟩ := List.nodup_append.mp front
  constructor
  · intro hb
    refine ⟨fun hp => inner x hp x hb rfl, fun hw => ?_⟩
    exact apart x (List.mem_append_right _ hb) x hw rfl
  · intro hw
    exact ⟨fun hp => apart x (List.mem_append_left _ hp) x hw rfl,
      fun hb => apart x (List.mem_append_right _ hb) x hw rfl⟩

/-- In the loop, a worker that is not polling has a flush under way. -/
theorem looping_flushing {α : Type} {s : Batch.State α} (looping : Looping s) (busy : s.point ≠ .polling) :
    s.point.flushing = true := by
  have inside := looping.1
  cases point : s.point <;> simp_all [Point.flushing, Point.looping]

theorem accounted_mem {α : Type} {s : Batch.State α} (accounted : Accounted s) (x : Item α) :
    x ∈ s.enqueued ↔ (x ∈ s.persisted ∨ x ∈ s.batch) ∨ x ∈ s.waiting := by
  rw [← show _ = s.enqueued from accounted]
  simp only [List.mem_append]

/-- What a worker holds lands unless it is polling with it. -/
theorem idle_landing {α : Type} {s : Batch.State α} {x : Item α} (looping : Looping s)
    (idle : ¬ (s.point = .polling ∧ s.batch ≠ [])) (taken : x ∈ s.persisted ∨ x ∈ s.batch) :
    Landing x s := by
  obtain stored | batched := taken
  · exact .inl stored
  · have busy : s.point ≠ .polling := fun polling => idle ⟨polling, List.ne_nil_of_mem batched⟩
    exact .inr ⟨batched, looping_flushing looping busy⟩

/-- A polling worker that is cancelled leaves the table with what the drain has put there. -/
theorem audit_cancelled (serving : s.phase = .serving) (polling : s.audit.point = .polling) :
    ∃ fs t, Runs.exec advance s (.shutdown :: fs) = some t ∧ (∀ a ∈ fs, a.auditOk = true) ∧
      t.phase = .awaiting ∧ t.audit.point.ended = true ∧
      t.audit.persisted = s.audit.persisted ++ s.audit.waiting := by
  have last : advance (stopped s) (.audit (.cancelled true)) =
      some { stopped s with audit := leave .cancelled (stopped s).audit } := by
    simp [advance, stopped, Phase.enables, step, polling]
  obtain ⟨fs, allowed, whole⟩ := stopped_then serving last
  have flushes : ∀ a ∈ fs, a.auditOk = true := by
    intro a ha
    rcases allowed a ha with rfl | rfl <;> rfl
  exact ⟨fs, _, whole, flushes, rfl, rfl, rfl⟩

/-- A cancelled metric worker adds at most the batch that it was flushing. -/
theorem metric_cancelled (serving : s.phase = .serving) (looping : Looping s.metric) :
    ∃ fs t, Runs.exec advance s (.shutdown :: fs) = some t ∧ (∀ a ∈ fs, a.metricOk = true) ∧
      t.phase = .awaiting ∧ t.metric.point.ended = true ∧
      ∀ x ∈ t.metric.persisted, x ∈ s.metric.persisted ∨ s.metric.point ≠ .polling ∧ x ∈ s.metric.batch := by
  have flushes : ∀ fs : List Action, (∀ a ∈ fs, a = Action.drained true ∨ a = .metric (.cancelled true)) →
      ∀ a ∈ fs, a.metricOk = true := by
    intro fs allowed a ha
    rcases allowed a ha with rfl | rfl <;> rfl
  by_cases polling : s.metric.point = .polling
  · have last : advance (stopped s) (.metric (.cancelled true)) =
        some { stopped s with metric := leave .cancelled (stopped s).metric } := by
      simp [advance, stopped, Phase.enables, step, putSentinel, polling]
    obtain ⟨fs, allowed, whole⟩ := stopped_then serving last
    exact ⟨fs, _, whole, flushes fs allowed, rfl, rfl, fun x stored => .inl stored⟩
  · have flushing := looping_flushing looping polling
    have last : advance (stopped s) (.metric (.cancelled true)) =
        some { stopped s with metric := flushTo .cancelled (stopped s).metric } := by
      cases point : s.metric.point <;>
        simp_all [advance, stopped, Phase.enables, step, putSentinel, Point.flushing]
    obtain ⟨fs, allowed, whole⟩ := stopped_then serving last
    refine ⟨fs, _, whole, flushes fs allowed, rfl, rfl, fun x stored => ?_⟩
    exact (List.mem_append.mp stored).imp_right (fun batched => ⟨polling, batched⟩)

/-- The audit trail survives a shutdown, whatever is interleaved with it, exactly when the
worker is not polling with a batch in hand: the drain takes the queue and the sentinel,
so the loop never ends and the cancellation discards the batch. -/
theorem audit_shutdown_iff (run : Runs.exec advance .initial es = some s)
    (ok : ∀ a ∈ es, a.auditOk = true) (serving : s.phase = .serving) :
    (∀ fs t, Runs.exec advance s (.shutdown :: fs) = some t → (∀ a ∈ fs, a.auditOk = true) →
      t.phase = .awaiting → t.audit.point.ended = true →
        EachOnce s.audit.enqueued t.audit.persisted) ↔
    ¬ (s.audit.point = .polling ∧ s.audit.batch ≠ []) := by
  obtain ⟨looping, accounted⟩ := audit_serving run ok serving
  constructor
  · rintro kept ⟨polling, busy⟩
    obtain ⟨fs, t, whole, flushes, awaiting, ended, persisted⟩ := audit_cancelled serving polling
    obtain ⟨x, hx⟩ := List.exists_mem_of_ne_nil _ busy
    have enqueued : x ∈ s.audit.enqueued := (accounted_mem accounted x).mpr (.inl (.inr hx))
    have stored := (kept fs t whole flushes awaiting ended).1 x enqueued
    have absent := (elsewhere (run_single run).auditSerials accounted x).1 hx
    rw [persisted] at stored
    rcases List.mem_append.mp stored with stored | stored
    · exact absent.1 stored
    · exact absent.2 stored
  · intro idle fs t whole flushes awaiting ended
    obtain ⟨u, first, rest⟩ := (Runs.exec_cons advance).mp whole
    obtain ⟨_, rfl⟩ := advance_shutdown first
    obtain ⟨audit, remaining, left, _⟩ := beginShutdown_facts s
    have single := run_single ((Runs.exec_append advance).mpr ⟨s, run, whole⟩)
    refine ⟨?_, persisted_nodup single.auditSerials _ single.audit⟩
    intro x hx
    have landing : AuditLanding x (beginShutdown s) := by
      refine ⟨left, ?_⟩
      rw [audit, remaining]
      obtain taken | waiting := (accounted_mem accounted x).mp hx
      · have landed := idle_landing looping idle taken
        exact .inl landed
      · exact .inr waiting
    have final : AuditLanding x t :=
      Runs.invariant_along advance (fun _ _ _ l ok h => advance_auditLanding l ok h) landing
        (Runs.along_of_forall advance flushes) rest
    rcases final.2 with landed | drained
    · exact landing_ended landed ended
    · rw [awaiting] at drained
      cases drained

/-- The readings survive a shutdown exactly when nothing is left to do: no reading waits in
the queue, which nobody drains, and the worker is not polling with a batch in hand. -/
theorem metric_shutdown_iff (run : Runs.exec advance .initial es = some s)
    (ok : ∀ a ∈ es, a.metricOk = true) (serving : s.phase = .serving) :
    (∀ fs t, Runs.exec advance s (.shutdown :: fs) = some t → (∀ a ∈ fs, a.metricOk = true) →
      t.phase = .awaiting → t.metric.point.ended = true →
        EachOnce s.metric.enqueued t.metric.persisted) ↔
    s.metric.waiting = [] ∧ ¬ (s.metric.point = .polling ∧ s.metric.batch ≠ []) := by
  obtain ⟨looping, accounted⟩ := metric_serving run ok serving
  constructor
  · intro kept
    obtain ⟨fs, t, whole, flushes, awaiting, ended, added⟩ := metric_cancelled serving looping
    have inside := elsewhere (run_single run).metricSerials accounted
    have stored : ∀ x ∈ s.metric.enqueued,
        x ∈ s.metric.persisted ∨ s.metric.point ≠ .polling ∧ x ∈ s.metric.batch :=
      fun x hx => added x ((kept fs t whole flushes awaiting ended).1 x hx)
    constructor
    · refine List.eq_nil_iff_forall_not_mem.mpr (fun x hx => ?_)
      have absent := (inside x).2 hx
      obtain persisted | ⟨_, batched⟩ := stored x ((accounted_mem accounted x).mpr (.inr hx))
      · exact absent.1 persisted
      · exact absent.2 batched
    · rintro ⟨polling, busy⟩
      obtain ⟨x, hx⟩ := List.exists_mem_of_ne_nil _ busy
      obtain persisted | ⟨flushing, _⟩ := stored x ((accounted_mem accounted x).mpr (.inl (.inr hx)))
      · exact ((inside x).1 hx).1 persisted
      · exact flushing polling
  · rintro ⟨empty, idle⟩ fs t whole flushes awaiting ended
    have single := run_single ((Runs.exec_append advance).mpr ⟨s, run, whole⟩)
    refine ⟨?_, persisted_nodup single.metricSerials 0 (by simpa using single.metric)⟩
    intro x hx
    have landing : Landing x s.metric := by
      obtain taken | waiting := (accounted_mem accounted x).mp hx
      · exact idle_landing looping idle taken
      · rw [empty] at waiting
        cases waiting
    have along : ∀ a ∈ Action.shutdown :: fs, a.metricOk = true := by
      intro a ha
      rcases List.mem_cons.mp ha with rfl | ha
      · rfl
      · exact flushes a ha
    have final : Landing x t.metric :=
      Runs.invariant_along (I := fun s => Landing x s.metric) advance
        (fun _ _ _ l ok h => advance_metricLanding l ok h) landing
        (Runs.along_of_forall advance along) whole
    exact landing_ended final ended

end Completion

/- What a graceful shutdown is expected to do, for each of the two tables: from every state
in which it can begin, and for every interleaving with the rest of the application. -/
def AuditShutdownKeepsEntries : Prop :=
  ∀ es s, Runs.exec advance .initial es = some s → (∀ a ∈ es, a.auditOk = true) →
    s.phase = .serving → ∀ fs t, Runs.exec advance s (.shutdown :: fs) = some t →
      (∀ a ∈ fs, a.auditOk = true) → t.phase = .awaiting → t.audit.point.ended = true →
        EachOnce s.audit.enqueued t.audit.persisted

def MetricShutdownKeepsReadings : Prop :=
  ∀ es s, Runs.exec advance .initial es = some s → (∀ a ∈ es, a.metricOk = true) →
    s.phase = .serving → ∀ fs t, Runs.exec advance s (.shutdown :: fs) = some t →
      (∀ a ∈ fs, a.metricOk = true) → t.phase = .awaiting → t.metric.point.ended = true →
        EachOnce s.metric.enqueued t.metric.persisted

/- Three audit entries, two of which the worker has not read yet, and one that it has only read. -/
def logins : List (Batch.Event AuditCall) :=
  [.call loginCall, .get, .timeout, .flushed, .call loginCall, .call loginCall]

def queuedLogins : App :=
  ⟨⟨[some ⟨1, makeEntry loginCall⟩, some ⟨2, makeEntry loginCall⟩], .polling, [], [⟨0, makeEntry loginCall⟩],
    [⟨0, makeEntry loginCall⟩, ⟨1, makeEntry loginCall⟩, ⟨2, makeEntry loginCall⟩]⟩, .initial, .serving⟩

def batchedLogin : App := ⟨⟨[], .polling, [⟨0, makeEntry loginCall⟩], [], [⟨0, makeEntry loginCall⟩]⟩,
  .initial, .serving⟩

/-- The drain stores the entries of the queue. -/
theorem audit_shutdown_drained_logins :
    ∃ t, Runs.exec advance queuedLogins [.shutdown, .drained true, .audit (.cancelled true)] = some t ∧
      t.audit.persisted.length = 3 ∧ EachOnce queuedLogins.audit.enqueued t.audit.persisted := by
  have run : Runs.exec advance .initial (logins.map .audit) = some queuedLogins := rfl
  have survives := (audit_shutdown_iff run (by simp [logins, Action.auditOk, Event.flushesOk]) rfl).mpr
    (by simp [queuedLogins])
  exact ⟨_, rfl, rfl,
    survives [.drained true, .audit (.cancelled true)] _ rfl (by simp [Action.auditOk, Event.flushesOk]) rfl rfl⟩

theorem audit_shutdown_loses_batch : ¬ AuditShutdownKeepsEntries := by
  intro claim
  have kept := claim [.audit (.call loginCall), .audit .get] batchedLogin rfl
    (by simp [Action.auditOk, Event.flushesOk]) rfl [.audit (.cancelled true)] _ rfl
    (by simp [Action.auditOk, Event.flushesOk]) rfl rfl
  have stored := kept.1 ⟨0, makeEntry loginCall⟩ (by simp [batchedLogin])
  contradiction

/- Two readings whose flush has begun, and one that is still in the queue. -/
def cpuReadings : List (Batch.Event Reading) := [.call cpuReading, .call cpuReading, .get, .get, .timeout]

def flushingReadings : App :=
  ⟨.initial, ⟨[], .idleFlush, [⟨0, cpuReading⟩, ⟨1, cpuReading⟩], [], [⟨0, cpuReading⟩, ⟨1, cpuReading⟩]⟩, .serving⟩

def queuedReading : App :=
  ⟨.initial, ⟨[some ⟨0, cpuReading⟩], .polling, [], [], [⟨0, cpuReading⟩]⟩, .serving⟩

/-- The flush that the cancellation interrupts reaches the database. -/
theorem metric_shutdown_flushing_readings :
    ∃ t, Runs.exec advance flushingReadings [.shutdown, .metric (.cancelled true)] = some t ∧
      t.metric.persisted.length = 2 ∧ EachOnce flushingReadings.metric.enqueued t.metric.persisted := by
  have run : Runs.exec advance .initial (cpuReadings.map .metric) = some flushingReadings := rfl
  have survives := (metric_shutdown_iff run (by simp [cpuReadings, Action.metricOk, Event.flushesOk]) rfl).mpr
    (by simp [flushingReadings, State.waiting])
  exact ⟨_, rfl, rfl, survives [.metric (.cancelled true)] _ rfl (by simp [Action.metricOk, Event.flushesOk]) rfl rfl⟩

theorem metric_shutdown_loses_queue : ¬ MetricShutdownKeepsReadings := by
  intro claim
  have kept := claim [.metric (.call cpuReading)] queuedReading rfl
    (by simp [Action.metricOk, Event.flushesOk]) rfl [.metric (.cancelled true)] _ rfl
    (by simp [Action.metricOk, Event.flushesOk]) rfl rfl
  have stored := kept.1 ⟨0, cpuReading⟩ (by simp [queuedReading])
  contradiction

end VMachine.Lifespan
