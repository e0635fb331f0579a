import Mathlib.Data.List.Nodup
import VMachine.Lib.Fifo
import VMachine.Batch.Producers

/-! What the batch workers keep. Every step that does not end the worker refines a step
of a first-in first-out pipe, so the persisted entries, the batch and the queue together
are the entries enqueued so far, in order. A flush that raises is the other case: it ends
the worker, and the batch is gone with it. -/
namespace VMachine.Batch

section Pipe
variable {κ α : Type} {w : Worker κ α} {s t : State α} {e : Event κ}

def State.pipe (s : State α) : Fifo.Pipe (Item α) := ⟨s.persisted, s.batch ++ s.waiting⟩

/- The steps that keep the batch: no cancellation, and no flush error but the one that
the handler of the poll timeout catches. -/
def Keeps (s : State α) : Event κ → Prop
  | .flushRaised error => s.point = .sizeFlush ∧ error = .timeout
  | .cancelled _ => False
  | _ => True

instance (s : State α) (e : Event κ) : Decidable (Keeps s e) :=
  match e with
  | .flushRaised error => inferInstanceAs (Decidable (s.point = .sizeFlush ∧ error = .timeout))
  | .cancelled _ => .isFalse id
  | .call _ | .sentinel | .get | .timeout | .flushed => .isTrue trivial

theorem afterLoop_pipe (s : State α) :
    (afterLoop s).pipe = s.pipe ∧ (afterLoop s).enqueued = s.enqueued := by
  unfold afterLoop
  split <;> exact ⟨rfl, rfl⟩

theorem onTimeout_pipe (s : State α) :
    (onTimeout s).pipe = s.pipe ∧ (onTimeout s).enqueued = s.enqueued := by
  unfold onTimeout
  split <;> exact ⟨rfl, rfl⟩

theorem appendEntry_pipe (s : State α) (x : Item α) :
    (appendEntry w s x).pipe = ⟨s.persisted, s.batch ++ x :: s.waiting⟩ ∧
      (appendEntry w s x).enqueued = s.enqueued := by
  unfold appendEntry
  split <;> exact ⟨by simp [State.pipe, State.waiting], rfl⟩

theorem put_refines (s : State α) (k : κ) :
    ∃ xs, (put w s k).enqueued = s.enqueued ++ xs ∧ Fifo.Step s.pipe xs (put w s k).pipe := by
  rcases put_cases w s k with same | ⟨x, _, eq⟩
  · exact ⟨[], by simp [same], by rw [same]; exact Fifo.step_silent _⟩
  · refine ⟨[x], by simp [eq], ?_⟩
    have accepted := Fifo.Step.accept s.pipe [x]
    simpa [eq, State.pipe, State.waiting, List.filterMap_append] using accepted

/-- The worker refines the pipe: a step accepts what the producer puts, moves the batch
to the store, or is silent. -/
theorem step_refines (keeps : Keeps s e) (h : step w s e = some t) :
    ∃ xs, t.enqueued = s.enqueued ++ xs ∧ Fifo.Step s.pipe xs t.pipe := by
  cases e with
  | call k =>
    cases Option.some.inj h
    exact put_refines s k
  | sentinel =>
    cases Option.some.inj h
    refine ⟨[], by simp [putSentinel], ?_⟩
    have same : (putSentinel s).pipe = s.pipe := by
      simp [putSentinel, State.pipe, State.waiting, List.filterMap_append]
    exact same ▸ Fifo.step_silent _
  | get =>
    obtain ⟨_, ⟨q, hq, rfl⟩ | ⟨x, q, hq, rfl⟩⟩ := step_get h
    · have ha := afterLoop_pipe { s with queue := q }
      have same : State.pipe { s with queue := q } = s.pipe := by
        simp [State.pipe, State.waiting, hq]
      exact ⟨[], by simp [ha.2], by rw [ha.1, same]; exact Fifo.step_silent _⟩
    · have ha := appendEntry_pipe (w := w) { s with queue := q } x
      have same : s.pipe = ⟨s.persisted, s.batch ++ x :: State.waiting { s with queue := q }⟩ := by
        simp [State.pipe, State.waiting, hq]
      exact ⟨[], by simp [ha.2], by rw [ha.1, same]; exact Fifo.step_silent _⟩
  | timeout =>
    obtain ⟨_, rfl⟩ := step_timeout h
    have ho := onTimeout_pipe s
    exact ⟨[], by simp [ho.2], by rw [ho.1]; exact Fifo.step_silent _⟩
  | flushed =>
    have moved := Fifo.Step.store s.persisted s.batch s.waiting
    rcases step_flushed h with ⟨_, rfl⟩ | ⟨_, rfl⟩
    · exact ⟨[], by simp [flushTo], moved⟩
    · exact ⟨[], by simp [flushTo], moved⟩
  | flushRaised error =>
    obtain ⟨_, ⟨_, _, rfl⟩ | ⟨uncaught, _⟩⟩ := step_flushRaised h
    · have ho := onTimeout_pipe s
      exact ⟨[], by simp [ho.2], by rw [ho.1]; exact Fifo.step_silent _⟩
    · exact absurd keeps uncaught
  | cancelled landed => exact absurd keeps id

/- Exactly the enqueued entries, each once and in the order they were put. -/
def Accounted (s : State α) : Prop := s.persisted ++ s.batch ++ s.waiting = s.enqueued

theorem step_accounted (ok : Accounted s) (keeps : Keeps s e) (h : step w s e = some t) :
    Accounted t := by
  obtain ⟨xs, grown, refined⟩ := step_refines keeps h
  have contents := Fifo.step_contents refined
  simp only [Fifo.Pipe.contents, State.pipe, ← List.append_assoc] at contents
  rw [Accounted, contents, grown, ok]

/-- Nothing but a producer's call puts an entry. -/
theorem step_silent (silent : ∀ k, e ≠ .call k) (h : step w s e = some t) : t.enqueued = s.enqueued := by
  cases e with
  | call k => exact absurd rfl (silent k)
  | sentinel =>
    cases Option.some.inj h
    rfl
  | get =>
    obtain ⟨_, ⟨q, _, rfl⟩ | ⟨x, q, _, rfl⟩⟩ := step_get h
    · exact (afterLoop_pipe { s with queue := q }).2
    · exact (appendEntry_pipe { s with queue := q } x).2
  | timeout =>
    obtain ⟨_, rfl⟩ := step_timeout h
    exact (onTimeout_pipe s).2
  | flushed => rcases step_flushed h with ⟨_, rfl⟩ | ⟨_, rfl⟩ <;> rfl
  | flushRaised error =>
    obtain ⟨_, ⟨_, _, rfl⟩ | ⟨_, rfl⟩⟩ := step_flushRaised h
    · exact (onTimeout_pipe s).2
    · rfl
  | cancelled landed =>
    rcases step_cancelled h with ⟨_, rfl⟩ | ⟨_, rfl⟩
    · rfl
    · cases landed <;> rfl

theorem step_enqueued (h : step w s e = some t) :
    t.enqueued = s.enqueued ∨
      ∃ x : Item α, x.serial = s.enqueued.length ∧ t.enqueued = s.enqueued ++ [x] := by
  cases e with
  | call k =>
    cases Option.some.inj h
    rcases put_cases w s k with same | ⟨x, serial, eq⟩
    · exact .inl (congrArg State.enqueued same)
    · exact .inr ⟨x, serial, congrArg State.enqueued eq⟩
  | sentinel | get | timeout | flushed | flushRaised | cancelled => exact .inl (step_silent (by simp) h)

/- What a producer's call puts. -/
def Event.entries (w : Worker κ α) : Event κ → List α
  | .call k => (w.entryOf k).toList
  | _ => []

theorem step_entries (h : step w s e = some t) :
    t.enqueued.map Item.entry = s.enqueued.map Item.entry ++ e.entries w := by
  cases e with
  | call k =>
    cases Option.some.inj h
    unfold put
    split
    · rename_i dropped
      simp [Event.entries, dropped]
    · rename_i a puts
      simp [Event.entries, puts]
  | sentinel | get | timeout | flushed | flushRaised | cancelled => simp [step_silent (by simp) h, Event.entries]

/- What reaches the table: the batch of a flush that returns, or that had landed when it was
cancelled. -/
def commits (s : State α) : Event κ → List (Item α)
  | .flushed => s.batch
  | .cancelled landed => if landed && s.point.flushing then s.batch else []
  | _ => []

theorem step_persisted (h : step w s e = some t) : t.persisted = s.persisted ++ commits s e := by
  have idle (s : State α) : (onTimeout s).persisted = s.persisted := congrArg Fifo.Pipe.stored (onTimeout_pipe s).1
  cases e with
  | call k =>
    cases Option.some.inj h
    rcases put_cases w s k with same | ⟨x, _, eq⟩
    · simp [same, commits]
    · simp [eq, commits]
  | sentinel =>
    cases Option.some.inj h
    simp [putSentinel, commits]
  | get =>
    obtain ⟨_, ⟨q, _, rfl⟩ | ⟨x, q, _, rfl⟩⟩ := step_get h
    · have kept := congrArg Fifo.Pipe.stored (afterLoop_pipe { s with queue := q }).1
      simp only [commits, List.append_nil]
      exact kept
    · have kept := congrArg Fifo.Pipe.stored (appendEntry_pipe (w := w) { s with queue := q } x).1
      simp only [commits, List.append_nil]
      exact kept
  | timeout =>
    obtain ⟨_, rfl⟩ := step_timeout h
    simp [idle, commits]
  | flushed => rcases step_flushed h with ⟨_, rfl⟩ | ⟨_, rfl⟩ <;> rfl
  | flushRaised error =>
    obtain ⟨_, ⟨_, _, rfl⟩ | ⟨_, rfl⟩⟩ := step_flushRaised h
    · simp [idle, commits]
    · simp [leave, commits]
  | cancelled landed =>
    rcases step_cancelled h with ⟨polling, rfl⟩ | ⟨flushing, rfl⟩
    · simp [leave, commits, polling, Point.flushing]
    · cases landed <;> simp [leave, flushTo, commits, flushing]

/- The serial numbers count the puts, so no two entries are the same object. -/
def Serials (s : State α) : Prop :=
  s.enqueued.map Item.serial = List.range s.enqueued.length

theorem step_serials (ok : Serials s) (h : step w s e = some t) : Serials t := by
  rcases step_enqueued h with same | ⟨x, serial, grown⟩
  · simpa only [Serials, same] using ok
  · rw [Serials, grown, List.map_append, ok, List.length_append]
    simp [List.range_succ, serial]

theorem enqueued_nodup (ok : Serials s) : s.enqueued.Nodup :=
  List.Nodup.of_map Item.serial (ok ▸ List.nodup_range)

/- At the head of the loop the batch has room for one more entry. -/
def Room (w : Worker κ α) (s : State α) : Prop :=
  s.point = .polling → s.batch.length < w.batchSize

theorem onTimeout_room (s : State α) : Room w (onTimeout s) := by
  unfold Room onTimeout
  split
  · rename_i empty
    intro _
    simpa [List.isEmpty_iff.mp empty] using w.positive
  · intro polling
    contradiction

theorem appendEntry_room (s : State α) (x : Item α) : Room w (appendEntry w s x) := by
  unfold Room appendEntry
  split
  · intro polling
    contradiction
  · rename_i room
    exact fun _ => Nat.lt_of_not_le room

theorem step_room (ok : Room w s) (h : step w s e = some t) : Room w t := by
  cases e with
  | call k =>
    cases Option.some.inj h
    rcases put_cases w s k with same | ⟨x, _, eq⟩
    · rw [same]; exact ok
    · rw [eq]; exact ok
  | sentinel =>
    cases Option.some.inj h
    exact ok
  | get =>
    obtain ⟨hp, ⟨q, _, rfl⟩ | ⟨x, q, _, rfl⟩⟩ := step_get h
    · intro polling
      unfold afterLoop at polling
      split at polling <;> contradiction
    · exact appendEntry_room { s with queue := q } x
  | timeout =>
    obtain ⟨_, rfl⟩ := step_timeout h
    exact onTimeout_room s
  | flushed =>
    rcases step_flushed h with ⟨_, rfl⟩ | ⟨_, rfl⟩
    · exact fun _ => w.positive
    · intro polling; contradiction
  | flushRaised error =>
    obtain ⟨_, ⟨_, _, rfl⟩ | ⟨_, rfl⟩⟩ := step_flushRaised h
    · exact onTimeout_room s
    · intro polling; contradiction
  | cancelled landed =>
    rcases step_cancelled h with ⟨_, rfl⟩ | ⟨_, rfl⟩
    · intro polling; contradiction
    · intro polling
      cases landed <;> contradiction

/- The flush inside the try is awaited with a full batch, never a longer one. -/
def Full (w : Worker κ α) (s : State α) : Prop :=
  s.point = .sizeFlush → s.batch.length = w.batchSize

theorem step_full (room : Room w s) (ok : Full w s) (h : step w s e = some t) : Full w t := by
  have idle : Full w (onTimeout s) := by
    unfold Full onTimeout
    split <;> (intro full; contradiction)
  cases e with
  | call k =>
    cases Option.some.inj h
    rcases put_cases w s k with same | ⟨x, _, eq⟩
    · rw [same]; exact ok
    · rw [eq]; exact ok
  | sentinel =>
    cases Option.some.inj h
    exact ok
  | get =>
    obtain ⟨hp, ⟨q, _, rfl⟩ | ⟨x, q, _, rfl⟩⟩ := step_get h
    · intro full
      unfold afterLoop at full
      split at full <;> contradiction
    · have short := room hp
      unfold Full appendEntry
      split
      · rename_i reached
        simp only [List.length_append, List.length_singleton] at reached ⊢
        omega
      · intro full
        rw [hp] at full
        contradiction
  | timeout =>
    obtain ⟨_, rfl⟩ := step_timeout h
    exact idle
  | flushed => rcases step_flushed h with ⟨_, rfl⟩ | ⟨_, rfl⟩ <;> (intro full; contradiction)
  | flushRaised error =>
    obtain ⟨_, ⟨_, _, rfl⟩ | ⟨_, rfl⟩⟩ := step_flushRaised h
    · exact idle
    · intro full; contradiction
  | cancelled landed =>
    rcases step_cancelled h with ⟨_, rfl⟩ | ⟨_, rfl⟩
    · intro full; contradiction
    · intro full
      cases landed <;> contradiction

end Pipe

section Orderly
variable {κ α : Type} {w : Worker κ α} {s : State α} {es : List (Event κ)}

/- Normal operation: every flush returns and nothing is cancelled. -/
def Event.orderly : Event κ → Bool
  | .flushRaised _ | .cancelled _ => false
  | _ => true

structure Conserved (w : Worker κ α) (s : State α) : Prop where
  accounted : s.persisted ++ s.batch ++ s.waiting = s.enqueued
  distinct : s.enqueued.Nodup
  room : s.point = .polling → s.batch.length < w.batchSize
  full : s.point = .sizeFlush → s.batch.length = w.batchSize

theorem orderly_keeps {e : Event κ} (orderly : e.orderly = true) (s : State α) : Keeps s e := by
  cases e with
  | flushRaised error => cases orderly
  | cancelled landed => cases orderly
  | call | sentinel | get | timeout | flushed => trivial

theorem run_serials (run : Runs.exec (step w) .initial es = some s) : Serials s := by
  have initial : Serials (State.initial : State α) := rfl
  exact Runs.invariant (step w) (fun _ _ _ ok h => step_serials ok h) initial run

theorem run_conserved (run : Runs.exec (step w) .initial es = some s)
    (orderly : ∀ e ∈ es, e.orderly = true) : Conserved w s := by
  have initial : Accounted (State.initial : State α) := rfl
  have accounted : Accounted s :=
    Runs.invariant_along (step w) (fun _ _ _ ok keeps h => step_accounted ok (orderly_keeps keeps _) h)
      initial (Runs.along_of_forall (step w) orderly) run
  have empty : Room w State.initial ∧ Full w State.initial :=
    ⟨fun _ => w.positive, by intro full; contradiction⟩
  have bounds : Room w s ∧ Full w s :=
    Runs.invariant (I := fun s => Room w s ∧ Full w s) (step w)
      (fun _ _ _ ok h => ⟨step_room ok.1 h, step_full ok.1 ok.2 h⟩) empty run
  exact ⟨accounted, enqueued_nodup (run_serials run), bounds.1, bounds.2⟩

end Orderly

/-- Whatever the producers, the queue and the timer do, as long as every flush succeeds
the table, the batch and the queue hold the enqueued entries in order, each once, and at
the head of the loop the batch is shorter than the batch size. Reading the sentinel does
not change that. -/
theorem workers_conserve_entries :
    (∀ (es : List (Event AuditCall)) (s : State AuditEntry),
      Runs.exec (step auditFlushWorker) .initial es = some s →
        (∀ e ∈ es, e.orderly = true) → Conserved auditFlushWorker s) ∧
    (∀ (es : List (Event Reading)) (s : State Reading),
      Runs.exec (step metricFlushWorker) .initial es = some s →
        (∀ e ∈ es, e.orderly = true) → Conserved metricFlushWorker s) :=
  ⟨fun _ _ run orderly => run_conserved run orderly, fun _ _ run orderly => run_conserved run orderly⟩

/- An audit entry and a reading. -/
def loginCall : AuditCall := { uuid := "a1", actor := some "ops", action := some "login" }

def cpuReading : Reading := { metricName := "hypervisor_cpu_usage", source := "node-1", value := 42 }

/- A batch that is flushed since it is full, one entry that the timer flushes, and one that still waits. -/
def busyRun {κ : Type} (size : Nat) (k : κ) : List (Event κ) :=
  List.replicate (size + 2) (.call k) ++ List.replicate size .get ++ [.flushed, .get, .timeout, .flushed]

theorem workers_conserve_entries_busy_run :
    (∃ s, Runs.exec (step auditFlushWorker) .initial (busyRun 20 loginCall) = some s ∧
      (s.persisted.length, s.waiting.length) = (21, 1) ∧ Conserved auditFlushWorker s) ∧
    ∃ s, Runs.exec (step metricFlushWorker) .initial (busyRun 50 cpuReading) = some s ∧
      (s.persisted.length, s.waiting.length) = (51, 1) ∧ Conserved metricFlushWorker s := by
  have audit : (Runs.exec (step auditFlushWorker) .initial (busyRun 20 loginCall)).map
      (fun s => (s.persisted.length, s.waiting.length)) = some (21, 1) := by decide +kernel
  have metric : (Runs.exec (step metricFlushWorker) .initial (busyRun 50 cpuReading)).map
      (fun s => (s.persisted.length, s.waiting.length)) = some (51, 1) := by decide +kernel
  obtain ⟨s, first, entries⟩ := Option.map_eq_some_iff.mp audit
  obtain ⟨t, second, readings⟩ := Option.map_eq_some_iff.mp metric
  exact ⟨⟨s, first, entries, workers_conserve_entries.1 _ s first (by decide +kernel)⟩,
    ⟨t, second, readings, workers_conserve_entries.2 _ t second (by decide +kernel)⟩⟩

section Failures
variable {κ α : Type} {w : Worker κ α} {s t : State α} {es : List (Event κ)}

/- The events of a worker that nobody shuts down: flushes may raise. -/
def Event.working : Event κ → Bool
  | .sentinel | .cancelled _ => false
  | _ => true

structure Safe (s : State α) : Prop where
  running : s.point.ended = false
  held : ∀ x ∈ s.enqueued, x ∈ s.persisted ∨ x ∈ s.batch ∨ x ∈ s.waiting

/- The worker is in its loop, and no sentinel waits to end it. -/
def Looping (s : State α) : Prop := s.point.looping = true ∧ ∀ x ∈ s.queue, x ≠ none

theorem onTimeout_looping (ok : Looping s) : Looping (onTimeout s) := by
  unfold onTimeout
  split <;> exact ⟨rfl, ok.2⟩

theorem step_looping {e : Event κ} (ok : Looping s) (working : e.working = true) (keeps : Keeps s e)
    (h : step w s e = some t) : Looping t := by
  cases e with
  | call k =>
    cases Option.some.inj h
    rcases put_cases w s k with same | ⟨x, _, eq⟩
    · rw [same]; exact ok
    · rw [eq]
      refine ⟨ok.1, ?_⟩
      intro y hy
      rcases List.mem_append.mp hy with hy | hy
      · exact ok.2 y hy
      · simp [List.mem_singleton.mp hy]
  | sentinel => cases working
  | get =>
    obtain ⟨_, ⟨q, hq, rfl⟩ | ⟨x, q, hq, rfl⟩⟩ := step_get h
    · exact absurd rfl (ok.2 none (by simp [hq]))
    · have rest : ∀ y ∈ q, y ≠ none := fun y hy => ok.2 y (by simp [hq, hy])
      unfold appendEntry
      split
      · exact ⟨rfl, rest⟩
      · exact ⟨ok.1, rest⟩
  | timeout =>
    obtain ⟨_, rfl⟩ := step_timeout h
    exact onTimeout_looping ok
  | flushed =>
    rcases step_flushed h with ⟨_, rfl⟩ | ⟨final, _⟩
    · exact ⟨rfl, ok.2⟩
    · have inside := ok.1
      rw [final] at inside
      contradiction
  | flushRaised error =>
    obtain ⟨_, ⟨_, _, rfl⟩ | ⟨uncaught, _⟩⟩ := step_flushRaised h
    · exact onTimeout_looping ok
    · exact absurd keeps uncaught
  | cancelled landed => cases working

theorem looping_running (ok : Looping s) : s.point.ended = false := by
  have inside := ok.1
  cases hp : s.point <;> simp_all [Point.looping, Point.ended]

/-- Nothing restarts a worker that has ended. -/
theorem step_ended {e : Event κ} (ended : s.point.ended = true) (h : step w s e = some t) :
    t.point.ended = true := by
  cases e with
  | call k =>
    cases Option.some.inj h
    rcases put_cases w s k with same | ⟨x, _, eq⟩
    · rw [same]; exact ended
    · rw [eq]; exact ended
  | sentinel =>
    cases Option.some.inj h
    exact ended
  | get =>
    obtain ⟨hp, _⟩ := step_get h
    rw [hp] at ended
    contradiction
  | timeout =>
    obtain ⟨hp, _⟩ := step_timeout h
    rw [hp] at ended
    contradiction
  | flushed =>
    rcases step_flushed h with ⟨hp | hp, _⟩ | ⟨hp, _⟩ <;>
      (rw [hp] at ended; contradiction)
  | flushRaised error =>
    obtain ⟨hp, _⟩ := step_flushRaised h
    cases point : s.point <;> simp_all [Point.flushing, Point.ended]
  | cancelled landed =>
    rcases step_cancelled h with ⟨hp, _⟩ | ⟨hp, _⟩
    · rw [hp] at ended
      contradiction
    · cases point : s.point <;> simp_all [Point.flushing, Point.ended]

theorem failure_ends {e : Event κ} (working : e.working = true) (fails : ¬ Keeps s e)
    (h : step w s e = some t) : t.point.ended = true := by
  cases e with
  | flushRaised error =>
    obtain ⟨_, ⟨hp, he, _⟩ | ⟨_, rfl⟩⟩ := step_flushRaised h
    · exact absurd ⟨hp, he⟩ fails
    · rfl
  | sentinel | cancelled => cases working
  | call | get | timeout | flushed => exact absurd trivial fails

theorem running_keeps (run : Runs.exec (step w) s es = some t)
    (working : ∀ e ∈ es, e.working = true) (running : t.point.ended = false) :
    Runs.Along (step w) Keeps s es := by
  induction es generalizing s with
  | nil => trivial
  | cons e es ih =>
    obtain ⟨u, hu, rest⟩ := (Runs.exec_cons (step w)).mp run
    have keeps : Keeps s e := by
      by_contra fails
      have dead := failure_ends (working e (by simp)) fails hu
      have still := Runs.invariant (step w) (fun _ _ _ ok h => step_ended ok h) dead rest
      rw [running] at still
      contradiction
    refine ⟨keeps, ?_⟩
    intro v hv
    cases Option.some.inj (hu.symm.trans hv)
    exact ih rest (fun f hf => working f (List.mem_cons_of_mem e hf))

theorem kept_safe (run : Runs.exec (step w) .initial es = some s)
    (working : ∀ e ∈ es, e.working = true) (keeps : Runs.Along (step w) Keeps .initial es) :
    Safe s := by
  have initial : Looping (State.initial : State α) ∧ Accounted (State.initial : State α) :=
    ⟨⟨rfl, by simp [State.initial]⟩, rfl⟩
  have along := Runs.along_and (step w) (Runs.along_of_forall (step w) working) keeps
  have final : Looping s ∧ Accounted s :=
    Runs.invariant_along (I := fun s => Looping s ∧ Accounted s) (step w)
      (fun _ _ _ ok both h => ⟨step_looping ok.1 both.1 both.2 h, step_accounted ok.2 both.2 h⟩)
      initial along run
  refine ⟨looping_running final.1, ?_⟩
  intro x hx
  rw [← show _ = s.enqueued from final.2] at hx
  simpa only [List.mem_append, or_assoc] using hx

/-- While nobody shuts a worker down, its entries are safe exactly as long as every flush
that raises is the one in the try and raises a TimeoutError. -/
theorem safe_iff_flush_errors_caught (run : Runs.exec (step w) .initial es = some s)
    (working : ∀ e ∈ es, e.working = true) :
    Safe s ↔ Runs.Along (step w) Keeps .initial es :=
  ⟨fun safe => running_keeps run working safe.running, kept_safe run working⟩

end Failures

/- The property asked of both workers: a failing flush loses nothing. -/
def FlushFailuresLoseNothing : Prop :=
  (∀ (es : List (Event AuditCall)) (s : State AuditEntry),
    Runs.exec (step auditFlushWorker) .initial es = some s →
      (∀ e ∈ es, e.working = true) → Safe s) ∧
  (∀ (es : List (Event Reading)) (s : State Reading),
    Runs.exec (step metricFlushWorker) .initial es = some s →
      (∀ e ∈ es, e.working = true) → Safe s)

/-- Each worker survives a run, with every entry held somewhere, exactly when no flush of
that run raises outside the one place that catches it. -/
theorem flush_failures_lose_nothing_iff {es : List (Event AuditCall)} {s : State AuditEntry}
    {fs : List (Event Reading)} {t : State Reading}
    (audit : Runs.exec (step auditFlushWorker) .initial es = some s)
    (auditWorking : ∀ e ∈ es, e.working = true)
    (metric : Runs.exec (step metricFlushWorker) .initial fs = some t)
    (metricWorking : ∀ e ∈ fs, e.working = true) :
    (Safe s ↔ Runs.Along (step auditFlushWorker) Keeps .initial es) ∧
      (Safe t ↔ Runs.Along (step metricFlushWorker) Keeps .initial fs) :=
  ⟨safe_iff_flush_errors_caught audit auditWorking, safe_iff_flush_errors_caught metric metricWorking⟩

/- The flush of a full batch raises a TimeoutError, which the handler of the poll takes for its own, and the batch is
flushed again. -/
def retriedRun {κ : Type} (size : Nat) (k : κ) : List (Event κ) :=
  List.replicate (size + 2) (.call k) ++ List.replicate size .get ++
    [.flushRaised .timeout, .flushed, .get, .timeout, .flushed]

theorem flush_failures_lose_nothing_retried_run :
    ∃ s t, Runs.exec (step auditFlushWorker) .initial (retriedRun 20 loginCall) = some s ∧
      Runs.exec (step metricFlushWorker) .initial (retriedRun 50 cpuReading) = some t ∧
      (s.persisted.length, t.persisted.length) = (21, 51) ∧ Safe s ∧ Safe t := by
  have audit : (Runs.exec (step auditFlushWorker) .initial (retriedRun 20 loginCall)).map
      (fun s => s.persisted.length) = some 21 := by decide +kernel
  have metric : (Runs.exec (step metricFlushWorker) .initial (retriedRun 50 cpuReading)).map
      (fun s => s.persisted.length) = some 51 := by decide +kernel
  obtain ⟨s, first, entries⟩ := Option.map_eq_some_iff.mp audit
  obtain ⟨t, second, readings⟩ := Option.map_eq_some_iff.mp metric
  have both := flush_failures_lose_nothing_iff first (by decide +kernel) second (by decide +kernel)
  exact ⟨s, t, first, second, by rw [entries, readings], both.1.mpr (by decide +kernel), both.2.mpr (by decide +kernel)⟩

/- One entry whose flush, started by the timer, fails. -/
def failingRun {κ : Type} (k : κ) : List (Event κ) :=
  [.call k, .get, .timeout, .flushRaised .database]

theorem flush_failure_loses_entry : ¬ FlushFailuresLoseNothing := by
  intro claim
  have safe := claim.1 (failingRun loginCall)
    ⟨[], .raised, [], [], [⟨0, makeEntry loginCall⟩]⟩ rfl (by simp [failingRun, Event.working])
  have lost := safe.held ⟨0, makeEntry loginCall⟩ (by simp)
  simp [State.waiting] at lost

end VMachine.Batch
