import VMachine.Lib.Python
import VMachine.Lib.Runs

/-! The two background workers that write queued dictionaries to the database in
batches: `audit_flush_worker` and `metric_flush_worker`. They are one loop with two
batch sizes, so the loop is modelled once and each worker is an instance of it. A step
of the model runs from one await to the next, which is all that asyncio can interleave. -/
namespace VMachine.Batch

/-- A dictionary on a queue. The serial number is the identity of the dictionary object:
two calls with the same arguments still put two different objects. -/
structure Item (α : Type) where
  serial : Nat
  entry : α
  deriving DecidableEq, Repr

/-- What distinguishes one worker from the other. `entryOf` is the dictionary that one
producer call puts, or none when the call returns without putting anything. -/
structure Worker (κ α : Type) where
  batchSize : Nat
  positive : 0 < batchSize
  entryOf : κ → Option α

/- The await at which the worker is suspended, or how its coroutine ended. -/
inductive Point where
  | polling
  | sizeFlush
  | idleFlush
  | finalFlush
  | returned
  | raised
  | cancelled
  deriving DecidableEq, Repr

def Point.flushing : Point → Bool
  | .sizeFlush | .idleFlush | .finalFlush => true
  | _ => false

/- The worker is inside its while loop. -/
def Point.looping : Point → Bool
  | .polling | .sizeFlush | .idleFlush => true
  | _ => false

def Point.ended : Point → Bool
  | .returned | .raised | .cancelled => true
  | _ => false

/- The handler of the loop is for asyncio.TimeoutError only, so an exception that a
flush raises is one of two kinds. -/
inductive FlushError where
  | database
  | timeout
  deriving DecidableEq, Repr

/- `landed` says whether the transaction that a cancellation interrupts had reached the
database. -/
inductive Event (κ : Type) where
  | call (k : κ)
  | sentinel
  | get
  | timeout
  | flushed
  | flushRaised (error : FlushError)
  | cancelled (landed : Bool)
  deriving DecidableEq, Repr

/- No flush raises, and a flush that a cancellation interrupts reaches the database. -/
def Event.flushesOk {κ : Type} : Event κ → Bool
  | .flushRaised _ => false
  | .cancelled landed => landed
  | _ => true

structure State (α : Type) where
  queue : List (Option (Item α))
  point : Point
  batch : List (Item α)
  persisted : List (Item α)
  enqueued : List (Item α)
  deriving DecidableEq, Repr

def State.initial {α : Type} : State α := ⟨[], .polling, [], [], []⟩

def State.waiting {α : Type} (s : State α) : List (Item α) := s.queue.filterMap id

section Steps
variable {κ α : Type} (w : Worker κ α)

def put (s : State α) (k : κ) : State α :=
  match w.entryOf k with
  | none => s
  | some a =>
    let x : Item α := ⟨s.enqueued.length, a⟩
    { s with queue := s.queue ++ [some x], enqueued := s.enqueued ++ [x] }

def putSentinel (s : State α) : State α := { s with queue := s.queue ++ [none] }

/- After the loop: flush what is left, and return. -/
def afterLoop (s : State α) : State α :=
  if s.batch.isEmpty then { s with point := .returned } else { s with point := .finalFlush }

def appendEntry (s : State α) (x : Item α) : State α :=
  if w.batchSize ≤ (s.batch ++ [x]).length then
    { s with batch := s.batch ++ [x], point := .sizeFlush }
  else { s with batch := s.batch ++ [x] }

/- The handler of asyncio.TimeoutError. -/
def onTimeout (s : State α) : State α :=
  if s.batch.isEmpty then { s with point := .polling } else { s with point := .idleFlush }

/- `_flush_batch` and `_flush_metric_batch` returned: one transaction with every entry. -/
def flushTo (p : Point) (s : State α) : State α :=
  { s with persisted := s.persisted ++ s.batch, batch := [], point := p }

/- The coroutine is over, and with it the local list that held the batch. -/
def leave (p : Point) (s : State α) : State α := { s with batch := [], point := p }

def step (s : State α) : Event κ → Option (State α)
  | .call k => some (put w s k)
  | .sentinel => some (putSentinel s)
  | .get =>
    match s.point, s.queue with
    | .polling, none :: q => some (afterLoop { s with queue := q })
    | .polling, some x :: q => some (appendEntry w { s with queue := q } x)
    | _, _ => none
  | .timeout =>
    match s.point with
    | .polling => some (onTimeout s)
    | _ => none
  | .flushed =>
    match s.point with
    | .sizeFlush | .idleFlush => some (flushTo .polling s)
    | .finalFlush => some (flushTo .returned s)
    | _ => none
  | .flushRaised error =>
    match s.point, error with
    | .sizeFlush, .timeout => some (onTimeout s)
    | .sizeFlush, .database => some (leave .raised s)
    | .idleFlush, _ | .finalFlush, _ => some (leave .raised s)
    | _, _ => none
  | .cancelled landed =>
    match s.point with
    | .polling => some (leave .cancelled s)
    | .sizeFlush | .idleFlush | .finalFlush =>
      some (if landed then flushTo .cancelled s else leave .cancelled s)
    | _ => none

theorem put_cases (s : State α) (k : κ) :
    put w s k = s ∨ ∃ x : Item α, x.serial = s.enqueued.length ∧
      put w s k = { s with queue := s.queue ++ [some x], enqueued := s.enqueued ++ [x] } := by
  unfold put
  split
  · exact .inl rfl
  · exact .inr ⟨_, rfl, rfl⟩

variable {w}

theorem step_get {s t : State α} (h : step w s .get = some t) :
    s.point = .polling ∧
      ((∃ q, s.queue = none :: q ∧ t = afterLoop { s with queue := q }) ∨
        ∃ x q, s.queue = some x :: q ∧ t = appendEntry w { s with queue := q } x) := by
  simp only [step] at h
  split at h
  · rename_i q hp hq
    exact ⟨hp, .inl ⟨q, hq, (Option.some.inj h).symm⟩⟩
  · rename_i x q hp hq
    exact ⟨hp, .inr ⟨x, q, hq, (Option.some.inj h).symm⟩⟩
  · contradiction

theorem step_timeout {s t : State α} (h : step w s .timeout = some t) :
    s.point = .polling ∧ t = onTimeout s := by
  simp only [step] at h
  split at h
  · rename_i hp
    exact ⟨hp, (Option.some.inj h).symm⟩
  · contradiction

theorem step_flushed {s t : State α} (h : step w s .flushed = some t) :
    ((s.point = .sizeFlush ∨ s.point = .idleFlush) ∧ t = flushTo .polling s) ∨
      (s.point = .finalFlush ∧ t = flushTo .returned s) := by
  simp only [step] at h
  split at h
  · rename_i hp
    exact .inl ⟨.inl hp, (Option.some.inj h).symm⟩
  · rename_i hp
    exact .inl ⟨.inr hp, (Option.some.inj h).symm⟩
  · rename_i hp
    exact .inr ⟨hp, (Option.some.inj h).symm⟩
  · contradiction

/-- A flush that raises ends the worker, except a TimeoutError of the flush that sits
inside the try: the handler takes it for a poll timeout and flushes again. -/
theorem step_flushRaised {s t : State α} {error : FlushError}
    (h : step w s (.flushRaised error) = some t) :
    s.point.flushing = true ∧
      ((s.point = .sizeFlush ∧ error = .timeout ∧ t = onTimeout s) ∨
        (¬ (s.point = .sizeFlush ∧ error = .timeout) ∧ t = leave .raised s)) := by
  simp only [step] at h
  split at h
  · rename_i hp
    exact ⟨by rw [hp]; rfl, .inl ⟨hp, rfl, (Option.some.inj h).symm⟩⟩
  · rename_i hp
    exact ⟨by rw [hp]; rfl, .inr ⟨by simp, (Option.some.inj h).symm⟩⟩
  · rename_i hp
    exact ⟨by rw [hp]; rfl, .inr ⟨by simp [hp], (Option.some.inj h).symm⟩⟩
  · rename_i hp
    exact ⟨by rw [hp]; rfl, .inr ⟨by simp [hp], (Option.some.inj h).symm⟩⟩
  · contradiction

theorem step_cancelled {s t : State α} {landed : Bool}
    (h : step w s (.cancelled landed) = some t) :
    (s.point = .polling ∧ t = leave .cancelled s) ∨
      (s.point.flushing = true ∧
        t = if landed then flushTo .cancelled s else leave .cancelled s) := by
  simp only [step] at h
  split at h
  · rename_i hp
    exact .inl ⟨hp, (Option.some.inj h).symm⟩
  · rename_i hp
    exact .inr ⟨by rw [hp]; rfl, (Option.some.inj h).symm⟩
  · rename_i hp
    exact .inr ⟨by rw [hp]; rfl, (Option.some.inj h).symm⟩
  · rename_i hp
    exact .inr ⟨by rw [hp]; rfl, (Option.some.inj h).symm⟩
  · contradiction

end Steps

end VMachine.Batch
