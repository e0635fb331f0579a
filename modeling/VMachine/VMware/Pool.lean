import Mathlib.Data.List.MinMax
import Mathlib.Data.List.Nodup
import VMachine.Lib.Parties
import VMachine.Lib.Runs

/-! `VMwareConnectionPool`: sessions with vCenter that are shared by any number of callers.
A section under the lock is one step, and so is what a caller does between two of them, so
a run is an interleaving of the callers. Readings of the clock, the outcome of SmartConnect
and what CurrentTime says of each session come with the events; nothing is assumed of them.
Session numbers stand for ServiceInstance objects, in the order in which they were opened. -/
namespace VMachine.VMware

structure PoolConfig where
  vmwareReady : Bool := true
  maxPoolSize : Nat := 4
  sessionTtl : Int := 600
  healthCheckInterval : Int := 60
  deriving Repr

/- `openedBy` is the caller whose SmartConnect it was. -/
structure PooledConnection where
  createdAt : Int
  lastUsedAt : Int
  useCount : Nat
  openedBy : Nat
  deriving Repr, DecidableEq

/- How far a call of acquire() or connection() has come. -/
inductive Phase where
  | entered
  | due (now : Int)
  | checking
  | searching
  | missing
  | connecting (t0 : Int)
  | connected (id : Nat)
  | holding (id : Nat)
  | ejecting (id : Nat)
  | disconnecting (id : Nat)
  | done
  deriving Repr, DecidableEq

/- `block` says that it is a connection() block and not a bare acquire(). What its acquire
returned is kept: the connection, its age if it was reused, and whether it was created when
the pool was full. -/
structure Caller where
  block : Bool
  phase : Phase := .entered
  taken : Option Nat := none
  age : Option Int := none
  surplus : Bool := false
  deriving Repr, DecidableEq

/- A session passed to Disconnect, and the number of blocks that were open on it. -/
structure Closing where
  id : Nat
  users : Nat
  deriving Repr, DecidableEq

structure PoolState where
  sessions : List PooledConnection
  pool : List Nat
  lastHealthCheck : Int
  connCreated : Nat
  connReused : Nat
  connReconnected : Nat
  connFailed : Nat
  callers : List Caller
  closed : List Closing
  deriving Repr

def PoolState.initial : PoolState := ⟨[], [], 0, 0, 0, 0, 0, [], []⟩

/- A block is left normally, by an Exception, or by another BaseException, which the
`except Exception` of connection() lets pass. -/
inductive Exit where
  | returned
  | raised
  | interrupted
  deriving Repr, DecidableEq

inductive Action where
  | readClock (now : Int)
  | markCheck
  | checkHealth (alive : Nat → Bool)
  | findHealthy (now usedAt : Int)
  | prepare (t0 : Int)
  | smartConnect (ok : Bool)
  | keep
  | leave (how : Exit)
  | remove
  | disconnect

inductive PoolEvent where
  | call (block : Bool)
  | act (i : Nat) (action : Action)
  | disconnectAll

namespace PoolState
variable (s : PoolState)

def isUsing (id : Nat) (c : Caller) : Bool := decide (c.phase = .holding id)

/- The blocks that are open on a session. -/
def users (id : Nat) : Nat := s.callers.countP (isUsing id)

def useCount (id : Nat) : Nat :=
  match s.sessions[id]? with
  | some pc => pc.useCount
  | none => 0

def age (now : Int) (id : Nat) : Int :=
  match s.sessions[id]? with
  | some pc => now - pc.createdAt
  | none => 0

/- The caller goes on, and nothing else happens. -/
def move (i : Nat) (c : Caller) : PoolState := { s with callers := s.callers.set i c }

/- The pooled sessions of a kind are taken out of the pool and disconnected. -/
def sweep (doomed : Nat → Bool) : PoolState :=
  { s with
    pool := s.pool.filter (fun id => !doomed id)
    closed := s.closed ++ (s.pool.filter doomed).map (fun id => ⟨id, s.users id⟩) }

/- What acquire returns to its caller, who enters the block if there is one. -/
def received (c : Caller) (id : Nat) : Caller :=
  { c with phase := if c.block then .holding id else .done, taken := some id }

def reuse (i : Nat) (c : Caller) (id : Nat) (now usedAt : Int) : PoolState :=
  { s with
    sessions := s.sessions.modify id (fun pc => { pc with useCount := pc.useCount + 1, lastUsedAt := usedAt })
    connReused := s.connReused + 1
    callers := s.callers.set i { received c id with age := some (s.age now id) } }

/- SmartConnect returns. The use count of 1 is set on an object that no other caller sees
before the lock is taken, so it is counted there. -/
def opened (i : Nat) (c : Caller) (t0 : Int) : PoolState :=
  { s with
    sessions := s.sessions ++ [⟨t0, t0, 0, i⟩]
    callers := s.callers.set i { c with phase := .connected s.sessions.length } }

/- The section under the lock at the end of `_create_new`. -/
def kept (maxPoolSize i : Nat) (c : Caller) (id : Nat) : PoolState :=
  { s with
    sessions := s.sessions.modify id (fun pc => { pc with useCount := 1 })
    pool := if s.pool.length < maxPoolSize then s.pool ++ [id] else s.pool
    connCreated := s.connCreated + 1
    callers := s.callers.set i { received c id with surplus := !decide (s.pool.length < maxPoolSize) } }

def removed (i : Nat) (c : Caller) (id : Nat) : PoolState :=
  { s with pool := s.pool.erase id, callers := s.callers.set i { c with phase := .disconnecting id } }

def disconnected (i : Nat) (c : Caller) (id : Nat) : PoolState :=
  { s with closed := s.closed ++ [⟨id, s.users id⟩], callers := s.callers.set i { c with phase := .done } }

end PoolState

/- `min(survivors, key=lambda c: c.use_count)`, the first of the least used. -/
def leastUsed (s : PoolState) : Option Nat := s.pool.argmin s.useCount

/- `(now - pc.created_at) > self.session_ttl`. -/
def expired (cfg : PoolConfig) (s : PoolState) (now : Int) (id : Nat) : Bool :=
  decide (cfg.sessionTtl < s.age now id)

/- What the caller `i`, who stands at `c`, does next. -/
def act (cfg : PoolConfig) (s : PoolState) (i : Nat) (c : Caller) (action : Action) : Option PoolState :=
  match action, c.phase with
  | .readClock now, .entered =>
    some (s.move i { c with
      phase := if now - s.lastHealthCheck < cfg.healthCheckInterval then .searching else .due now })
  | .markCheck, .due now => some ({ s with lastHealthCheck := now }.move i { c with phase := .checking })
  | .checkHealth alive, .checking =>
    let swept := s.sweep (fun id => !alive id)
    some ({ swept with
      connReconnected := s.connReconnected + (s.pool.countP (fun id => !alive id)) }.move i
        { c with phase := .searching })
  | .findHealthy now usedAt, .searching =>
    let swept := s.sweep (expired cfg s now)
    match leastUsed swept with
    | some id => some (swept.reuse i c id now usedAt)
    | none => some (swept.move i { c with phase := .missing })
  | .prepare t0, .missing =>
    some (s.move i { c with phase := if cfg.vmwareReady then .connecting t0 else .done })
  | .smartConnect ok, .connecting t0 =>
    if ok then some (s.opened i c t0)
    else some ({ s with connFailed := s.connFailed + 1 }.move i { c with phase := .done })
  | .keep, .connected id => some (s.kept cfg.maxPoolSize i c id)
  | .leave how, .holding id =>
    some (s.move i { c with phase := if how = .raised then .ejecting id else .done })
  | .remove, .ejecting id => some (s.removed i c id)
  | .disconnect, .disconnecting id => some (s.disconnected i c id)
  | _, _ => none

def poolStep (cfg : PoolConfig) (s : PoolState) : PoolEvent → Option PoolState
  | .call block => some { s with callers := s.callers ++ [{ block := block }] }
  | .act i action => (s.callers[i]?).bind (fun c => act cfg s i c action)
  | .disconnectAll => some (s.sweep (fun _ => true))

/- The sessions that a step disconnects, or takes out of the pool to be disconnected: those
that fail the health check, those that are too old, that of a block which has raised. -/
def withdraws (cfg : PoolConfig) (s : PoolState) (e : PoolEvent) (id : Nat) : Bool :=
  match e with
  | .act _ (.checkHealth alive) => decide (id ∈ s.pool) && !alive id
  | .act _ (.findHealthy now _) => decide (id ∈ s.pool) && expired cfg s now id
  | .act i .remove => (s.callers[i]?).any (fun c => decide (c.phase = .ejecting id))
  | .disconnectAll => decide (id ∈ s.pool)
  | _ => false

/- The session that a caller uses or is about to disconnect. -/
def Phase.session : Phase → Option Nat
  | .holding id | .ejecting id | .disconnecting id => some id
  | _ => none

/- The call of acquire() has not returned yet. -/
def Phase.acquiring : Phase → Bool
  | .holding _ | .ejecting _ | .disconnecting _ | .done => false
  | _ => true

/- The session just opened, which nobody else knows of. -/
def Phase.fresh : Phase → Option Nat
  | .connected id => some id
  | _ => none

/- Everything that an action can do: go on after a sweep of the pool, get a connection, or
part with one. -/
inductive Effect (cfg : PoolConfig) (s : PoolState) (i : Nat) (c : Caller) (action : Action) : PoolState → Prop where
  | waits (out : Nat → Bool) (next : Phase) (last : Int) (reconnected failed : Nat)
      (swept : ∀ id ∈ s.pool, out id = true → withdraws cfg s (.act i action) id = true)
      (acquiring : c.phase.acquiring = true) (unfresh : c.phase.fresh = none)
      (onward : next.session = none) (connected : next.fresh = none) :
      Effect cfg s i c action ({ s.sweep out with
        lastHealthCheck := last, connReconnected := reconnected, connFailed := failed }.move i
          { c with phase := next })
  | reuses (out : Nat → Bool) (id : Nat) (now usedAt : Int)
      (swept : ∀ id ∈ s.pool, out id = true → withdraws cfg s (.act i action) id = true)
      (searching : c.phase = .searching) (pooled : id ∈ (s.sweep out).pool)
      (young : s.age now id ≤ cfg.sessionTtl) (found : action = .findHealthy now usedAt)
      (least : leastUsed (s.sweep (expired cfg s now)) = some id) :
      Effect cfg s i c action ((s.sweep out).reuse i c id now usedAt)
  | opens (t0 : Int) (connecting : c.phase = .connecting t0) (opened : action = .smartConnect true) :
      Effect cfg s i c action (s.opened i c t0)
  | keeps (id : Nat) (connected : c.phase = .connected id) (keep : action = .keep) :
      Effect cfg s i c action (s.kept cfg.maxPoolSize i c id)
  | leaves (how : Exit) (id : Nat) (leave : action = .leave how) (holding : c.phase = .holding id) :
      Effect cfg s i c action (s.move i { c with phase := if how = .raised then .ejecting id else .done })
  | removes (id : Nat) (remove : action = .remove) (ejecting : c.phase = .ejecting id) :
      Effect cfg s i c action (s.removed i c id)
  | disconnects (id : Nat) (disconnecting : c.phase = .disconnecting id) :
      Effect cfg s i c action (s.disconnected i c id)

theorem sweep_nothing (s : PoolState) : s.sweep (fun _ => false) = s := by
  simp [PoolState.sweep]

/-- An action that sweeps nothing. -/
theorem Effect.idle {cfg : PoolConfig} {s : PoolState} {i : Nat} {c : Caller} {action : Action} {next : Phase}
    (last : Int) (reconnected failed : Nat) (acquiring : c.phase.acquiring = true)
    (unfresh : c.phase.fresh = none) (onward : next.session = none) (connected : next.fresh = none) :
    Effect cfg s i c action ({ s with
      lastHealthCheck := last, connReconnected := reconnected, connFailed := failed }.move i
        { c with phase := next }) := by
  have effect := @Effect.waits cfg s i c action (fun _ => false) next last reconnected failed
    (by simp) acquiring unfresh onward connected
  rwa [sweep_nothing] at effect

theorem act_effect {cfg : PoolConfig} {s t : PoolState} {i : Nat} {c : Caller} {action : Action}
    (run : act cfg s i c action = some t) : Effect cfg s i c action t := by
  unfold act at run
  split at run
  case h_1 now phase =>
    cases run
    apply Effect.idle _ _ _ (by simp [phase, Phase.acquiring]) (by simp [phase, Phase.fresh])
    · split <;> rfl
    · split <;> rfl
  case h_2 now phase =>
    cases run
    exact Effect.idle now _ _ (by simp [phase, Phase.acquiring]) (by simp [phase, Phase.fresh]) rfl rfl
  case h_3 alive phase =>
    cases run
    apply Effect.waits (fun id => !alive id) _ _ _ _ _ (by simp [phase, Phase.acquiring])
      (by simp [phase, Phase.fresh]) rfl rfl
    intro id pooled dead
    simpa [withdraws, pooled] using dead
  case h_4 now usedAt phase =>
    have old : ∀ id ∈ s.pool, expired cfg s now id = true →
        withdraws cfg s (.act i (.findHealthy now usedAt)) id = true := by
      intro id pooled old
      simpa [withdraws, pooled] using old
    dsimp only at run
    split at run
    · rename_i id found
      cases run
      have survives := List.argmin_mem found
      have spared := (List.mem_filter.mp survives).2
      simp only [expired, Bool.not_eq_true', decide_eq_false_iff_not, Int.not_lt] at spared
      exact .reuses _ id now usedAt old phase survives spared rfl found
    · cases run
      exact .waits _ _ _ _ _ old (by simp [phase, Phase.acquiring]) (by simp [phase, Phase.fresh]) rfl rfl
  case h_5 t0 phase =>
    cases run
    apply Effect.idle _ _ _ (by simp [phase, Phase.acquiring]) (by simp [phase, Phase.fresh])
    · split <;> rfl
    · split <;> rfl
  case h_6 ok t0 phase =>
    split at run
    · rename_i opened
      cases run
      exact .opens t0 phase (by rw [opened])
    · cases run
      exact Effect.idle _ _ (s.connFailed + 1) (by simp [phase, Phase.acquiring])
        (by simp [phase, Phase.fresh]) rfl rfl
  case h_7 id phase =>
    cases run
    exact .keeps id phase rfl
  case h_8 how id phase =>
    cases run
    exact .leaves how id rfl phase
  case h_9 id phase =>
    cases run
    exact .removes id rfl phase
  case h_10 id phase =>
    cases run
    exact .disconnects id phase
  case h_11 => contradiction

def took (id : Nat) (c : Caller) : Bool := decide (c.taken = some id)

def PoolState.closedIds (s : PoolState) : List Nat := s.closed.map (fun closing => closing.id)

/- What the pool promises at every moment. -/
structure PoolRepresentation (cfg : PoolConfig) (s : PoolState) : Prop where
  size : s.pool.length ≤ cfg.maxPoolSize
  nodup : s.pool.Nodup
  alive : ∀ id ∈ s.pool, id ∉ s.closedIds
  accounted : s.connCreated + s.connReused = s.callers.countP (fun c => c.taken.isSome)
  counted : ∀ id < s.sessions.length, s.useCount id = s.callers.countP (took id)
  young : ∀ c ∈ s.callers, ∀ age, c.age = some age → age ≤ cfg.sessionTtl

/- A session that only the caller who has opened it can reach. -/
structure Unshared (s : PoolState) (i id : Nat) : Prop where
  known : ∃ pc, s.sessions[id]? = some pc ∧ pc.openedBy = i ∧ pc.useCount = 0
  unpooled : id ∉ s.pool
  open_ : id ∉ s.closedIds

/- Where every caller stands with respect to the pool. -/
structure PoolInv (cfg : PoolConfig) (s : PoolState) : Prop extends PoolRepresentation cfg s where
  known : ∀ id ∈ s.pool, id < s.sessions.length
  closedKnown : ∀ id ∈ s.closedIds, id < s.sessions.length
  takenKnown : ∀ c ∈ s.callers, ∀ id, c.taken = some id → id < s.sessions.length
  owning : ∀ c ∈ s.callers, ∀ id, c.phase.session = some id → c.taken = some id
  waiting : ∀ c ∈ s.callers, c.phase.acquiring = true → c.taken = none
  ejected : ∀ c ∈ s.callers, ∀ id, c.phase = .disconnecting id → id ∉ s.pool
  fresh : ∀ i c id, s.callers[i]? = some c → c.phase.fresh = some id → Unshared s i id

theorem initial_inv (cfg : PoolConfig) : PoolInv cfg .initial where
  size := Nat.zero_le _
  nodup := List.nodup_nil
  alive := by simp [PoolState.initial]
  accounted := rfl
  counted := by simp [PoolState.initial]
  young := by simp [PoolState.initial]
  known := by simp [PoolState.initial]
  closedKnown := by simp [PoolState.initial, PoolState.closedIds]
  takenKnown := by simp [PoolState.initial]
  owning := by simp [PoolState.initial]
  waiting := by simp [PoolState.initial]
  ejected := by simp [PoolState.initial]
  fresh := by simp [PoolState.initial]

section Preservation
variable {cfg : PoolConfig} {s : PoolState} {i : Nat} {c : Caller}

theorem useCount_eq {id : Nat} {pc : PooledConnection} (found : s.sessions[id]? = some pc) :
    s.useCount id = pc.useCount := by
  simp [PoolState.useCount, found]

theorem Unshared.lt {id : Nat} (unshared : Unshared s i id) : id < s.sessions.length := by
  obtain ⟨pc, found, _⟩ := unshared.known
  exact (List.getElem?_eq_some_iff.mp found).1

/-- Nobody has taken a session that its opener has not come to share. -/
theorem PoolInv.untaken (inv : PoolInv cfg s) {id j : Nat} {other : Caller} (unshared : Unshared s i id)
    (found : s.callers[j]? = some other) : other.taken ≠ some id := by
  obtain ⟨pc, there, _, unused⟩ := unshared.known
  have none := inv.counted id unshared.lt
  rw [useCount_eq there, unused] at none
  have out := Parties.not_of_countP_eq_zero none.symm found
  simpa [took] using out

/-- A new caller has taken nothing. -/
theorem PoolInv.called (inv : PoolInv cfg s) (block : Bool) :
    PoolInv cfg { s with callers := s.callers ++ [{ block := block }] } where
  size := inv.size
  nodup := inv.nodup
  alive := inv.alive
  accounted := by
    have accounted := inv.accounted
    simpa [List.countP_append] using accounted
  counted id bound := by
    have counted := inv.counted id bound
    simpa [List.countP_append, took, PoolState.useCount] using counted
  young := Parties.forall_append inv.young (by simp)
  known := inv.known
  closedKnown := inv.closedKnown
  takenKnown := Parties.forall_append inv.takenKnown (by simp)
  owning := Parties.forall_append inv.owning (by simp [Phase.session])
  waiting := Parties.forall_append inv.waiting (fun _ => rfl)
  ejected := Parties.forall_append inv.ejected (by simp)
  fresh j other id found connected := by
    obtain rfl | old := Parties.of_append found
    · contradiction
    · obtain ⟨known, unpooled, open_⟩ := inv.fresh j other id old connected
      exact ⟨known, unpooled, open_⟩

/-- A caller goes on who has no fresh session and keeps what it has taken. -/
theorem PoolInv.moved (inv : PoolInv cfg s) (here : s.callers[i]? = some c) (next : Phase)
    (owning : ∀ id, next.session = some id → c.taken = some id)
    (waiting : next.acquiring = true → c.taken = none) (ejected : ∀ id, next = .disconnecting id → id ∉ s.pool)
    (fresh : next.fresh = none) : PoolInv cfg (s.move i { c with phase := next }) where
  size := inv.size
  nodup := inv.nodup
  alive := inv.alive
  accounted := by
    have accounted := inv.accounted
    rw [← Parties.countP_set_same { c with phase := next } (fun c => c.taken.isSome) here rfl]
      at accounted
    exact accounted
  counted id bound := by
    have counted := inv.counted id bound
    rw [← Parties.countP_set_same { c with phase := next } (took id) here rfl] at counted
    exact counted
  young := Parties.forall_set inv.young (inv.young c (List.mem_of_getElem? here))
  known := inv.known
  closedKnown := inv.closedKnown
  takenKnown := Parties.forall_set inv.takenKnown (inv.takenKnown c (List.mem_of_getElem? here))
  owning := Parties.forall_set inv.owning owning
  waiting := Parties.forall_set inv.waiting waiting
  ejected := Parties.forall_set inv.ejected ejected
  fresh j other id found connected := by
    obtain ⟨rfl, rfl⟩ | ⟨_, old⟩ := Parties.of_set found
    · rw [fresh] at connected
      contradiction
    · obtain ⟨known, unpooled, open_⟩ := inv.fresh j other id old connected
      exact ⟨known, unpooled, open_⟩

theorem mem_closedIds_sweep {doomed : Nat → Bool} {id : Nat} (closed : id ∈ (s.sweep doomed).closedIds) :
    id ∈ s.closedIds ∨ (id ∈ s.pool ∧ doomed id = true) := by
  simp only [PoolState.closedIds, PoolState.sweep, List.map_append, List.mem_append, List.map_map,
    List.mem_map] at closed
  obtain old | ⟨other, swept, rfl⟩ := closed
  · exact .inl (List.mem_map.mpr old)
  · exact .inr (List.mem_filter.mp swept)

theorem mem_closedIds_disconnected {id other : Nat} :
    other ∈ (s.disconnected i c id).closedIds ↔ other ∈ s.closedIds ∨ other = id := by
  simp [PoolState.closedIds, PoolState.disconnected]

theorem mem_pool_kept {maxPoolSize id other : Nat} :
    other ∈ (s.kept maxPoolSize i c id).pool ↔ other ∈ s.pool ∨ (other = id ∧ s.pool.length < maxPoolSize) := by
  simp only [PoolState.kept]
  split
  · rename_i room
    simp [room]
  · rename_i full
    simp [full]

theorem PoolInv.swept (inv : PoolInv cfg s) (doomed : Nat → Bool) : PoolInv cfg (s.sweep doomed) where
  size := Nat.le_trans (List.length_filter_le _ _) inv.size
  nodup := inv.nodup.filter _
  alive id pooled closed := by
    obtain ⟨before, spared⟩ := List.mem_filter.mp pooled
    obtain old | ⟨_, swept⟩ := mem_closedIds_sweep closed
    · exact inv.alive id before old
    · simp [swept] at spared
  accounted := inv.accounted
  counted := inv.counted
  young := inv.young
  known id pooled := inv.known id (List.mem_filter.mp pooled).1
  closedKnown id closed := by
    obtain old | ⟨pooled, _⟩ := mem_closedIds_sweep closed
    · exact inv.closedKnown id old
    · exact inv.known id pooled
  takenKnown := inv.takenKnown
  owning := inv.owning
  waiting := inv.waiting
  ejected other listed id phase pooled := inv.ejected other listed id phase (List.mem_filter.mp pooled).1
  fresh j other id found connected := by
    obtain ⟨known, unpooled, open_⟩ := inv.fresh j other id found connected
    refine ⟨known, fun pooled => unpooled (List.mem_filter.mp pooled).1, ?_⟩
    intro closed
    obtain old | ⟨pooled, _⟩ := mem_closedIds_sweep closed
    · exact open_ old
    · exact unpooled pooled

/-- Counting one more use of one session. -/
theorem useCount_modify (f : PooledConnection → PooledConnection) (id other : Nat) :
    ({ s with sessions := s.sessions.modify id f }).useCount other =
      if id = other then (match s.sessions[other]? with | some pc => (f pc).useCount | none => 0)
      else s.useCount other := by
  simp only [PoolState.useCount, List.getElem?_modify]
  cases s.sessions[other]? with
  | none => simp
  | some pc =>
    by_cases same : id = other
    · simp [same]
    · simp [same]

/-- A session is found as it was by everybody but the one who changes it. -/
theorem Unshared.modified {t : PoolState} {j id other : Nat} {f : PooledConnection → PooledConnection}
    (unshared : Unshared s j other) (differs : id ≠ other) (sessions : t.sessions = s.sessions.modify id f)
    (pool : other ∈ t.pool → other ∈ s.pool) (closed : t.closedIds = s.closedIds) : Unshared t j other := by
  obtain ⟨⟨pc, found, opener, unused⟩, unpooled, open_⟩ := unshared
  refine ⟨⟨pc, ?_, opener, unused⟩, fun pooled => unpooled (pool pooled), by rwa [closed]⟩
  rw [sessions, List.getElem?_modify, found]
  simp [differs]

/-- The caller's acquire has returned a connection: what a reuse and a creation have in common. -/
theorem PoolInv.received (inv : PoolInv cfg s) (here : s.callers[i]? = some c) (untaken : c.taken = none)
    {t : PoolState} {id : Nat} (after : Caller) (f : PooledConnection → PooledConnection)
    (bound : id < s.sessions.length) (taken : after.taken = some id)
    (owning : ∀ other, after.phase.session = some other → other = id)
    (returned : after.phase.acquiring = false) (staying : ∀ other, after.phase ≠ .disconnecting other)
    (unfresh : after.phase.fresh = none)
    (young : ∀ age, after.age = some age → age ≤ cfg.sessionTtl)
    (once : ∀ pc, s.sessions[id]? = some pc → (f pc).useCount = pc.useCount + 1)
    (callers : t.callers = s.callers.set i after) (sessions : t.sessions = s.sessions.modify id f)
    (closed : t.closedIds = s.closedIds) (counters : t.connCreated + t.connReused = s.connCreated + s.connReused + 1)
    (size : t.pool.length ≤ cfg.maxPoolSize) (nodup : t.pool.Nodup)
    (pool : ∀ other ∈ t.pool, other ∈ s.pool ∨ other = id) (pooled : id ∈ t.pool → id ∉ s.closedIds)
    (apart : ∀ j other, j ≠ i → Unshared s j other → id ≠ other)
    (unejected : ∀ other ∈ s.callers, other.phase = .disconnecting id → id ∉ t.pool) : PoolInv cfg t where
  size := size
  nodup := nodup
  alive other listed := by
    rw [closed]
    obtain before | rfl := pool other listed
    · exact inv.alive other before
    · exact pooled listed
  accounted := by
    rw [counters, inv.accounted, callers]
    exact (Parties.countP_set_more _ _ here (by simp [untaken]) (by simp [taken])).symm
  counted other known := by
    rw [sessions, List.length_modify] at known
    have before := inv.counted other known
    have now : t.useCount other = ({ s with sessions := s.sessions.modify id f }).useCount other := by
      simp only [PoolState.useCount, sessions]
    rw [now, useCount_modify, callers]
    by_cases same : id = other
    · subst same
      have found : s.sessions[id]? = some s.sessions[id] := List.getElem?_eq_getElem known
      rw [if_pos rfl, found]
      change (f s.sessions[id]).useCount = _
      rw [once _ found, ← useCount_eq found, before]
      exact (Parties.countP_set_more _ _ here (by simp [took, untaken]) (by simp [took, taken])).symm
    · rw [if_neg same, before]
      exact (Parties.countP_set_same _ _ here (by simp [took, untaken, taken, same])).symm
  young := by
    rw [callers]
    exact Parties.forall_set inv.young young
  known other listed := by
    rw [sessions, List.length_modify]
    obtain before | rfl := pool other listed
    · exact inv.known other before
    · exact bound
  closedKnown other listed := by
    rw [closed] at listed
    rw [sessions, List.length_modify]
    exact inv.closedKnown other listed
  takenKnown := by
    rw [callers, sessions, List.length_modify]
    refine Parties.forall_set inv.takenKnown ?_
    intro number taken'
    cases taken.symm.trans taken'
    exact bound
  owning := by
    rw [callers]
    refine Parties.forall_set inv.owning ?_
    intro number session
    rw [owning number session, taken]
  waiting := by
    rw [callers]
    refine Parties.forall_set inv.waiting ?_
    intro acquiring
    rw [returned] at acquiring
    contradiction
  ejected := by
    rw [callers]
    refine Parties.forall_set ?_ (fun number phase => absurd phase (staying number))
    intro other listed number phase pooled'
    obtain before | rfl := pool number pooled'
    · exact inv.ejected other listed number phase before
    · exact unejected other listed phase pooled'
  fresh j other number found connected := by
    rw [callers] at found
    obtain ⟨rfl, rfl⟩ | ⟨elsewhere, old⟩ := Parties.of_set found
    · rw [unfresh] at connected
      contradiction
    · have unshared := inv.fresh j other number old connected
      have differs := apart j number elsewhere unshared
      apply unshared.modified differs sessions ?_ closed
      intro listed
      obtain before | same := pool number listed
      · exact before
      · exact absurd same.symm differs

theorem received_phase (c : Caller) (id : Nat) :
    (∀ other, (PoolState.received c id).phase.session = some other → other = id) ∧
      (PoolState.received c id).phase.acquiring = false ∧
      (∀ other, (PoolState.received c id).phase ≠ .disconnecting other) ∧
      (PoolState.received c id).phase.fresh = none := by
  cases block : c.block with
  | true => simp [PoolState.received, block, Phase.session, Phase.acquiring, Phase.fresh, eq_comm]
  | false => simp [PoolState.received, block, Phase.session, Phase.acquiring, Phase.fresh]

theorem PoolInv.reused (inv : PoolInv cfg s) (here : s.callers[i]? = some c) (untaken : c.taken = none)
    {id : Nat} (pooled : id ∈ s.pool) (now usedAt : Int) (young : s.age now id ≤ cfg.sessionTtl) :
    PoolInv cfg (s.reuse i c id now usedAt) := by
  obtain ⟨owning, returned, staying, unfresh⟩ := received_phase c id
  apply inv.received here untaken { PoolState.received c id with age := some (s.age now id) }
    (fun pc => { pc with useCount := pc.useCount + 1, lastUsedAt := usedAt })
    (inv.known id pooled) rfl owning returned staying unfresh
  · intro age aged
    cases aged
    exact young
  · exact fun _ _ => rfl
  · rfl
  · rfl
  · rfl
  · exact (Nat.add_assoc _ _ _).symm
  · exact inv.size
  · exact inv.nodup
  · exact fun other listed => .inl listed
  · exact fun _ => inv.alive id pooled
  · rintro j other _ unshared rfl
    exact unshared.unpooled pooled
  · exact fun other listed phase => inv.ejected other listed id phase

theorem PoolInv.opened (inv : PoolInv cfg s) (here : s.callers[i]? = some c) (untaken : c.taken = none)
    (t0 : Int) : PoolInv cfg (s.opened i c t0) where
  size := inv.size
  nodup := inv.nodup
  alive := inv.alive
  accounted := by
    have accounted := inv.accounted
    rw [← Parties.countP_set_same { c with phase := .connected s.sessions.length } (fun c => c.taken.isSome) here rfl]
      at accounted
    exact accounted
  counted id bound := by
    have same := Parties.countP_set_same { c with phase := .connected s.sessions.length } (took id) here rfl
    simp only [PoolState.opened, List.length_append, List.length_singleton] at bound
    simp only [PoolState.opened, PoolState.useCount, same]
    by_cases old : id < s.sessions.length
    · rw [List.getElem?_append_left old]
      exact inv.counted id old
    · have new : id = s.sessions.length := by omega
      subst new
      rw [List.getElem?_concat_length]
      refine (Parties.countP_eq_zero_of _ (fun j other found => ?_)).symm
      have listed := List.mem_of_getElem? found
      by_contra taken
      have known := inv.takenKnown other listed s.sessions.length (by simpa [took] using taken)
      omega
  young := Parties.forall_set inv.young (inv.young c (List.mem_of_getElem? here))
  known id pooled := by
    have known := inv.known id pooled
    simp only [PoolState.opened, List.length_append, List.length_singleton]
    omega
  closedKnown id closed := by
    have known := inv.closedKnown id closed
    simp only [PoolState.opened, List.length_append, List.length_singleton]
    omega
  takenKnown := by
    refine Parties.forall_set ?_ (by simp [untaken])
    intro other listed id taken
    have known := inv.takenKnown other listed id taken
    simp only [PoolState.opened, List.length_append, List.length_singleton]
    omega
  owning := Parties.forall_set inv.owning (by simp [Phase.session])
  waiting := Parties.forall_set inv.waiting (fun _ => untaken)
  ejected := Parties.forall_set inv.ejected (by simp)
  fresh j other id found connected := by
    obtain ⟨rfl, rfl⟩ | ⟨_, old⟩ := Parties.of_set found
    · cases connected
      refine ⟨⟨⟨t0, t0, 0, j⟩, by simp [PoolState.opened], rfl, rfl⟩, ?_, ?_⟩
      · intro pooled
        exact absurd (inv.known _ pooled) (Nat.lt_irrefl _)
      · intro closed
        exact absurd (inv.closedKnown _ closed) (Nat.lt_irrefl _)
    · obtain ⟨⟨pc, there, opener, unused⟩, unpooled, open_⟩ := inv.fresh j other id old connected
      refine ⟨⟨pc, ?_, opener, unused⟩, unpooled, open_⟩
      rw [PoolState.opened, List.getElem?_append_left (List.getElem?_eq_some_iff.mp there).1]
      exact there

theorem PoolInv.kept (inv : PoolInv cfg s) (here : s.callers[i]? = some c) {id : Nat}
    (connected : c.phase = .connected id) : PoolInv cfg (s.kept cfg.maxPoolSize i c id) := by
  obtain ⟨owning, returned, staying, unfresh⟩ := received_phase c id
  have unshared := inv.fresh i c id here (by simp [connected, Phase.fresh])
  have untaken := inv.waiting c (List.mem_of_getElem? here) (by simp [connected, Phase.acquiring])
  have old := inv.young c (List.mem_of_getElem? here)
  obtain ⟨pc, found, opener, unused⟩ := unshared.known
  apply inv.received here untaken
    { PoolState.received c id with surplus := !decide (s.pool.length < cfg.maxPoolSize) }
    (fun pc => { pc with useCount := 1 }) unshared.lt rfl owning returned staying unfresh
  · exact old
  · intro other found'
    cases found.symm.trans found'
    rw [unused]
  · rfl
  · rfl
  · rfl
  · exact Nat.add_right_comm _ _ _
  · simp only [PoolState.kept]
    split
    · simpa using ‹_›
    · exact inv.size
  · simp only [PoolState.kept]
    split
    · exact List.nodup_append_comm.mp (List.nodup_cons.mpr ⟨unshared.unpooled, inv.nodup⟩)
    · exact inv.nodup
  · intro other listed
    exact (mem_pool_kept.mp listed).imp_right And.left
  · exact fun _ => unshared.open_
  · rintro j other elsewhere shared rfl
    obtain ⟨pc', found', opener', _⟩ := shared.known
    cases found.symm.trans found'
    exact elsewhere (opener'.symm.trans opener)
  · intro other listed phase
    obtain ⟨j, found'⟩ := List.mem_iff_getElem?.mp listed
    exact absurd (inv.owning other listed id (by simp [phase, Phase.session])) (inv.untaken unshared found')

theorem PoolInv.erased (inv : PoolInv cfg s) (id : Nat) : PoolInv cfg { s with pool := s.pool.erase id } where
  size := Nat.le_trans List.length_erase_le inv.size
  nodup := inv.nodup.erase id
  alive other pooled := inv.alive other (List.mem_of_mem_erase pooled)
  accounted := inv.accounted
  counted := inv.counted
  young := inv.young
  known other pooled := inv.known other (List.mem_of_mem_erase pooled)
  closedKnown := inv.closedKnown
  takenKnown := inv.takenKnown
  owning := inv.owning
  waiting := inv.waiting
  ejected other listed number phase pooled := inv.ejected other listed number phase (List.mem_of_mem_erase pooled)
  fresh j other number found connected := by
    obtain ⟨known, unpooled, open_⟩ := inv.fresh j other number found connected
    exact ⟨known, fun pooled => unpooled (List.mem_of_mem_erase pooled), open_⟩

theorem PoolInv.removed (inv : PoolInv cfg s) (here : s.callers[i]? = some c) {id : Nat}
    (ejecting : c.phase = .ejecting id) : PoolInv cfg (s.removed i c id) := by
  have taken := inv.owning c (List.mem_of_getElem? here) id (by simp [ejecting, Phase.session])
  refine (inv.erased id).moved here _ (by simp [Phase.session, taken]) (by simp [Phase.acquiring]) ?_ rfl
  rintro _ ⟨⟩
  exact inv.nodup.not_mem_erase

/-- Whoever disconnects a session has taken it, and has taken it out of the pool. -/
theorem PoolInv.disconnected (inv : PoolInv cfg s) (here : s.callers[i]? = some c) {id : Nat}
    (disconnecting : c.phase = .disconnecting id) : PoolInv cfg (s.disconnected i c id) := by
  have unpooled := inv.ejected c (List.mem_of_getElem? here) id disconnecting
  have taken := inv.owning c (List.mem_of_getElem? here) id (by simp [disconnecting, Phase.session])
  have moved := inv.moved here .done (by simp [Phase.session]) (by simp [Phase.acquiring])
    (by simp) rfl
  exact
    { moved with
      alive := fun other pooled gone => by
        obtain old | rfl := mem_closedIds_disconnected.mp gone
        · exact inv.alive other pooled old
        · exact unpooled pooled
      closedKnown := fun other gone => by
        obtain old | rfl := mem_closedIds_disconnected.mp gone
        · exact inv.closedKnown other old
        · exact inv.takenKnown c (List.mem_of_getElem? here) other taken
      fresh := fun j other number found connected => by
        obtain ⟨known, unpooled', open_⟩ := moved.fresh j other number found connected
        refine ⟨known, unpooled', fun gone => ?_⟩
        obtain old | rfl := mem_closedIds_disconnected.mp gone
        · exact open_ old
        · obtain ⟨rfl, rfl⟩ | ⟨_, before⟩ := Parties.of_set found
          · contradiction
          · exact inv.untaken (inv.fresh j other number before connected) here taken }

/-- The time of the last check and the two other counters matter to nothing here. -/
theorem PoolInv.noted (inv : PoolInv cfg s) (lastHealthCheck : Int) (connReconnected connFailed : Nat) :
    PoolInv cfg { s with
      lastHealthCheck := lastHealthCheck, connReconnected := connReconnected, connFailed := connFailed } :=
  { inv with
    fresh := fun j other id found connected => by
      obtain ⟨known, unpooled, open_⟩ := inv.fresh j other id found connected
      exact ⟨known, unpooled, open_⟩ }

/-- A caller that is still acquiring goes on to a phase in which it is, or gives up. -/
theorem PoolInv.waited (inv : PoolInv cfg s) (here : s.callers[i]? = some c)
    (acquiring : c.phase.acquiring = true) {next : Phase} (onward : next.session = none)
    (fresh : next.fresh = none) : PoolInv cfg (s.move i { c with phase := next }) := by
  have untaken := inv.waiting c (List.mem_of_getElem? here) acquiring
  apply inv.moved here next _ (fun _ => untaken) _ fresh
  · rintro id session
    rw [onward] at session
    contradiction
  · rintro id rfl
    contradiction

theorem PoolInv.acted {t : PoolState} {action : Action} (inv : PoolInv cfg s) (here : s.callers[i]? = some c)
    (effect : Effect cfg s i c action t) : PoolInv cfg t := by
  have listed := List.mem_of_getElem? here
  cases effect with
  | waits out next last reconnected failed _ acquiring _ onward connected =>
    exact ((inv.swept out).noted last reconnected failed).waited here acquiring onward connected
  | reuses out id now usedAt _ searching pooled young =>
    have untaken := inv.waiting c listed (by simp [searching, Phase.acquiring])
    exact (inv.swept out).reused here untaken pooled now usedAt young
  | opens t0 connecting =>
    have untaken := inv.waiting c listed (by simp [connecting, Phase.acquiring])
    exact inv.opened here untaken t0
  | keeps id connected => exact inv.kept here connected
  | leaves how id _ holding =>
    have taken := inv.owning c listed id (by simp [holding, Phase.session])
    apply inv.moved here _
    · split <;> simp [Phase.session, taken]
    · split <;> simp [Phase.acquiring]
    · split <;> simp
    · split <;> rfl
  | removes id _ ejecting => exact inv.removed here ejecting
  | disconnects id disconnecting => exact inv.disconnected here disconnecting

theorem PoolInv.stepped {t : PoolState} (e : PoolEvent) (inv : PoolInv cfg s)
    (run : poolStep cfg s e = some t) : PoolInv cfg t := by
  cases e with
  | call block =>
    cases run
    exact inv.called block
  | act i action =>
    obtain ⟨c, here, acts⟩ := Option.bind_eq_some_iff.mp run
    exact inv.acted here (act_effect acts)
  | disconnectAll =>
    cases run
    exact inv.swept _

end Preservation

theorem reachable_inv {cfg : PoolConfig} {es : List PoolEvent} {s : PoolState}
    (run : Runs.exec (poolStep cfg) .initial es = some s) : PoolInv cfg s :=
  Runs.invariant (poolStep cfg) (fun _ e _ inv step => inv.stepped e step) (initial_inv cfg) run

/-- In every state that any callers can bring about, the pool is within its size, holds no
connection twice or disconnected, and its counters are the acquisitions made. -/
theorem pool_representation (cfg : PoolConfig) (es : List PoolEvent) (s : PoolState)
    (run : Runs.exec (poolStep cfg) .initial es = some s) : PoolRepresentation cfg s :=
  (reachable_inv run).toPoolRepresentation

/- A caller who finds the pool empty, up to the connection it gets. -/
def creates (i : Nat) (now : Int) : List PoolEvent :=
  [.call true, .act i (.readClock now), .act i (.findHealthy now now), .act i (.prepare now),
    .act i (.smartConnect true), .act i .keep]

theorem shared_connection_representation :
    ∃ s, Runs.exec (poolStep {}) .initial
      (creates 0 10 ++ [.call false, .act 1 (.readClock 20), .act 1 (.findHealthy 20 21)]) = some s ∧
      PoolRepresentation {} s ∧ s.useCount 0 = 2 := by
  have whole : ∃ s, Runs.exec (poolStep {}) .initial
      (creates 0 10 ++ [.call false, .act 1 (.readClock 20), .act 1 (.findHealthy 20 21)]) = some s ∧
      s.useCount 0 = 2 := ⟨_, rfl, rfl⟩
  obtain ⟨s, run, used⟩ := whole
  exact ⟨s, run, pool_representation {} _ s run, used⟩

end VMachine.VMware
