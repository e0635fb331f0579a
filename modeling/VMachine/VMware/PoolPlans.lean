import VMachine.VMware.PoolSafety

/-! When nobody is cut off. A session is shared and evicted without regard to its users, so
the users have to see to it themselves: they plan how long a block lasts and whether it may
raise, and take a session only where the plan fits. Then none is disconnected under its user. -/
namespace VMachine.VMware

/- A plan for callers and sessions, by number: the last reading of the clock by which a caller
has parted with its session, the blocks that may raise, and the last reading at which a
session is good. -/
structure Timetable where
  ends : Nat → Int
  raises : Nat → Bool
  life : Nat → Int

/- Whoever has yet to part with a session is within its time. -/
def Timetable.OnTime (plan : Timetable) (s : PoolState) (now : Int) : Prop :=
  ∀ entry ∈ s.callers.zipIdx, entry.1.phase.session ≠ none → now ≤ plan.ends entry.2

/- The use fits into the life of the session, and is apart in time from the others who have
taken it, unless none of them raises. -/
def Timetable.Suits (plan : Timetable) (s : PoolState) (now : Int) (i id : Nat) : Prop :=
  plan.ends i ≤ plan.life id ∧ ∀ entry ∈ s.callers.zipIdx, entry.1.taken = some id →
    plan.ends entry.2 < now ∨ (plan.raises i = false ∧ plan.raises entry.2 = false)

/- When SmartConnect was called. -/
def Phase.began : Phase → Option Int
  | .connecting t0 => some t0
  | _ => none

/- What the plan allows at an action of the caller `i`: a session is taken where it suits, a
new one is good for no longer than its time to live, a session that fails its check has
reached the end of its life, and only those raise who may. -/
def Timetable.Allows (plan : Timetable) (cfg : PoolConfig) (s : PoolState) (i : Nat) : Action → Prop
  | .findHealthy now _ =>
    plan.OnTime s now ∧ ∀ id ∈ leastUsed (s.sweep (expired cfg s now)), plan.Suits s now i id
  | .checkHealth alive =>
    plan.OnTime s s.lastHealthCheck ∧ ∀ id ∈ s.pool, alive id = false → plan.life id < s.lastHealthCheck
  | .smartConnect ok =>
    ok = true → ∀ c ∈ s.callers[i]?, ∀ t0 ∈ c.phase.began, plan.life s.sessions.length ≤ t0 + cfg.sessionTtl
  | .keep => ∀ c ∈ s.callers[i]?, ∀ id ∈ c.phase.fresh, plan.ends i ≤ plan.life id
  | .leave how => how = .raised → plan.raises i = true
  | .readClock _ | .markCheck | .prepare _ | .remove | .disconnect => True

/- The step keeps to the plan. The whole pool is not shut down. -/
def Timetable.Keeps (plan : Timetable) (cfg : PoolConfig) (s : PoolState) : PoolEvent → Prop
  | .call _ => True
  | .act i action => plan.Allows cfg s i action
  | .disconnectAll => False

instance (plan : Timetable) (s : PoolState) (now : Int) : Decidable (plan.OnTime s now) :=
  inferInstanceAs (Decidable (∀ entry ∈ s.callers.zipIdx, entry.1.phase.session ≠ none → now ≤ plan.ends entry.2))

instance (plan : Timetable) (s : PoolState) (now : Int) (i id : Nat) : Decidable (plan.Suits s now i id) :=
  inferInstanceAs (Decidable (_ ∧ ∀ entry ∈ s.callers.zipIdx, entry.1.taken = some id → _ ∨ _))

instance (plan : Timetable) (cfg : PoolConfig) (s : PoolState) (i : Nat) (action : Action) :
    Decidable (plan.Allows cfg s i action) :=
  match action with
  | .findHealthy _ _ => inferInstanceAs (Decidable (_ ∧ ∀ id ∈ leastUsed _, plan.Suits s _ i id))
  | .checkHealth alive => inferInstanceAs (Decidable (_ ∧ ∀ id ∈ s.pool, alive id = false → _))
  | .smartConnect ok => inferInstanceAs (Decidable (ok = true → ∀ c ∈ s.callers[i]?, ∀ t0 ∈ c.phase.began, _))
  | .keep => inferInstanceAs (Decidable (∀ c ∈ s.callers[i]?, ∀ id ∈ c.phase.fresh, _))
  | .leave how => inferInstanceAs (Decidable (how = .raised → _))
  | .readClock _ | .markCheck | .prepare _ | .remove | .disconnect => .isTrue trivial

instance (plan : Timetable) (cfg : PoolConfig) (s : PoolState) (e : PoolEvent) : Decidable (plan.Keeps cfg s e) :=
  match e with
  | .call _ => .isTrue trivial
  | .act i action => inferInstanceAs (Decidable (plan.Allows cfg s i action))
  | .disconnectAll => .isFalse id

/- What the plan comes to in every state. -/
structure Punctual (plan : Timetable) (cfg : PoolConfig) (s : PoolState) : Prop where
  lasting : ∀ id pc, s.sessions[id]? = some pc → plan.life id ≤ pc.createdAt + cfg.sessionTtl
  within : ∀ (j : Nat) c id, s.callers[j]? = some c → c.phase.session = some id → plan.ends j ≤ plan.life id
  apart : ∀ (j k : Nat) c other id, s.callers[j]? = some c → c.phase.session = some id → s.callers[k]? = some other →
    other.phase.session = some id → j ≠ k → plan.raises j = false
  raised : ∀ (j : Nat) c id, s.callers[j]? = some c → c.phase = .ejecting id ∨ c.phase = .disconnecting id →
    plan.raises j = true

section Plans
variable {plan : Timetable} {cfg : PoolConfig} {s t : PoolState} {i : Nat} {c : Caller}

theorem mem_callers {j : Nat} (found : s.callers[j]? = some c) : (c, j) ∈ s.callers.zipIdx :=
  List.mem_zipIdx_iff_getElem?.mpr found

theorem user_of_users {id : Nat} (used : s.users id ≠ 0) : ∃ (j : Nat) (other : Caller),
    s.callers[j]? = some other ∧ other.phase = .holding id := by
  have some_user : 0 < s.callers.countP (PoolState.isUsing id) := Nat.pos_of_ne_zero used
  obtain ⟨other, listed, holding⟩ := List.countP_pos_iff.mp some_user
  obtain ⟨j, found⟩ := List.mem_iff_getElem?.mp listed
  exact ⟨j, other, found, by simpa [PoolState.isUsing] using holding⟩

/-- Nobody is left on a session whose life is over, and nobody shares one with a block that raises. -/
theorem Punctual.considerate (punctual : Punctual plan cfg s) {e : PoolEvent} (keeps : plan.Keeps cfg s e) :
    Considerate cfg s e := by
  intro id known doomed
  by_contra used
  obtain ⟨j, other, found, holding⟩ := user_of_users used
  have session : other.phase.session = some id := by simp [holding, Phase.session]
  have within := punctual.within j other id found session
  cases e with
  | call block => contradiction
  | disconnectAll => exact keeps
  | act i action =>
    cases action with
    | findHealthy now usedAt =>
      have onTime : _ ≤ plan.ends j := keeps.1 (other, j) (mem_callers found) (by simp [session])
      have there := List.getElem?_eq_getElem known
      have lasting := punctual.lasting id _ there
      have old : cfg.sessionTtl < now - (s.sessions[id]).createdAt := by
        simp only [withdraws, expired, PoolState.age, there, Bool.and_eq_true, decide_eq_true_eq] at doomed
        exact doomed.2
      omega
    | checkHealth alive =>
      have onTime : _ ≤ plan.ends j := keeps.1 (other, j) (mem_callers found) (by simp [session])
      simp only [withdraws, Bool.and_eq_true, decide_eq_true_eq, Bool.not_eq_true'] at doomed
      have past := keeps.2 id doomed.1 doomed.2
      omega
    | remove =>
      obtain ⟨c, here, ejecting⟩ : ∃ c, s.callers[i]? = some c ∧ c.phase = .ejecting id := by
        simpa [withdraws, Option.any_eq_true] using doomed
      have differs : i ≠ j := by
        rintro rfl
        cases here.symm.trans found
        rw [holding] at ejecting
        contradiction
      have alone := punctual.apart i j c other id here (by simp [ejecting, Phase.session]) found session differs
      rw [punctual.raised i c id here (.inl ejecting)] at alone
      contradiction
    | _ => simp [withdraws] at doomed

/-- A caller goes on with what it has, or with less. -/
theorem Punctual.onward (punctual : Punctual plan cfg s) (here : s.callers[i]? = some c) (after : Caller)
    (callers : t.callers = s.callers.set i after)
    (sessions : ∀ id pc, t.sessions[id]? = some pc → plan.life id ≤ pc.createdAt + cfg.sessionTtl)
    (fewer : ∀ id, after.phase.session = some id → c.phase.session = some id)
    (raised : ∀ id, after.phase = .ejecting id ∨ after.phase = .disconnecting id → plan.raises i = true) :
    Punctual plan cfg t where
  lasting := sessions
  within j other id found session := by
    rw [callers] at found
    obtain ⟨rfl, rfl⟩ | ⟨_, old⟩ := Parties.of_set found
    · exact punctual.within j c id here (fewer id session)
    · exact punctual.within j other id old session
  apart j k first second id found session found' session' differs := by
    rw [callers] at found found'
    obtain ⟨rfl, rfl⟩ | ⟨_, old⟩ := Parties.of_set found
    · obtain ⟨rfl, rfl⟩ | ⟨_, old'⟩ := Parties.of_set found'
      · exact absurd rfl differs
      · exact punctual.apart _ _ c second id here (fewer id session) old' session' differs
    · obtain ⟨rfl, rfl⟩ | ⟨_, old'⟩ := Parties.of_set found'
      · exact punctual.apart _ _ first c id old session here (fewer id session') differs
      · exact punctual.apart _ _ first second id old session old' session' differs
  raised j other id found leaving := by
    rw [callers] at found
    obtain ⟨rfl, rfl⟩ | ⟨_, old⟩ := Parties.of_set found
    · exact raised id leaving
    · exact punctual.raised j other id old leaving

/-- A caller gets a session that suits it. -/
theorem Punctual.received (punctual : Punctual plan cfg s) (id : Nat) (after : Caller)
    (phase : after.phase = (PoolState.received c id).phase) (callers : t.callers = s.callers.set i after)
    (sessions : ∀ id pc, t.sessions[id]? = some pc → plan.life id ≤ pc.createdAt + cfg.sessionTtl)
    (fits : plan.ends i ≤ plan.life id)
    (calm : ∀ (j : Nat) other, s.callers[j]? = some other → other.phase.session = some id →
      plan.raises i = false ∧ plan.raises j = false) : Punctual plan cfg t := by
  obtain ⟨owning, _, staying, _⟩ := received_phase c id
  rw [← phase] at owning
  have unraised : ∀ number, ¬ (after.phase = .ejecting number ∨ after.phase = .disconnecting number) := by
    rw [phase]
    cases block : c.block <;> simp [PoolState.received, block]
  refine ⟨sessions, ?_, ?_, ?_⟩
  · intro j other number found session
    rw [callers] at found
    obtain ⟨rfl, rfl⟩ | ⟨_, old⟩ := Parties.of_set found
    · rw [owning number session]
      exact fits
    · exact punctual.within j other number old session
  · intro j k first second number found session found' session' differs
    rw [callers] at found found'
    obtain ⟨rfl, rfl⟩ | ⟨_, old⟩ := Parties.of_set found
    · obtain ⟨rfl, rfl⟩ | ⟨_, old'⟩ := Parties.of_set found'
      · exact absurd rfl differs
      · rw [owning number session] at session'
        exact (calm k second old' session').1
    · obtain ⟨rfl, rfl⟩ | ⟨_, old'⟩ := Parties.of_set found'
      · rw [owning number session'] at session
        exact (calm j first old session).2
      · exact punctual.apart j k first second number old session old' session' differs
  · intro j other number found leaving
    rw [callers] at found
    obtain ⟨rfl, rfl⟩ | ⟨_, old⟩ := Parties.of_set found
    · exact absurd leaving (unraised number)
    · exact punctual.raised j other number old leaving

/-- Using a session does not make it younger or older. -/
theorem Punctual.lasting_modify (punctual : Punctual plan cfg s) {id : Nat} {f : PooledConnection → PooledConnection}
    (sessions : t.sessions = s.sessions.modify id f) (same : ∀ pc, (f pc).createdAt = pc.createdAt)
    (number : Nat) (pc : PooledConnection) (found : t.sessions[number]? = some pc) :
    plan.life number ≤ pc.createdAt + cfg.sessionTtl := by
  rw [sessions, List.getElem?_modify] at found
  obtain ⟨old, there, changed⟩ := Option.map_eq_some_iff.mp found
  have lasting := punctual.lasting number old there
  rw [← changed]
  split
  · rw [same]
    exact lasting
  · exact lasting

theorem Punctual.acted {action : Action} (punctual : Punctual plan cfg s) (inv : PoolInv cfg s)
    (here : s.callers[i]? = some c) (allowed : plan.Allows cfg s i action)
    (effect : Effect cfg s i c action t) : Punctual plan cfg t := by
  cases effect with
  | waits out next last reconnected failed _ _ _ onward _ =>
    refine punctual.onward here { c with phase := next } rfl punctual.lasting ?_ ?_
    · simp [onward]
    · rintro id (rfl | rfl)
      · contradiction
      · contradiction
  | reuses out id now usedAt _ _ _ _ find least =>
    subst find
    obtain ⟨onTime, suits⟩ := allowed
    obtain ⟨fits, others⟩ := suits id least
    refine punctual.received id { PoolState.received c id with age := some _ } rfl rfl
      (punctual.lasting_modify rfl (fun _ => rfl)) fits ?_
    intro j other found session
    have listed := mem_callers found
    have current := onTime (other, j) listed (by simp [session])
    obtain gone | calm := others (other, j) listed (inv.owning other (List.mem_of_getElem? found) id session)
    · exact absurd current (Int.not_le.mpr gone)
    · exact calm
  | opens t0 connecting opened =>
    subst opened
    have lasting := allowed rfl c here t0 (by simp [connecting, Phase.began])
    refine punctual.onward here { c with phase := .connected s.sessions.length } rfl ?_ (by simp [Phase.session])
      (by simp)
    intro id pc found
    obtain old | ⟨rfl, rfl⟩ : s.sessions[id]? = some pc ∨ (id = s.sessions.length ∧ pc = ⟨t0, t0, 0, i⟩) := by
      simp only [PoolState.opened, List.getElem?_append] at found
      split at found
      · exact .inl found
      · simp only [List.getElem?_singleton, Option.ite_none_right_eq_some, Option.some.injEq] at found
        exact .inr ⟨by omega, found.2.symm⟩
    · exact punctual.lasting id pc old
    · exact lasting
  | keeps id connected keep =>
    subst keep
    have fits := allowed c here id (by simp [connected, Phase.fresh])
    have unshared := inv.fresh i c id here (by simp [connected, Phase.fresh])
    refine punctual.received id { PoolState.received c id with
      surplus := !decide (s.pool.length < cfg.maxPoolSize) } rfl rfl
      (punctual.lasting_modify rfl (fun _ => rfl)) fits ?_
    intro j other found session
    exact absurd (inv.owning other (List.mem_of_getElem? found) id session) (inv.untaken unshared found)
  | leaves how id leave holding =>
    subst leave
    refine punctual.onward here _ rfl punctual.lasting ?_ ?_
    · intro number session
      by_cases raised : how = .raised
      · simpa [raised, holding, Phase.session] using session
      · simp [raised, Phase.session] at session
    · intro number leaving
      by_cases raised : how = .raised
      · exact allowed raised
      · simp [raised] at leaving
  | removes id _ ejecting =>
    refine punctual.onward here { c with phase := .disconnecting id } rfl punctual.lasting ?_ ?_
    · simp [ejecting, Phase.session]
    · exact fun _ _ => punctual.raised i c id here (.inl ejecting)
  | disconnects id disconnecting =>
    exact punctual.onward here { c with phase := .done } rfl punctual.lasting (by simp [Phase.session]) (by simp)

theorem Punctual.stepped (e : PoolEvent) (punctual : Punctual plan cfg s) (inv : PoolInv cfg s)
    (keeps : plan.Keeps cfg s e) (run : poolStep cfg s e = some t) : Punctual plan cfg t := by
  cases e with
  | call block =>
    cases run
    refine ⟨punctual.lasting, ?_, ?_, ?_⟩
    · intro j other id found session
      obtain rfl | old := Parties.of_append found
      · contradiction
      · exact punctual.within j other id old session
    · intro j k first second id found session found' session' differs
      obtain rfl | old := Parties.of_append found
      · contradiction
      · obtain rfl | old' := Parties.of_append found'
        · contradiction
        · exact punctual.apart j k first second id old session old' session' differs
    · intro j other id found leaving
      obtain rfl | old := Parties.of_append found
      · simp at leaving
      · exact punctual.raised j other id old leaving
  | act i action =>
    obtain ⟨c, here, acts⟩ := Option.bind_eq_some_iff.mp run
    exact punctual.acted inv here keeps (act_effect acts)
  | disconnectAll => exact absurd keeps id

end Plans

/-- Callers who keep to a plan are never cut off: whoever they are, however they interleave. -/
theorem punctual_runs_close_no_user {plan : Timetable} {cfg : PoolConfig} {es : List PoolEvent} {s : PoolState}
    (keeps : Runs.Along (poolStep cfg) (plan.Keeps cfg) .initial es)
    (run : Runs.exec (poolStep cfg) .initial es = some s) : NeverUnderUser s := by
  have start : PoolInv cfg .initial ∧ Punctual plan cfg .initial ∧ Unharmed .initial := by
    refine ⟨initial_inv cfg, ⟨?_, ?_, ?_, ?_⟩, ?_, ?_⟩ <;> simp [NeverUnderUser, PoolState.initial]
  have kept : PoolInv cfg s ∧ Punctual plan cfg s ∧ Unharmed s := by
    refine Runs.invariant_along (I := fun s => PoolInv cfg s ∧ Punctual plan cfg s ∧ Unharmed s) (poolStep cfg) ?_
      start keeps run
    rintro s e t ⟨inv, punctual, unharmed⟩ keeps step
    exact ⟨inv.stepped e step, punctual.stepped e inv keeps step,
      unharmed.stepped e inv (punctual.considerate keeps) step⟩
  exact kept.2.2.past

/- Two callers share a session and leave it; a third comes when it is too old, opens another,
and its block raises. -/
def relay : List PoolEvent :=
  creates 0 10 ++ [.call true, .act 1 (.readClock 20), .act 1 (.findHealthy 20 21), .act 0 (.leave .returned),
    .act 1 (.leave .returned), .call true, .act 2 (.readClock 700), .act 2 .markCheck, .act 2 (.checkHealth fun _ => true),
    .act 2 (.findHealthy 700 700), .act 2 (.prepare 700), .act 2 (.smartConnect true), .act 2 .keep,
    .act 2 (.leave .raised), .act 2 .remove, .act 2 .disconnect]

def relayPlan : Timetable where
  ends i := if i = 2 then 750 else 60
  raises i := decide (i = 2)
  life id := if id = 0 then 610 else 1300

theorem relay_closes_no_user :
    ∃ s, Runs.exec (poolStep {}) .initial relay = some s ∧ NeverUnderUser s ∧ s.closedIds = [0, 1] := by
  have whole : ∃ s, Runs.exec (poolStep {}) .initial relay = some s ∧ s.closedIds = [0, 1] := ⟨_, rfl, rfl⟩
  obtain ⟨s, run, closed⟩ := whole
  refine ⟨s, run, @punctual_runs_close_no_user relayPlan _ _ _ ?_ run, closed⟩
  decide +kernel

end VMachine.VMware
